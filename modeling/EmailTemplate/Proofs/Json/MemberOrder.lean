import EmailTemplate.Proofs.Json.Record

/-!
# The order of members

A record read from an object does not depend on the order of its members (`agrees_of_perm`), so that
it makes no difference that an object keeps its members in the order of their keys.
-/

namespace EmailTemplate.Json

section Sorting
variable {key : String} {value : Json} {members sorted : List (String × Json)}

/-- Inserting a member with a new key adds it, wherever it goes. -/
lemma insertMember_perm (new : key ∉ members.map Prod.fst) :
    (insertMember key value members).Perm ((key, value) :: members) := by
  induction members with
  | nil => exact .refl _
  | cons m members ih =>
    obtain ⟨k, v⟩ := m
    rw [List.map_cons, List.mem_cons, not_or] at new
    rw [insertMember]
    split
    · exact .refl _
    · rw [if_neg new.1]
      exact ((ih new.2).cons (k, v)).trans (.swap _ _ _)

/-- Members with distinct keys are inserted one after another, and none is lost. -/
lemma foldl_insertMember_perm (keys : ((sorted ++ members).map Prod.fst).Nodup) :
    (members.foldl (fun sorted (key, value) => insertMember key value sorted) sorted).Perm
      (sorted ++ members) := by
  induction members generalizing sorted with
  | nil =>
    rw [List.append_nil]
    exact .refl _
  | cons m members ih =>
    obtain ⟨key, value⟩ := m
    have new : key ∉ sorted.map Prod.fst := by
      rw [List.map_append, List.map_cons, List.nodup_middle, List.nodup_cons] at keys
      exact fun old => keys.1 (List.mem_append_left _ old)
    have moved : (insertMember key value sorted ++ members).Perm
        (sorted ++ (key, value) :: members) :=
      ((insertMember_perm new).append_right members).trans List.perm_middle.symm
    exact (ih ((moved.map Prod.fst).nodup_iff.2 keys)).trans moved

/-- Where no key is repeated, an object has the members that it was given. -/
lemma exists_ofMembers (keys : (members.map Prod.fst).Nodup) :
    ∃ sorted, Json.ofMembers members = .obj sorted ∧ sorted.Perm members :=
  ⟨_, rfl, foldl_insertMember_perm keys⟩

end Sorting

/-- Two readings of a record agree: if one is without error then so is the other, and every field
has the same value. -/
def Record.Agrees {κ ε ε' : Type} [BEq κ] (r : Record κ ε) (r' : Record κ ε') : Prop :=
  (r.error = none ↔ r'.error = none) ∧ (r.error = none → r.get = r'.get)

/-- Readings that agree with one agree with each other. -/
lemma Record.Agrees.trans {κ ε₁ ε₂ ε₃ : Type} [BEq κ] {r₁ : Record κ ε₁} {r₂ : Record κ ε₂}
    {r₃ : Record κ ε₃} (h : r₁.Agrees r₂) (h' : r₂.Agrees r₃) : r₁.Agrees r₃ :=
  ⟨h.1.trans h'.1, fun ok => (h.2 ok).trans (h'.2 (h.1.1 ok))⟩

/-- Wording its error in another way leaves a reading the same. -/
lemma Record.agrees_mapError {κ ε ε' : Type} [BEq κ] (f : ε → ε') (r : Record κ ε) :
    r.Agrees (r.mapError f) :=
  ⟨Option.map_eq_none_iff.symm, fun _ => rfl⟩

namespace Schema
variable {κ : Type} {s : Schema κ} {members members' : List (String × Json)}

/-- Whether the keys of an object denote different fields does not depend on their order. -/
lemma Distinct.perm (perm : members.Perm members') (distinct : s.Distinct members) :
    s.Distinct members' :=
  ((perm.filterMap _).map Prod.fst).nodup_iff.1 distinct

variable [BEq κ] [LawfulBEq κ]

/-- What is looked up under distinct keys does not depend on their order. -/
lemma lookup_perm {entries entries' : List (κ × Json)} (perm : entries.Perm entries')
    (distinct : (entries.map Prod.fst).Nodup) (k : κ) : entries.lookup k = entries'.lookup k := by
  apply Option.ext
  intro value
  rw [lookup_eq_some_iff_mem distinct, lookup_eq_some_iff_mem ((perm.map _).nodup_iff.1 distinct)]
  exact perm.mem_iff

variable (s) in
/-- An object is read as a record as it is with its members in another order. -/
lemma agrees_of_perm (perm : members.Perm members') :
    (s.ofValue (.obj members)).Agrees (s.ofValue (.obj members')) := by
  obtain ⟨distinct, read⟩ | ⟨twice, k, error⟩ := s.ofValue_cases members
  · obtain ⟨-, read'⟩ | ⟨twice', -⟩ := s.ofValue_cases members'
    · rw [read, read']
      refine ⟨Iff.rfl, fun _ => ?_⟩
      funext k
      exact congrArg (Option.getD · .null) (lookup_perm (perm.filterMap _) distinct k)
    · exact absurd (distinct.perm perm) twice'
  · obtain ⟨distinct', -⟩ | ⟨-, k', error'⟩ := s.ofValue_cases members'
    · exact absurd (distinct'.perm perm.symm) twice
    · rw [Record.Agrees, error, error']
      exact ⟨⟨nofun, nofun⟩, nofun⟩

end Schema

end EmailTemplate.Json
