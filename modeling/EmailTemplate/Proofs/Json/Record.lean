import EmailTemplate.Json.Record
import Mathlib.Data.List.Nodup
import Mathlib.Data.List.Pairwise

/-!
# Reading a record from an object

An object is read as a record exactly if no two of its keys denote one field (`Schema.Distinct`);
each field then has the value of the member that denotes it. The only error is that a field is there
twice, and it takes two spellings of one field, since a key occurs once in an object.
-/

namespace EmailTemplate.Json.Schema

variable {κ : Type} (s : Schema κ)

/-- The members of an object that are fields of a record. -/
def entries (members : List (String × Json)) : List (κ × Json) :=
  members.filterMap fun m => (s.field? m.1).map fun k => (k, m.2)

/-- No two members of an object denote one field. -/
def Distinct (members : List (String × Json)) : Prop :=
  ((s.entries members).map Prod.fst).Nodup

instance [DecidableEq κ] (members : List (String × Json)) : Decidable (s.Distinct members) :=
  inferInstanceAs (Decidable ((s.entries members).map Prod.fst).Nodup)

/-- The value of a field in an object; one that is missing is null. -/
def valueOf [BEq κ] (members : List (String × Json)) (k : κ) : Json :=
  ((s.entries members).lookup k).getD .null

section Entries
variable {s} {key : String} {value : Json} {members : List (String × Json)}

/-- A member that is no field counts for nothing. -/
lemma entries_cons_none (h : s.field? key = none) :
    s.entries ((key, value) :: members) = s.entries members := by
  apply List.filterMap_cons_none
  rw [h, Option.map_none]

/-- A member that is a field is the first of the fields. -/
lemma entries_cons_some {k : κ} (h : s.field? key = some k) :
    s.entries ((key, value) :: members) = (k, value) :: s.entries members := by
  apply List.filterMap_cons_some
  rw [h, Option.map_some]

/-- A member whose key denotes a field is among the fields. -/
lemma mem_entries {k : κ} (mem : (key, value) ∈ members) (h : s.field? key = some k) :
    (k, value) ∈ s.entries members := by
  apply List.mem_filterMap.2
  refine ⟨(key, value), mem, ?_⟩
  rw [h, Option.map_some]

/-- Under distinct keys, a value is found exactly if it is there. -/
lemma lookup_eq_some_iff_mem [BEq κ] [LawfulBEq κ] {entries : List (κ × Json)} {k : κ}
    (distinct : (entries.map Prod.fst).Nodup) :
    entries.lookup k = some value ↔ (k, value) ∈ entries := by
  rw [List.lookup_eq_some_iff]
  constructor
  · rintro ⟨before, behind, rfl, -⟩
    exact List.mem_append_right _ List.mem_cons_self
  · intro mem
    obtain ⟨before, behind, rfl⟩ := List.append_of_mem mem
    refine ⟨before, behind, rfl, ?_⟩
    intro entry hentry
    rw [List.map_append, List.map_cons, List.nodup_middle, List.nodup_cons] at distinct
    apply bne_iff_ne.2
    intro same
    apply distinct.1
    exact List.mem_append_left _ (List.mem_map.2 ⟨entry, hentry, same.symm⟩)

/-- With distinct fields, the value of each is that of the member that denotes it. -/
lemma valueOf_of_mem [BEq κ] [LawfulBEq κ] {k : κ} (distinct : s.Distinct members)
    (mem : (key, value) ∈ members) (h : s.field? key = some k) : s.valueOf members k = value := by
  rw [valueOf, (lookup_eq_some_iff_mem distinct).2 (mem_entries mem h), Option.getD_some]

/-- The value of a field is that of a member that denotes it, or null. -/
lemma valueOf_cases [BEq κ] [LawfulBEq κ] (members : List (String × Json)) (k : κ) :
    (∃ key, (key, s.valueOf members k) ∈ members ∧ s.field? key = some k) ∨
      s.valueOf members k = .null := by
  rw [valueOf]
  cases found : (s.entries members).lookup k with
  | none =>
    right
    rw [Option.getD_none]
  | some value =>
    left
    obtain ⟨before, behind, split, -⟩ := List.lookup_eq_some_iff.1 found
    have mem : (k, value) ∈ s.entries members := by
      rw [split]
      exact List.mem_append_right _ List.mem_cons_self
    obtain ⟨⟨key, value'⟩, member, denoted⟩ := List.mem_filterMap.1 mem
    obtain ⟨k', field, e⟩ := Option.map_eq_some_iff.1 denoted
    obtain ⟨rfl, rfl⟩ := Prod.mk.inj e
    rw [Option.getD_some]
    exact ⟨key, member, field⟩

end Entries

section OfMembers
variable [BEq κ] [LawfulBEq κ] {s}

/-- A field has been read if it is among those that have been read. -/
lemma any_fst_iff {read : List (κ × Json)} {k : κ} :
    read.any (·.1 == k) = true ↔ k ∈ read.map Prod.fst := by
  rw [List.any_eq_true, List.mem_map]
  simp only [beq_iff_eq]

variable (s) in
/-- Members are taken for fields to the end, or up to one for a field that was there before. -/
lemma ofMembers_cases (members : List (String × Json)) {read : List (κ × Json)}
    (distinct : (read.map Prod.fst).Nodup) :
    ((read.reverse ++ s.entries members).map Prod.fst).Nodup ∧
        s.ofMembers read members = ⟨read.reverse ++ s.entries members, true, none⟩ ∨
      ¬((read.reverse ++ s.entries members).map Prod.fst).Nodup ∧
        ∃ k, (s.ofMembers read members).error = some (.duplicateField (s.name k)) := by
  -- what was read stays without repetition, so that a repetition is met where it comes
  induction members generalizing read with
  | nil =>
    left
    rw [ofMembers, entries, List.filterMap_nil, List.append_nil, List.map_reverse,
      List.nodup_reverse]
    exact ⟨distinct, rfl⟩
  | cons m members ih =>
    obtain ⟨key, value⟩ := m
    rw [ofMembers]
    cases field : s.field? key with
    | none =>
      rw [entries_cons_none field]
      exact ih distinct
    | some k =>
      rw [entries_cons_some field]
      simp only
      split
      case isTrue seen =>
        right
        refine ⟨?_, k, rfl⟩
        rw [List.map_append, List.map_cons, List.nodup_middle, List.nodup_cons]
        intro fresh
        apply fresh.1
        rw [List.mem_append, List.map_reverse, List.mem_reverse]
        exact .inl (any_fst_iff.1 seen)
      case isFalse new =>
        have distinct' : (((k, value) :: read).map Prod.fst).Nodup :=
          List.nodup_cons.2 ⟨fun seen => new (any_fst_iff.2 seen), distinct⟩
        have later := ih distinct'
        rw [List.reverse_cons, List.append_assoc] at later
        exact later

variable (s) in
/-- An object is read to its end if no two members denote one field; or else that is the error. -/
lemma ofValue_cases (members : List (String × Json)) :
    s.Distinct members ∧ s.ofValue (.obj members) = ⟨s.entries members, true, none⟩ ∨
      ¬s.Distinct members ∧
        ∃ k, (s.ofValue (.obj members)).error = some (.duplicateField (s.name k)) := by
  have unread : (([] : List (κ × Json)).map Prod.fst).Nodup := List.nodup_nil
  exact s.ofMembers_cases members unread

end OfMembers

/-- As a key occurs once in an object, two members denote one field only by different keys. -/
lemma distinct_iff {members : List (String × Json)} (keys : (members.map Prod.fst).Nodup) :
    s.Distinct members ↔ ∀ a ∈ members.map Prod.fst, ∀ b ∈ members.map Prod.fst, ∀ k,
      s.field? a = some k → s.field? b = some k → a = b := by
  have fields : (s.entries members).map Prod.fst = (members.map Prod.fst).filterMap s.field? := by
    rw [entries, List.map_filterMap, List.filterMap_map]
    apply List.filterMap_congr
    intro m _
    rw [Option.map_map]
    exact Option.map_id'
  rw [Distinct, fields, List.Nodup, List.pairwise_filterMap]
  constructor
  · intro apart a ha b hb k hak hbk
    have symm : Std.Symm fun a b : String =>
        ∀ k, s.field? a = some k → ∀ k', s.field? b = some k' → k ≠ k' :=
      ⟨fun a b ne k hk k' hk' => (ne k' hk' k hk).symm⟩
    by_contra ne
    exact apart.forall ha hb ne k hak k hbk rfl
  · intro same
    apply keys.pairwise_of_forall_ne
    rintro a ha b hb ne k hak k' hbk rfl
    exact ne (same a ha b hb k hak hbk)

end EmailTemplate.Json.Schema
