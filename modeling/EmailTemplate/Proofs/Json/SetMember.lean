import EmailTemplate.Proofs.Json.Record
import Mathlib.Data.String.Basic

/-!
# Setting one member of an object

An object whose member with some key is set, and the object without that member, differ in nothing
else (`insertMember_split`). A record read from the one has the value in the field that the key
denotes, and one read from the other has none (`valueOf_split`); a key that denotes no field makes
no difference at all (`ofMembers_insertMember`).
-/

namespace EmailTemplate.Json

/-- The members of an object come in ascending order of their keys, and no key is repeated. -/
def Ascending (members : List (String × Json)) : Prop :=
  members.Pairwise fun a b => a.1 < b.1

instance (members : List (String × Json)) : Decidable (Ascending members) :=
  inferInstanceAs (Decidable (List.Pairwise _ members))

/-- The members of an object without the one that has a key. -/
def removeMember (key : String) (members : List (String × Json)) : List (String × Json) :=
  members.filter fun m => m.1 ≠ key

section Members
variable {key : String} {members : List (String × Json)}

/-- Among members with greater keys there is nothing to remove. -/
lemma removeMember_of_forall_lt (beyond : ∀ m ∈ members, key < m.1) :
    removeMember key members = members := by
  apply List.filter_eq_self.2
  intro m hm
  exact decide_eq_true (beyond m hm).ne'

/-- A member that is set stands between the members that are left without it. -/
lemma insertMember_split (ascending : Ascending members) (key : String) (value : Json) :
    ∃ front back, insertMember key value members = front ++ (key, value) :: back ∧
      removeMember key members = front ++ back := by
  induction members with
  | nil => exact ⟨[], [], rfl, rfl⟩
  | cons m members ih =>
    obtain ⟨k, v⟩ := m
    obtain ⟨above, ascending⟩ := List.pairwise_cons.1 ascending
    rw [insertMember]
    split
    case isTrue below =>
      refine ⟨[], (k, v) :: members, rfl, removeMember_of_forall_lt ?_⟩
      intro m hm
      rcases List.mem_cons.1 hm with rfl | later
      · exact below
      · exact below.trans (above m later)
    case isFalse =>
      split
      -- the key was there, and all behind it are greater
      case isTrue same =>
        subst same
        refine ⟨[], members, rfl, ?_⟩
        rw [removeMember, List.filter_cons_of_neg (by simp)]
        exact removeMember_of_forall_lt above
      case isFalse apart =>
        obtain ⟨front, back, set, removed⟩ := ih ascending
        refine ⟨(k, v) :: front, back, ?_, ?_⟩
        · rw [set, List.cons_append]
        · have kept : (k, v).1 ≠ key := Ne.symm apart
          rw [removeMember, List.filter_cons_of_pos (by simpa using kept), List.cons_append]
          exact congrArg _ removed

/-- A key occurs once in an object whose members ascend, also after one is set. -/
lemma Ascending.nodup_insertMember (ascending : Ascending members) (key : String) (value : Json) :
    ((insertMember key value members).map Prod.fst).Nodup := by
  obtain ⟨front, back, set, removed⟩ := insertMember_split ascending key value
  have keys : (members.map Prod.fst).Nodup := by
    rw [List.Nodup, List.pairwise_map]
    exact List.Pairwise.imp (fun lt => lt.ne) ascending
  have kept : ((front ++ back).map Prod.fst).Nodup := by
    rw [← removed]
    exact keys.sublist (List.filter_sublist.map _)
  have absent : key ∉ (front ++ back).map Prod.fst := by
    rw [← removed, removeMember]
    simp
  rw [set, List.map_append, List.map_cons, List.nodup_middle, List.nodup_cons, ← List.map_append]
  exact ⟨absent, kept⟩

end Members

namespace Schema
variable {κ : Type} {s : Schema κ} {key : String} {value : Json} {k : κ}
  {front back : List (String × Json)}

/-- The fields of an object are those of its front and then those of its back. -/
lemma entries_append (front back : List (String × Json)) :
    s.entries (front ++ back) = s.entries front ++ s.entries back :=
  List.filterMap_append

/-- A member that is a field is one of the fields, in its place. -/
lemma entries_split (denoted : s.field? key = some k) :
    s.entries (front ++ (key, value) :: back) =
      s.entries front ++ (k, value) :: s.entries back := by
  rw [entries_append, entries_cons_some denoted]

/-- Fields stay distinct when a member is removed. -/
lemma Distinct.of_split (distinct : s.Distinct (front ++ (key, value) :: back)) :
    s.Distinct (front ++ back) := by
  have fewer : (front ++ back).Sublist (front ++ (key, value) :: back) :=
    (List.sublist_cons_self _ _).append_left front
  exact List.Nodup.sublist ((fewer.filterMap _).map _) distinct

variable [BEq κ]

/-- A member whose key denotes no field is passed over. -/
lemma ofMembers_unknown (unknown : s.field? key = none) (read : List (κ × Json))
    (members : List (String × Json)) :
    s.ofMembers read ((key, value) :: members) = s.ofMembers read members := by
  simp only [ofMembers, unknown]

/-- A member that is no field makes no difference. -/
lemma ofMembers_insertMember (unknown : s.field? key = none) (value : Json)
    (members : List (String × Json)) (read : List (κ × Json)) :
    s.ofMembers read (insertMember key value members) = s.ofMembers read members := by
  induction members generalizing read with
  | nil => exact ofMembers_unknown unknown read []
  | cons m members ih =>
    obtain ⟨k, v⟩ := m
    rw [insertMember]
    split
    case isTrue => exact ofMembers_unknown unknown read _
    case isFalse =>
      split
      case isTrue same =>
        subst same
        rw [ofMembers_unknown unknown, ofMembers_unknown unknown]
      case isFalse =>
        rw [ofMembers, ofMembers]
        simp only [ih]

variable [LawfulBEq κ]

/-- Without the one member that denotes a field, that field is null, and every other one has the
value that it has with it. -/
lemma valueOf_split (distinct : s.Distinct (front ++ (key, value) :: back))
    (denoted : s.field? key = some k) :
    s.valueOf (front ++ (key, value) :: back) k = value ∧ s.valueOf (front ++ back) k = .null ∧
      ∀ other, other ≠ k →
        s.valueOf (front ++ (key, value) :: back) other = s.valueOf (front ++ back) other := by
  refine ⟨?_, ?_, ?_⟩
  · have mem : (key, value) ∈ front ++ (key, value) :: back :=
      List.mem_append_right _ List.mem_cons_self
    exact valueOf_of_mem distinct mem denoted
  · rw [Distinct, entries_split denoted, List.map_append, List.map_cons, List.nodup_middle,
      List.nodup_cons, ← List.map_append, ← entries_append] at distinct
    have absent : (s.entries (front ++ back)).lookup k = none := by
      rw [List.lookup_eq_none_iff]
      intro entry hentry
      apply bne_iff_ne.2
      rintro rfl
      exact distinct.1 (List.mem_map.2 ⟨entry, hentry, rfl⟩)
    rw [valueOf, absent, Option.getD_none]
  · intro other apart
    have skipped : (other == k) = false := beq_eq_false_iff_ne.2 apart
    rw [valueOf, valueOf, entries_split denoted, entries_append, List.lookup_append,
      List.lookup_append, List.lookup_cons, skipped]

end Schema

end EmailTemplate.Json
