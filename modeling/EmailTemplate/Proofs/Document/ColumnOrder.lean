import EmailTemplate.Document.Load
import Mathlib.Data.List.Nodup

/-!
# The order of columns

Column keys are totally ordered, and no two distinct keys compare equal, whether they have one
number, different numbers or none. Sorting by key therefore forgets the order in which columns came
(`sortedByKey_eq_of_perm`), as no two columns of a row have one key.
-/

namespace EmailTemplate

namespace ColumnKey

/-- Keys are compared by whether they have no number, then by number, then by name. -/
lemma compare_eq_compareLex (a b : ColumnKey) :
    a.compare b = compareLex (compareOn fun k => k.index.isNone)
      (compareLex (compareOn fun k => k.index.getD 0) (compareOn name)) a b := by
  rw [compare, compareLex, compareLex, compareOn, compareOn, compareOn]
  cases a.index with
  | none =>
    cases b.index with
    | none => rfl
    | some j => rfl
  | some i =>
    cases b.index with
    | none => rfl
    | some j => rfl

instance : Std.TransCmp compare := by
  have eq : compare = compareLex (compareOn fun k => k.index.isNone)
      (compareLex (compareOn fun k => k.index.getD 0) (compareOn name)) :=
    funext fun a => funext (compare_eq_compareLex a)
  rw [eq]
  infer_instance

instance : Std.LawfulEqCmp compare where
  compare_self := Std.ReflCmp.compare_self
  eq_of_compare {a b} same := by
    rw [compare_eq_compareLex, compareLex, compareLex, Ordering.then_eq_eq,
      Ordering.then_eq_eq] at same
    obtain ⟨-, -, names⟩ := same
    cases a
    cases b
    exact congrArg mk (Std.LawfulEqCmp.eq_of_compare names)

end ColumnKey

section SortedByKey

variable {β γ : Type}

/-- Entries in the order of their keys. -/
def sortedByKey (entries : List (ColumnKey × β)) : List (ColumnKey × β) :=
  entries.mergeSort fun a b => (a.1.compare b.1).isLE

/-- Sorting neither adds nor loses entries. -/
lemma sortedByKey_perm (entries : List (ColumnKey × β)) : (sortedByKey entries).Perm entries :=
  List.mergeSort_perm entries _

/-- The sorted entries are the given ones. -/
lemma mem_sortedByKey {entry : ColumnKey × β} {entries : List (ColumnKey × β)} :
    entry ∈ sortedByKey entries ↔ entry ∈ entries :=
  (sortedByKey_perm entries).mem_iff

/-- Sorted entries ascend by their keys. -/
lemma pairwise_sortedByKey (entries : List (ColumnKey × β)) :
    (sortedByKey entries).Pairwise fun a b => (a.1.compare b.1).isLE := by
  apply List.pairwise_mergeSort
  · intro a b c ab bc
    exact Std.TransCmp.isLE_trans ab bc
  · intro a b
    have swapped : b.1.compare a.1 = (a.1.compare b.1).swap := Std.OrientedCmp.eq_swap
    rw [swapped]
    cases a.1.compare b.1 with
    | lt => rfl
    | eq => rfl
    | gt => rfl

/-- Sorting brings entries into a relation between their keys if and only if the order of keys does,
as far as the entries go. -/
lemma pairwise_sortedByKey_iff {r : ColumnKey → ColumnKey → Prop} (refl : ∀ k, r k k)
    (entries : List (ColumnKey × β)) :
    (sortedByKey entries).Pairwise (fun a b => r a.1 b.1) ↔
      ∀ a ∈ entries, ∀ b ∈ entries, a.1.compare b.1 = .lt → r a.1 b.1 := by
  constructor
  · intro related a memA b memB
    have forth := related.imp fun {a b} holds (_ : a.1.compare b.1 = .lt) => holds
    have back : (sortedByKey entries).Pairwise
        (flip fun a b => a.1.compare b.1 = .lt → r a.1 b.1) := by
      refine (pairwise_sortedByKey entries).imp ?_
      intro a b le lt
      have swapped : a.1.compare b.1 = (b.1.compare a.1).swap := Std.OrientedCmp.eq_swap
      rw [swapped, lt] at le
      cases le
    -- the relation holds forth by assumption, and back since sorted entries do not descend
    exact forth.forall_of_forall_of_flip (fun c _ _ => refl c.1) back (mem_sortedByKey.2 memA)
      (mem_sortedByKey.2 memB)
  · intro forward
    refine (pairwise_sortedByKey entries).imp_of_mem ?_
    intro a b memA memB le
    cases order : a.1.compare b.1 with
    | lt => exact forward a (mem_sortedByKey.1 memA) b (mem_sortedByKey.1 memB) order
    | eq =>
      rw [Std.LawfulEqCmp.eq_of_compare order]
      exact refl _
    | gt =>
      rw [order] at le
      cases le

/-- Only keys decide the order. -/
lemma map_sortedByKey (f : β → γ) (entries : List (ColumnKey × β)) :
    (sortedByKey entries).map (fun entry => (entry.1, f entry.2)) =
      sortedByKey (entries.map fun entry => (entry.1, f entry.2)) :=
  List.map_mergeSort fun _ _ _ _ => rfl

/-- The order in which entries with distinct keys came does not matter. -/
lemma sortedByKey_eq_of_perm {as bs : List (ColumnKey × β)} (keyed : (as.map Prod.fst).Nodup)
    (perm : as.Perm bs) : sortedByKey as = sortedByKey bs := by
  have perm' : (sortedByKey as).Perm (sortedByKey bs) :=
    (sortedByKey_perm as).trans (perm.trans (sortedByKey_perm bs).symm)
  apply List.Perm.eq_of_pairwise _ (pairwise_sortedByKey as) (pairwise_sortedByKey bs) perm'
  intro a b ha hb ab ba
  -- entries that compare equal have one key, and there is one entry for a key
  have keys : a.1 = b.1 := Std.LawfulEqCmp.eq_of_compare (Std.OrientedCmp.isLE_antisymm ab ba)
  have ha : a ∈ as := mem_sortedByKey.1 ha
  have hb : b ∈ as := perm.mem_iff.2 (mem_sortedByKey.1 hb)
  exact List.inj_on_of_nodup_map keyed ha hb keys

end SortedByKey

namespace Row

/-- All columns of a row are laid out. -/
@[simp] lemma length_sortedColumns (row : Row) : row.sortedColumns.length = row.columns.length :=
  List.length_mergeSort _

/-- No column is laid out only where there is none. -/
@[simp] lemma isEmpty_sortedColumns (row : Row) :
    row.sortedColumns.isEmpty = row.columns.isEmpty := by
  rw [Bool.eq_iff_iff, List.isEmpty_iff_length_eq_zero, List.isEmpty_iff_length_eq_zero,
    row.length_sortedColumns]

end Row

end EmailTemplate
