import EmailTemplate.Proofs.Document.ColumnNumber
import EmailTemplate.Render.Email
import EmailTemplate.Render.PlainText
import Mathlib.Data.List.Induction

/-!
# Rows built up by additions

A row is built up from the empty one by adding elements to one column after another, each column
given by its number. It has each number that was used as one column, with all that was added to it
in the order in which it was added; in the layout, its columns are in the order of their numbers.
So it does not matter in which order different columns were added to. The main statement is
`sortedColumns_ofAdditions`.
-/

namespace EmailTemplate
open Text

/-- Elements that are added to the column with a number of 64 bits. -/
abbrev Addition := UInt64 × List Element

namespace ColumnKey

/-- The key `col-n` is numbered `n`, however large it is. -/
lemma numbered_ofIndex (n : Nat) : (ofIndex n).Numbered n := by
  refine ⟨[], List.mem_cons_self, .ofNat n, ?_, Numeral.value_ofNat n⟩
  rw [ofIndex, String.toList_append, Numeral.digits_ofNat]
  rfl

/-- The number of a built key is read back from its name. -/
lemma index_ofIndex (n : UInt64) : (ofIndex n.toNat).index = some n.toNat := by
  rw [(numbered_ofIndex n.toNat).index, if_pos n.toNat_lt]

/-- Different indices of 64 bits have different keys. -/
lemma ofIndex_inj {m n : UInt64} : ofIndex m.toNat = ofIndex n.toNat ↔ m = n := by
  refine ⟨?_, congrArg fun n : UInt64 => ofIndex n.toNat⟩
  intro same
  have index := congrArg ColumnKey.index same
  rw [index_ofIndex, index_ofIndex] at index
  exact UInt64.toNat_inj.1 (Option.some.inj index)

/-- Built keys are in the order of their numbers. -/
lemma compare_ofIndex (m n : UInt64) :
    (ofIndex m.toNat).compare (ofIndex n.toNat) = Ord.compare m.toNat n.toNat := by
  simp only [ColumnKey.compare, index_ofIndex]
  cases order : Ord.compare m.toNat n.toNat with
  | lt => rfl
  | gt => rfl
  | eq =>
    have same : m.toNat = n.toNat := compare_eq_iff_eq.1 order
    simp [same]

end ColumnKey

namespace Row

/-- The row to which elements were added, one addition after another. -/
def ofAdditions (additions : List Addition) : Row :=
  additions.foldl (fun row a => row.withColumn a.1.toNat a.2) empty

/-- All elements that are added to one column, in the order of the additions. -/
def elementsAt (n : UInt64) (additions : List Addition) : List Element :=
  (additions.filter (·.1 = n)).flatMap (·.2)

/-- The column that additions make up. -/
def columnAt (additions : List Addition) (n : UInt64) : Column :=
  (.ofIndex n.toNat, elementsAt n additions)

section Altered
variable {β : Type} {key : ColumnKey} {entries : List (ColumnKey × β)}

/-- A key that is not there is added last. -/
lemma alterAt_of_notMem (new : key ∉ entries.map Prod.fst) (change : Option β → β) :
    alterAt key change entries = entries ++ [(key, change none)] := by
  induction entries with
  | nil => rfl
  | cons entry entries ih =>
    obtain ⟨k, value⟩ := entry
    rw [List.map_cons, List.mem_cons, not_or] at new
    rw [alterAt, if_neg (Ne.symm new.1), ih new.2, List.cons_append]

/-- The change is made to the one entry that has the key. -/
lemma alterAt_of_mem (keyed : (entries.map Prod.fst).Nodup) (mem : key ∈ entries.map Prod.fst)
    (change : Option β → β) :
    alterAt key change entries =
      entries.map fun entry =>
        (entry.1, if entry.1 = key then change (some entry.2) else entry.2) := by
  induction entries with
  | nil => cases mem
  | cons entry entries ih =>
    obtain ⟨k, value⟩ := entry
    rw [List.map_cons, List.nodup_cons] at keyed
    rw [alterAt, List.map_cons]
    by_cases same : k = key
    · subst same
      have others : entries.map (fun entry =>
          (entry.1, if entry.1 = k then change (some entry.2) else entry.2)) = entries := by
        refine (List.map_congr_left ?_).trans entries.map_id
        intro entry h
        have apart : entry.1 ≠ k := fun same => keyed.1 (List.mem_map.2 ⟨entry, h, same⟩)
        rw [if_neg apart]
        rfl
      rw [if_pos rfl, if_pos rfl, others]
    · have mem : key ∈ entries.map Prod.fst := List.mem_of_ne_of_mem (Ne.symm same) mem
      rw [if_neg same, if_neg same, ih keyed.2 mem]

end Altered

section Additions
variable {additions additions' : List Addition}

/-- One more addition counts for its own column only. -/
lemma elementsAt_concat (additions : List Addition) (a : Addition) (n : UInt64) :
    elementsAt n (additions ++ [a]) =
      if a.1 = n then elementsAt n additions ++ a.2 else elementsAt n additions := by
  rw [elementsAt, elementsAt, List.filter_append, List.flatMap_append, List.filter_singleton]
  by_cases same : a.1 = n <;> simp [same]

/-- A column to which nothing was added has no elements. -/
lemma elementsAt_of_notMem {n : UInt64} (unused : n ∉ additions.map Prod.fst) :
    elementsAt n additions = [] := by
  have none : additions.filter (·.1 = n) = [] := by
    rw [List.filter_eq_nil_iff]
    intro a ha same
    exact unused (List.mem_map.2 ⟨a, ha, of_decide_eq_true same⟩)
  rw [elementsAt, none, List.flatMap_nil]

/-- A number was used exactly if there are additions to its column. -/
lemma mem_map_fst_iff {n : UInt64} :
    n ∈ additions.map Prod.fst ↔ additions.filter (·.1 = n) ≠ [] := by
  simp [List.filter_eq_nil_iff]

/-- The keys of the columns are those of their numbers. -/
lemma mem_map_columnAt {numbers : List UInt64} {n : UInt64} :
    ColumnKey.ofIndex n.toNat ∈ (numbers.map (columnAt additions)).map Prod.fst ↔ n ∈ numbers := by
  simp [columnAt, ColumnKey.ofIndex_inj]

/-- Distinct numbers have distinct keys. -/
lemma nodup_map_columnAt {numbers : List UInt64} (distinct : numbers.Nodup) :
    ((numbers.map (columnAt additions)).map Prod.fst).Nodup := by
  rw [List.map_map]
  refine distinct.map ?_
  intro m n same
  exact ColumnKey.ofIndex_inj.1 same

/-- One more addition changes one column, or adds it behind the others. -/
lemma columns_withColumn {row : Row} {numbers : List UInt64} (distinct : numbers.Nodup)
    (used : ∀ n, n ∈ numbers ↔ n ∈ additions.map Prod.fst)
    (columns : row.columns = numbers.map (columnAt additions)) (a : Addition) :
    (row.withColumn a.1.toNat a.2).columns =
      (if a.1 ∈ numbers then numbers else numbers ++ [a.1]).map
        (columnAt (additions ++ [a])) := by
  simp only [withColumn, columns]
  split
  case isTrue mem =>
    rw [alterAt_of_mem (nodup_map_columnAt distinct) (mem_map_columnAt.2 mem), List.map_map]
    apply List.map_congr_left
    intro n _
    simp only [Function.comp_apply, columnAt, elementsAt_concat, ColumnKey.ofIndex_inj,
      Option.getD_some, eq_comm]
  case isFalse new =>
    rw [alterAt_of_notMem (mt mem_map_columnAt.1 new), List.map_append, List.map_singleton]
    congr 1
    · apply List.map_congr_left
      intro n hn
      have apart : a.1 ≠ n := fun same => new (same ▸ hn)
      rw [columnAt, columnAt, elementsAt_concat, if_neg apart]
    · have unused := elementsAt_of_notMem (mt (used a.1).2 new)
      rw [columnAt, elementsAt_concat, if_pos rfl, unused, Option.getD_none, List.nil_append]

/-- A row has one column for each number that was used, with what was added to it. -/
lemma exists_columns_ofAdditions (additions : List Addition) :
    ∃ numbers : List UInt64, numbers.Nodup ∧
      (∀ n, n ∈ numbers ↔ n ∈ additions.map Prod.fst) ∧
      (ofAdditions additions).columns = numbers.map (columnAt additions) := by
  induction additions using List.reverseRecOn with
  | nil => exact ⟨[], List.nodup_nil, fun n => Iff.rfl, rfl⟩
  | append_singleton additions a ih =>
    obtain ⟨numbers, distinct, used, columns⟩ := ih
    have step : ofAdditions (additions ++ [a]) =
        (ofAdditions additions).withColumn a.1.toNat a.2 := by
      rw [ofAdditions, List.foldl_concat]
      rfl
    -- an addition extends the column of its number, or appends a new one
    rw [step, columns_withColumn distinct used columns a]
    refine ⟨_, ?_, ?_, rfl⟩
    · split
      case isTrue => exact distinct
      case isFalse new =>
        rw [← List.concat_eq_append]
        exact distinct.concat new
    · intro n
      rw [List.map_append, List.map_singleton, List.mem_append, List.mem_singleton, ← used n]
      split
      case isTrue mem =>
        constructor
        · exact .inl
        · rintro (old | rfl)
          · exact old
          · exact mem
      case isFalse =>
        rw [List.mem_append, List.mem_singleton]

/-- In the layout, the columns are in the order of their numbers. -/
lemma exists_sortedColumns_ofAdditions (additions : List Addition) :
    ∃ numbers : List UInt64, numbers.Pairwise (· < ·) ∧
      (∀ n, n ∈ numbers ↔ n ∈ additions.map Prod.fst) ∧
      (ofAdditions additions).sortedColumns = numbers.map (columnAt additions) := by
  obtain ⟨numbers, distinct, used, columns⟩ := exists_columns_ofAdditions additions
  -- sorting by key is sorting by number, since each key was built from its number
  have perm : (numbers.mergeSort fun m n => decide (m ≤ n)).Perm numbers :=
    List.mergeSort_perm _ _
  refine ⟨numbers.mergeSort fun m n => decide (m ≤ n), ?_, ?_, ?_⟩
  · have ascending : (numbers.mergeSort fun m n => decide (m ≤ n)).Pairwise
        fun m n => decide (m ≤ n) := by
      apply List.pairwise_mergeSort
      · intro l m n lm mn
        exact decide_eq_true (UInt64.le_trans (of_decide_eq_true lm) (of_decide_eq_true mn))
      · intro m n
        simpa using UInt64.le_total m n
    refine ascending.imp₂ ?_ (perm.nodup_iff.2 distinct)
    intro m n le ne
    exact UInt64.lt_of_le_of_ne (of_decide_eq_true le) ne
  · intro n
    rw [perm.mem_iff, used]
  · rw [sortedColumns, columns]
    symm
    apply List.map_mergeSort
    intro m _ n _
    rw [columnAt, columnAt, ColumnKey.compare_ofIndex, Bool.eq_iff_iff, decide_eq_true_iff,
      Nat.isLE_compare, UInt64.le_iff_toNat_le]

/-- The columns in the layout depend on what was added to each of them, not on the order of the
additions to different ones. -/
lemma sortedColumns_eq_of_same
    (same : ∀ n, additions.filter (·.1 = n) = additions'.filter (·.1 = n)) :
    (ofAdditions additions).sortedColumns = (ofAdditions additions').sortedColumns := by
  obtain ⟨numbers, distinct, used, columns⟩ := exists_columns_ofAdditions additions
  obtain ⟨numbers', distinct', used', columns'⟩ := exists_columns_ofAdditions additions'
  have column : columnAt additions = columnAt additions' := by
    funext n
    rw [columnAt, columnAt, elementsAt, elementsAt, same n]
  have perm : numbers.Perm numbers' := by
    rw [List.perm_ext_iff_of_nodup distinct distinct']
    intro n
    rw [used, used', mem_map_fst_iff, mem_map_fst_iff, same n]
  apply sortedByKey_eq_of_perm (ofAdditions additions).keyed
  rw [columns, columns', column]
  exact perm.map _

end Additions

/-- Of a row, only its columns in the layout are written. -/
lemma steps_eq_of_sortedColumns {a b : Row} (h : a.sortedColumns = b.sortedColumns)
    (d : RenderDefaults) : a.steps d = b.steps d := by
  rw [Row.steps, Row.steps, h]

/-- Rows with one layout have the same elements in it. -/
lemma elements_eq_of_sortedColumns {a b : Row} (h : a.sortedColumns = b.sortedColumns) :
    a.elements = b.elements := by
  rw [elements, elements, h]

end Row

section SameLayout
variable {a b : Row} (h : a.sortedColumns = b.sortedColumns) (above below : List Row)
  (standalone : List Element)
include h

/-- A row may be replaced by one with the same layout, and the email stays the same. -/
lemma Document.compile_eq_of_sortedColumns (options : CompileOptions) :
    Document.compile options ⟨standalone, above ++ a :: below⟩ =
      Document.compile options ⟨standalone, above ++ b :: below⟩ := by
  simp only [Document.compile, Document.compose, Document.bodySteps, List.flatMap_append,
    List.flatMap_cons, Row.steps_eq_of_sortedColumns h]

/-- A row may be replaced by one with the same layout, and the plain text stays the same. -/
lemma Document.plainText_eq_of_sortedColumns :
    Document.plainText ⟨standalone, above ++ a :: below⟩ =
      Document.plainText ⟨standalone, above ++ b :: below⟩ := by
  simp only [Document.plainText, Document.elements, List.flatMap_append, List.flatMap_cons,
    Row.elements_eq_of_sortedColumns h]

end SameLayout

open ColumnKey Row

/-- A built key has its number from its name, for every number of 64 bits. A row that was built up
has one column for each number that was used, in ascending order, with all elements that were added
to it in the order of the additions. Additions that are the same for every single column make up the
same columns in the layout, and emails and plain texts with such rows are the same. -/
theorem sortedColumns_ofAdditions (additions : List Addition) :
    (∀ n : UInt64, (ofIndex n.toNat).name = "col-" ++ toString n ∧
      (ofIndex n.toNat).index = some n.toNat) ∧
    (∃ numbers : List UInt64, numbers.Pairwise (· < ·) ∧
      (∀ n, n ∈ numbers ↔ n ∈ additions.map Prod.fst) ∧
      (ofAdditions additions).sortedColumns =
        numbers.map fun n =>
          (ofIndex n.toNat, (additions.filter (·.1 = n)).flatMap (·.2))) ∧
    ∀ additions' : List Addition,
      (∀ n, additions.filter (·.1 = n) = additions'.filter (·.1 = n)) →
      (ofAdditions additions).sortedColumns = (ofAdditions additions').sortedColumns ∧
      ∀ above below standalone,
        (∀ options, Document.compile options ⟨standalone, above ++ ofAdditions additions :: below⟩ =
          Document.compile options ⟨standalone, above ++ ofAdditions additions' :: below⟩) ∧
        Document.plainText ⟨standalone, above ++ ofAdditions additions :: below⟩ =
          Document.plainText ⟨standalone, above ++ ofAdditions additions' :: below⟩ := by
  refine ⟨?_, exists_sortedColumns_ofAdditions additions, ?_⟩
  · intro n
    exact ⟨rfl, index_ofIndex n⟩
  · intro additions' same
    have sorted := sortedColumns_eq_of_same same
    refine ⟨sorted, ?_⟩
    intro above below standalone
    exact ⟨Document.compile_eq_of_sortedColumns sorted above below standalone,
      Document.plainText_eq_of_sortedColumns sorted above below standalone⟩

/-- An addition of one text to a column. -/
def Addition.text (n : UInt64) (content : String) : Addition :=
  (n, [⟨none, .plain, .text ⟨content, none, none, none, .plain⟩⟩])

/-- Two texts for the column with the greatest number, and one for another column in between. -/
def greatestColumn : List Addition :=
  [.text 18446744073709551615 "a", .text 2 "b", .text 18446744073709551615 "c"]

/-- Additions to two columns, the last index among them, may be made in either order. -/
theorem sortedColumns_greatestColumn :
    (∀ n : UInt64, greatestColumn.filter (·.1 = n) =
      [Addition.text 2 "b", .text 18446744073709551615 "a",
        .text 18446744073709551615 "c"].filter (·.1 = n)) ∧
    Document.plainText ⟨[], [.ofAdditions greatestColumn]⟩ =
      Document.plainText ⟨[], [.ofAdditions [.text 2 "b", .text 18446744073709551615 "a",
        .text 18446744073709551615 "c"]]⟩ := by
  have same (n : UInt64) : greatestColumn.filter (·.1 = n) =
      [Addition.text 2 "b", .text 18446744073709551615 "a",
        .text 18446744073709551615 "c"].filter (·.1 = n) := by
    by_cases two : n = 2
    · subst two
      rfl
    · have apart : (2 : UInt64) ≠ n := Ne.symm two
      simp [greatestColumn, Addition.text, List.filter_cons, apart]
  obtain ⟨-, -, reordered⟩ := sortedColumns_ofAdditions greatestColumn
  exact ⟨same, ((reordered _ same).2 [] [] []).2⟩

end EmailTemplate
