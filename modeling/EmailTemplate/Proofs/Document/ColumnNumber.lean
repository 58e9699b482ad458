import EmailTemplate.Proofs.Document.ColumnOrder
import EmailTemplate.Proofs.Text.Numeral
import Mathlib.Data.String.Basic

/-!
# Numbered columns

A column is numbered by the digits of its key, and numbered columns come first, in the order of
their numbers. This is so as long as the numbers fit into 64 bits: a greater one does not count as a
number, and its column is laid out by name, behind those with a number and among those without. The
main statement is `numbered_columns_first`.
-/

namespace EmailTemplate
open Text

/-- What `unsigned?` reads: a numeral, behind a plus sign or not. -/
lemma unsigned?_numeral {sign : List Char} (mem : sign ∈ [[], ['+']]) (a : Numeral) :
    unsigned? (sign ++ a.digits) = if a.value < 2 ^ 64 then some a.value else none := by
  have digits : (if (sign ++ a.digits).head? == some '+' then (sign ++ a.digits).drop 1
      else sign ++ a.digits) = a.digits := by
    simp only [List.mem_cons, List.not_mem_nil, or_false] at mem
    rcases mem with rfl | rfl
    · have unsigned := a.head?_beq_eq_false (s := '+') rfl []
      rw [List.append_nil] at unsigned
      simp [unsigned]
    · rfl
  have filled : a.digits.isEmpty = false := List.isEmpty_eq_false_iff.2 a.ne_nil
  have decimal : a.digits.all Char.isDigit = true := List.all_eq_true.2 a.isDigit
  rw [unsigned?]
  simp only [digits, filled, decimal, a.foldl_digits]
  rfl

/-- Nothing but a numeral is read. -/
lemma exists_numeral_of_unsigned? {cs : List Char} {n : Nat} (h : unsigned? cs = some n) :
    ∃ sign ∈ [[], ['+']], ∃ a : Numeral, cs = sign ++ a.digits := by
  rw [unsigned?] at h
  generalize stripped : (if cs.head? == some '+' then cs.drop 1 else cs) = digits at h
  have split : ∃ sign ∈ [[], ['+']], cs = sign ++ digits := by
    subst stripped
    split
    case isTrue plus =>
      cases cs with
      | nil => cases plus
      | cons c cs =>
        obtain rfl : c = '+' := by simpa using plus
        exact ⟨['+'], by simp, rfl⟩
    case isFalse => exact ⟨[], by simp, rfl⟩
  obtain ⟨sign, mem, rfl⟩ := split
  simp only [Bool.or_eq_true, Bool.not_eq_true'] at h
  split at h
  case isTrue => cases h
  case isFalse decimal =>
    rw [not_or, Bool.not_eq_true, Bool.not_eq_false, List.all_eq_true] at decimal
    exact ⟨sign, mem, ⟨digits, List.isEmpty_eq_false_iff.1 decimal.1, decimal.2⟩, rfl⟩

namespace ColumnKey

/-- The key `col-` with a numeral. -/
def ofNumeral (a : Numeral) : ColumnKey :=
  ⟨"col-" ++ String.ofList a.digits⟩

/-- A key has the form `col-n`, for a number of any size; a plus sign may stand before its
digits. -/
def Numbered (key : ColumnKey) (n : Nat) : Prop :=
  ∃ sign ∈ [[], ['+']], ∃ a : Numeral,
    key.name.toList = "col-".toList ++ (sign ++ a.digits) ∧ a.value = n

/-- The key of a numeral is numbered by its value. -/
lemma numbered_ofNumeral (a : Numeral) : (ofNumeral a).Numbered a.value := by
  refine ⟨[], List.mem_cons_self, a, ?_, rfl⟩
  simp [ofNumeral]

/-- A number counts if it fits into 64 bits. -/
lemma Numbered.index {key : ColumnKey} {n : Nat} (h : key.Numbered n) :
    key.index = if n < 2 ^ 64 then some n else none := by
  obtain ⟨sign, mem, a, name, rfl⟩ := h
  rw [ColumnKey.index, name]
  exact unsigned?_numeral mem a

/-- A key with an index is numbered by it, and the index fits into 64 bits. -/
lemma numbered_of_index {key : ColumnKey} {n : Nat} (h : key.index = some n) :
    key.Numbered n ∧ n < 2 ^ 64 := by
  have numbered : ∃ m, key.Numbered m := by
    rw [ColumnKey.index] at h
    split at h
    case h_1 suffix name =>
      obtain ⟨sign, mem, a, rfl⟩ := exists_numeral_of_unsigned? h
      exact ⟨a.value, sign, mem, a, name, rfl⟩
    case h_2 => cases h
  obtain ⟨m, numbered⟩ := numbered
  have read := numbered.index
  rw [h] at read
  split at read
  case isTrue fits =>
    cases read
    exact ⟨numbered, fits⟩
  case isFalse => cases read

/-- Keys without a number in range are compared by name. -/
lemma compare_eq_lt_of_none {a b : ColumnKey} (ha : a.index = none) (hb : b.index = none) :
    a.compare b = .lt ↔ a.name < b.name := by
  rw [ColumnKey.compare, ha, hb]
  exact compare_lt_iff_lt

/-- Of two numbered keys the one that comes first has the lower number, or the same. -/
lemma le_of_compare_eq_lt {a b : ColumnKey} {m n : Nat} (ha : a.index = some m)
    (hb : b.index = some n) (order : a.compare b = .lt) : m ≤ n := by
  rw [ColumnKey.compare, ha, hb] at order
  have notAfter : Ord.compare m n ≠ .gt := by
    intro after
    simp [after] at order
  exact compare_le_iff_le.1 notAfter

/-- A numbered key comes before one that has no lower number if its number fits into 64 bits, or
else by name. -/
lemma Numbered.compare_eq_lt_iff {a b : ColumnKey} {m : Nat} (h : a.Numbered m)
    (later : ∀ n, b.index = some n → m < n) :
    a.compare b = .lt ↔ m < 2 ^ 64 ∨ a.name < b.name := by
  have read := h.index
  by_cases fits : m < 2 ^ 64
  · rw [if_pos fits] at read
    refine iff_of_true ?_ (.inl fits)
    rw [ColumnKey.compare, read]
    cases index : b.index with
    | none => rfl
    | some n =>
      have lower : Ord.compare m n = .lt := compare_lt_iff_lt.2 (later n index)
      simp [lower]
  · rw [if_neg fits] at read
    cases index : b.index with
    | none => rw [compare_eq_lt_of_none read index, or_iff_right fits]
    | some n =>
      have := later n index
      have := (numbered_of_index index).2
      omega

/-- A key may stand before another: if the other one is numbered, then so is this one, and not by a
greater number. -/
def MayPrecede (a b : ColumnKey) : Prop :=
  ∀ n, b.Numbered n → ∃ m, a.Numbered m ∧ m ≤ n

/-- A key may precede itself. -/
lemma MayPrecede.refl (a : ColumnKey) : a.MayPrecede a :=
  fun n numbered => ⟨n, numbered, n.le_refl⟩

/-- The order of keys goes wrong in front of numbers beyond 64 bits only, where it is by name. -/
lemma mayPrecede_of_lt_iff {a b : ColumnKey} :
    (a.compare b = .lt → a.MayPrecede b) ↔
      ∀ n, 2 ^ 64 ≤ n → b.Numbered n → a.index = none → a.name < b.name →
        ∃ m, a.Numbered m ∧ m ≤ n := by
  constructor
  · intro forward n beyond numbered unread names
    have index : b.index = none := by rw [numbered.index, if_neg beyond.not_gt]
    exact forward ((compare_eq_lt_of_none unread index).2 names) n numbered
  · intro late order n numbered
    have read := numbered.index
    -- a key that was read is in order; one that was not compares by name with a great number
    cases index : a.index with
    | some m =>
      obtain ⟨numbered', fits'⟩ := numbered_of_index index
      refine ⟨m, numbered', ?_⟩
      by_cases fits : n < 2 ^ 64
      · rw [if_pos fits] at read
        exact le_of_compare_eq_lt index read order
      · omega
    | none =>
      by_cases fits : n < 2 ^ 64
      · rw [if_pos fits] at read
        rw [ColumnKey.compare, index, read] at order
        cases order
      · rw [if_neg fits] at read
        exact late n (not_lt.1 fits) numbered index ((compare_eq_lt_of_none index read).1 order)

end ColumnKey

open ColumnKey in
/-- The key with the lower of two numbers comes first if that number fits into 64 bits, or else by
name, and so does a numbered key against one that is not numbered. The columns of a row are laid out
by their numbers, ahead of those without, unless the order by name puts the wrong column in front of
one with a number beyond 64 bits. -/
theorem numbered_columns_first (a : Numeral) (row : Row) :
    (∀ b : Numeral, a.value < b.value →
      ((ofNumeral a).compare (ofNumeral b) = .lt ↔
        a.value < 2 ^ 64 ∨ (ofNumeral a).name < (ofNumeral b).name)) ∧
    (∀ other : ColumnKey, (∀ n, ¬other.Numbered n) →
      ((ofNumeral a).compare other = .lt ↔
        a.value < 2 ^ 64 ∨ (ofNumeral a).name < other.name)) ∧
    (row.sortedColumns.Pairwise (fun c c' => c.1.MayPrecede c'.1) ↔
      ∀ c ∈ row.columns, ∀ c' ∈ row.columns, ∀ n, 2 ^ 64 ≤ n → c'.1.Numbered n →
        c.1.index = none → c.1.name < c'.1.name → ∃ m, c.1.Numbered m ∧ m ≤ n) := by
  refine ⟨?_, ?_, ?_⟩
  · intro b lower
    apply (numbered_ofNumeral a).compare_eq_lt_iff
    intro n index
    rw [(numbered_ofNumeral b).index] at index
    split at index
    case isTrue =>
      cases index
      exact lower
    case isFalse => cases index
  · intro other plain
    apply (numbered_ofNumeral a).compare_eq_lt_iff
    intro n index
    exact absurd (numbered_of_index index).1 (plain n)
  · refine (pairwise_sortedByKey_iff MayPrecede.refl row.columns).trans ?_
    simp only [mayPrecede_of_lt_iff]

/-- A row of two numbered columns, one with a sign, and one without a number between them. -/
def mixedRow : Row :=
  .ofColumns none [(⟨"col-10"⟩, []), (⟨"aside"⟩, []), (⟨"col-+2"⟩, [])]

open ColumnKey in
/-- A number below another comes first, and so it does ahead of a name; leading zeros and a sign
change nothing. -/
theorem numbered_columns_first_mixedRow :
    (ofNumeral ⟨['7'], by decide, by decide⟩).compare
      (ofNumeral ⟨['0', '0', '1', '0'], by decide, by decide⟩) = .lt ∧
    (ofNumeral ⟨['7'], by decide, by decide⟩).compare ⟨"aside"⟩ = .lt ∧
    mixedRow.sortedColumns.Pairwise (fun c c' => c.1.MayPrecede c'.1) := by
  obtain ⟨number, plain, row⟩ := numbered_columns_first ⟨['7'], by decide, by decide⟩ mixedRow
  refine ⟨?_, ?_, ?_⟩
  · exact (number ⟨['0', '0', '1', '0'], _, _⟩ (by decide)).2 (.inl (by decide))
  · refine (plain ⟨"aside"⟩ ?_).2 (.inl (by decide))
    rintro n ⟨sign, mem, a, name, -⟩
    cases name
  · have columns : mixedRow.columns =
        [(⟨"col-10"⟩, []), (⟨"aside"⟩, []), (⟨"col-+2"⟩, [])] := by decide
    refine row.2 ?_
    intro c _ c' mem n beyond numbered
    have unread : c'.1.index = none := by rw [numbered.index, if_neg beyond.not_gt]
    simp only [columns, List.mem_cons, List.not_mem_nil, or_false] at mem
    rcases mem with rfl | rfl | rfl
    · cases unread
    · obtain ⟨sign, _, a, name, -⟩ := numbered
      cases name
    · cases unread

open ColumnKey in
/-- The least number beyond 64 bits stands behind a greater one, and behind a key that is not
numbered. -/
theorem numbered_columns_first_beyond :
    (Numeral.ofNat (2 ^ 64)).value < (Numeral.ofNat (10 ^ 20)).value ∧
    (ofNumeral (.ofNat (2 ^ 64))).compare (ofNumeral (.ofNat (10 ^ 20))) = .gt ∧
    (∀ n, ¬Numbered ⟨"aside"⟩ n) ∧
    (ofNumeral (.ofNat (2 ^ 64))).compare ⟨"aside"⟩ = .gt := by
  refine ⟨by decide, by decide, ?_, by decide⟩
  rintro n ⟨sign, -, a, name, -⟩
  cases name

end EmailTemplate
