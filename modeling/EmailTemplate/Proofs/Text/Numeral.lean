import EmailTemplate.Proofs.Text.Span
import EmailTemplate.Text.Blank

/-!
# Decimal numerals

A numeral is a run of decimal digits, which may begin with zeros. It stands for one number, of any
size, and every number has the numeral that it is printed as (`Numeral.value_ofNat`).
-/

namespace EmailTemplate.Text

/-- A text of decimal digits, one at least. -/
structure Numeral where
  digits : List Char
  ne_nil : digits ≠ []
  isDigit : ∀ c ∈ digits, c.isDigit = true

namespace Numeral

/-- The number that a numeral stands for. -/
def value (a : Numeral) : Nat :=
  Nat.ofDigitChars 10 a.digits 0

/-- The numeral that a number is printed as. -/
def ofNat (n : Nat) : Numeral where
  digits := Nat.toDigits 10 n
  ne_nil := Nat.toDigits_ne_nil
  isDigit _ := Nat.isDigit_of_mem_toDigits (by decide) (by decide)

/-- The numeral of a number stands for it. -/
lemma value_ofNat (n : Nat) : (ofNat n).value = n :=
  Nat.ofDigitChars_ten_toDigits

/-- The numeral of a number is what the number is printed as. -/
lemma digits_ofNat (n : Nat) : (ofNat n).digits = (toString n).toList := by
  rw [Nat.toString_eq_repr, Nat.toList_repr]
  rfl

/-- The value of a numeral is computed from the left. -/
lemma foldl_digits (a : Numeral) :
    a.digits.foldl (fun n c => 10 * n + (c.toNat - 48)) 0 = a.value :=
  Nat.ofDigitChars_eq_foldl.symm

/-- A numeral stops a run of any class without digits. -/
lemma stops_digits {p : Char → Bool} (apart : ∀ c, c.isDigit = true → p c = false) (a : Numeral)
    (rest : List Char) : Stops p (a.digits ++ rest) := by
  obtain ⟨c, cs, first⟩ := List.exists_cons_of_ne_nil a.ne_nil
  rw [first, List.cons_append, stops_cons]
  exact apart c (a.isDigit c (first ▸ List.mem_cons_self))

/-- A numeral does not begin with a sign. -/
lemma head?_beq_eq_false {s : Char} (sign : s.isDigit = false) (a : Numeral) (rest : List Char) :
    ((a.digits ++ rest).head? == some s) = false := by
  obtain ⟨c, cs, first⟩ := List.exists_cons_of_ne_nil a.ne_nil
  have digit : c.isDigit = true := a.isDigit c (first ▸ List.mem_cons_self)
  have apart : c ≠ s := by
    rintro rfl
    rw [digit] at sign
    cases sign
  simp [first, apart]

end Numeral

/-- No digit is blank. -/
lemma isBlank_of_isDigit {c : Char} (h : c.isDigit = true) : isBlank c = false := by
  have range : 48 ≤ c.toNat ∧ c.toNat ≤ 57 := by
    simpa [Char.isDigit, UInt32.le_iff_toNat_le] using h
  simp only [isBlank, Bool.or_eq_false_iff, Bool.and_eq_false_iff, decide_eq_false_iff_not,
    beq_eq_false_iff_ne]
  omega

end EmailTemplate.Text
