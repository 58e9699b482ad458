import EmailTemplate.Decimal.FloatText
import EmailTemplate.Proofs.Decimal.Double
import EmailTemplate.Proofs.Text.Numeral

/-!
# The characters of printed doubles

A printed double has no blanks in it. It is made of digits and a point alone exactly if it has no
sign and is written positionally (`decimal_floatText_iff`).
-/

namespace EmailTemplate.Decimal
open Text

/-- A digit or a point. -/
def isDecimalChar (c : Char) : Bool :=
  c.isDigit || c == '.'

/-- A text of digits and points. -/
def IsDecimalText (s : String) : Prop :=
  ∀ c ∈ s.toList, isDecimalChar c = true

instance (s : String) : Decidable (IsDecimalText s) :=
  inferInstanceAs (Decidable (∀ c ∈ s.toList, isDecimalChar c = true))

/-- A text without blanks. -/
def Inked (s : String) : Prop :=
  ∀ c ∈ s.toList, isBlank c = false

instance (s : String) : Decidable (Inked s) :=
  inferInstanceAs (Decidable (∀ c ∈ s.toList, isBlank c = false))

section Characters
variable {s t : String} {p : Char → Prop}

/-- What holds of all characters of two texts holds of those of the two put together. -/
lemma forall_mem_append :
    (∀ c ∈ (s ++ t).toList, p c) ↔ (∀ c ∈ s.toList, p c) ∧ ∀ c ∈ t.toList, p c := by
  rw [String.toList_append]
  exact List.forall_mem_append

/-- Decimal texts put together are one. -/
lemma isDecimalText_append : IsDecimalText (s ++ t) ↔ IsDecimalText s ∧ IsDecimalText t :=
  forall_mem_append

/-- Texts without blanks put together have none. -/
lemma inked_append : Inked (s ++ t) ↔ Inked s ∧ Inked t :=
  forall_mem_append

/-- Neither digits nor points are blanks. -/
lemma isBlank_of_isDecimalChar {c : Char} (h : isDecimalChar c = true) : isBlank c = false := by
  rw [isDecimalChar, Bool.or_eq_true, beq_iff_eq] at h
  rcases h with digit | rfl
  · exact isBlank_of_isDigit digit
  · rfl

/-- A decimal text has no blanks. -/
lemma IsDecimalText.inked (h : IsDecimalText s) : Inked s :=
  fun c mem => isBlank_of_isDecimalChar (h c mem)

/-- The beginning of a decimal text is one. -/
lemma IsDecimalText.take (h : IsDecimalText s) (n : Nat) :
    IsDecimalText (String.ofList (s.toList.take n)) := by
  intro c mem
  rw [String.toList_ofList] at mem
  exact h c (List.mem_of_mem_take mem)

/-- The end of a decimal text is one. -/
lemma IsDecimalText.drop (h : IsDecimalText s) (n : Nat) :
    IsDecimalText (String.ofList (s.toList.drop n)) := by
  intro c mem
  rw [String.toList_ofList] at mem
  exact h c (List.mem_of_mem_drop mem)

end Characters

/-- A decimal number: digits, with a point before, among or behind them or without one. -/
def IsDecimalNumber (s : String) : Prop :=
  ∃ whole fraction : List Char, (∀ c ∈ whole ++ fraction, c.isDigit = true) ∧
    whole ++ fraction ≠ [] ∧ (s.toList = whole ++ fraction ∨ s.toList = whole ++ '.' :: fraction)

section DecimalNumber
variable {s : String} {cs whole fraction : List Char}

/-- Among digits there is no point. -/
lemma point_notMem (digits : ∀ c ∈ cs, c.isDigit = true) : '.' ∉ cs := by
  intro mem
  exact absurd (digits '.' mem) (by decide)

/-- A decimal text without a point has digits alone. -/
lemma isDigit_of_point_notMem (decimal : ∀ c ∈ cs, isDecimalChar c = true) (plain : '.' ∉ cs) :
    ∀ c ∈ cs, c.isDigit = true := by
  intro c mem
  have either := decimal c mem
  rw [isDecimalChar, Bool.or_eq_true, beq_iff_eq] at either
  rcases either with digit | rfl
  · exact digit
  · exact absurd mem plain

/-- A run of digits that is not empty has a digit. -/
lemma exists_isDigit (digits : ∀ c ∈ cs, c.isDigit = true) (ne : cs ≠ []) :
    ∃ c ∈ cs, c.isDigit = true := by
  obtain ⟨c, mem⟩ := List.exists_mem_of_ne_nil cs ne
  exact ⟨c, mem, digits c mem⟩

/-- A decimal number is a text of digits and points. -/
lemma IsDecimalNumber.isDecimalText (h : IsDecimalNumber s) : IsDecimalText s := by
  obtain ⟨whole, fraction, digits, -, text⟩ := h
  have decimal : ∀ c ∈ whole ++ fraction, isDecimalChar c = true := by
    intro c mem
    rw [isDecimalChar, digits c mem, Bool.true_or]
  rw [IsDecimalText]
  rcases text with text | text
  · rwa [text]
  · rw [List.forall_mem_append] at decimal
    rw [text, List.forall_mem_append, List.forall_mem_cons]
    exact ⟨decimal.1, rfl, decimal.2⟩

/-- A text of digits and points is a number unless it has two points or no digit. -/
lemma isDecimalNumber_iff (decimal : IsDecimalText s) :
    IsDecimalNumber s ↔ s.toList.count '.' ≤ 1 ∧ ∃ c ∈ s.toList, c.isDigit = true := by
  constructor
  · rintro ⟨whole, fraction, digits, ne, text⟩
    have digit := exists_isDigit digits ne
    have front := List.count_eq_zero.2 (point_notMem digits)
    rw [List.count_append] at front
    rcases text with text | text
    · rw [text, List.count_append]
      exact ⟨by omega, digit⟩
    · rw [text, List.count_append, List.count_cons_self]
      refine ⟨by omega, ?_⟩
      obtain ⟨c, mem, digit⟩ := digit
      refine ⟨c, ?_, digit⟩
      rcases List.mem_append.1 mem with mem | mem
      · exact List.mem_append_left _ mem
      · exact List.mem_append_right _ (List.mem_cons_of_mem _ mem)
  · rintro ⟨once, c, mem, digit⟩
    -- the only point there is sets the fraction apart
    by_cases point : '.' ∈ s.toList
    · obtain ⟨whole, fraction, text, plain⟩ := List.eq_append_cons_of_mem point
      rw [text, List.count_append, List.count_cons_self] at once
      have plain' : '.' ∉ fraction := List.count_eq_zero.1 (by omega)
      rw [IsDecimalText, text] at decimal
      rw [text] at mem
      refine ⟨whole, fraction, ?_, ?_, .inr text⟩
      · apply isDigit_of_point_notMem
        · intro c mem
          apply decimal c
          rcases List.mem_append.1 mem with mem | mem
          · exact List.mem_append_left _ mem
          · exact List.mem_append_right _ (List.mem_cons_of_mem _ mem)
        · exact fun mem => (List.mem_append.1 mem).elim plain plain'
      · intro empty
        obtain ⟨rfl, rfl⟩ := List.append_eq_nil_iff.1 empty
        obtain rfl : c = '.' := List.mem_singleton.1 mem
        exact absurd digit (by decide)
    · refine ⟨s.toList, [], ?_, ?_, .inl (List.append_nil _).symm⟩
      · rw [List.append_nil]
        exact isDigit_of_point_notMem decimal point
      · rw [List.append_nil]
        exact List.ne_nil_of_mem mem

end DecimalNumber

variable {digits : String}

/-- A natural number is written in digits. -/
lemma isDigit_toString (n : Nat) : ∀ c ∈ (toString n).toList, c.isDigit = true := by
  rw [← Numeral.digits_ofNat]
  exact (Numeral.ofNat n).isDigit

/-- A natural number is written with at least one digit. -/
lemma toString_ne_nil (n : Nat) : (toString n).toList ≠ [] := by
  rw [← Numeral.digits_ofNat]
  exact (Numeral.ofNat n).ne_nil

/-- A natural number is written as a decimal number. -/
lemma isDecimalNumber_toString (n : Nat) : IsDecimalNumber (toString n) := by
  refine ⟨(toString n).toList, [], ?_, ?_, .inl (List.append_nil _).symm⟩
  · rw [List.append_nil]
    exact isDigit_toString n
  · rw [List.append_nil]
    exact toString_ne_nil n

/-- A natural number is written as a decimal text. -/
lemma isDecimalText_toString (n : Nat) : IsDecimalText (toString n) :=
  (isDecimalNumber_toString n).isDecimalText

/-- Digits with a point set among them are a decimal number. -/
lemma isDecimalNumber_positionalText (n : Nat) (k : Int) :
    IsDecimalNumber (positionalText (toString n) k) := by
  have digits := isDigit_toString n
  have zero (m : Nat) : ∀ c ∈ List.replicate m '0', c.isDigit = true := by
    intro c mem
    rw [List.eq_of_mem_replicate mem]
    rfl
  -- the point stands in front of the digits, behind them, or among them
  rw [positionalText]
  split
  case isTrue =>
    refine ⟨['0'], List.replicate (-k).toNat '0' ++ (toString n).toList, ?_, nofun, .inr ?_⟩
    · rw [List.singleton_append, List.forall_mem_cons, List.forall_mem_append]
      exact ⟨rfl, zero _, digits⟩
    · simp [zeros]
  case isFalse =>
    split
    case isTrue =>
      generalize (k - ((toString n).length : Int)).toNat = m
      refine ⟨(toString n).toList ++ List.replicate m '0', ['0'], ?_, ?_, .inr ?_⟩
      · rw [List.forall_mem_append, List.forall_mem_append]
        exact ⟨⟨digits, zero _⟩, zero 1⟩
      · exact List.append_ne_nil_of_right_ne_nil _ (List.cons_ne_nil _ _)
      · simp [zeros]
    case isFalse =>
      refine ⟨(toString n).toList.take k.toNat, (toString n).toList.drop k.toNat, ?_, ?_, .inr ?_⟩
      · rw [List.take_append_drop]
        exact digits
      · rw [List.take_append_drop]
        exact toString_ne_nil n
      · simp

/-- A number with an exponent is no decimal text, for its `e`. -/
lemma not_isDecimalText_exponentText (digits : String) (s : Int) :
    ¬IsDecimalText (exponentText digits s) := by
  intro decimal
  simp only [exponentText, isDecimalText_append] at decimal
  obtain ⟨⟨⟨-, letter⟩, -⟩, -⟩ := decimal
  exact absurd letter (by decide)

/-- A number with an exponent has no blanks. -/
lemma inked_exponentText (decimal : IsDecimalText digits) (s : Int) :
    Inked (exponentText digits s) := by
  have number := (isDecimalText_toString s.natAbs).inked
  simp only [exponentText, inked_append]
  refine ⟨⟨⟨⟨(decimal.take 1).inked, ?_⟩, by decide⟩, ?_⟩, number⟩
  · split
    case isTrue => decide
    case isFalse => exact inked_append.2 ⟨by decide, (decimal.drop 1).inked⟩
  · split
    case isTrue => decide
    case isFalse => decide

variable {style : FloatStyle} {x : Float} {d : Dyadic}

/-- The text of a finite double behind its sign. -/
def sizeText (style : FloatStyle) (d : Dyadic) : String :=
  let shortest := d.shortestDigits style.tie
  if shortest.digits == 0 then "0.0"
  else if style.positional (shortest.places - 1) then
    positionalText (toString shortest.digits) shortest.places
  else exponentText (toString shortest.digits) (shortest.places - 1)

/-- The text of a finite double is that of its size, behind its sign. -/
lemma floatText_of_some (h : Dyadic.ofFloat? x = some d) :
    floatText style x = (if d.negative then "-" else "") ++ sizeText style d := by
  rw [floatText, h]
  rfl

/-- A double that is not finite is written as a word. -/
lemma floatText_of_none (h : Dyadic.ofFloat? x = none) :
    floatText style x ∈ ["NaN", "-inf", "inf"] := by
  rw [floatText, h]
  dsimp only
  split
  case isTrue => exact List.mem_cons_self
  case isFalse =>
    split
    case isTrue => exact List.mem_cons_of_mem _ List.mem_cons_self
    case isFalse => exact List.mem_cons_of_mem _ (List.mem_cons_of_mem _ List.mem_cons_self)

/-- The size of a double is written without blanks. -/
lemma inked_sizeText (style : FloatStyle) (d : Dyadic) : Inked (sizeText style d) := by
  have decimal := isDecimalText_toString (d.shortestDigits style.tie).digits
  rw [sizeText]
  split
  case isTrue => decide
  case isFalse =>
    split
    case isTrue => exact (isDecimalNumber_positionalText _ _).isDecimalText.inked
    case isFalse => exact inked_exponentText decimal _

/-- The size of a double is written as a decimal text unless it is written with an exponent. -/
lemma isDecimalText_sizeText_iff :
    IsDecimalText (sizeText style d) ↔ (d.shortestDigits style.tie).digits = 0 ∨
      style.positional ((d.shortestDigits style.tie).places - 1) = true := by
  rw [sizeText]
  split
  case isTrue zero => exact iff_of_true (by decide) (.inl (eq_of_beq zero))
  case isFalse nonzero =>
    rw [or_iff_right (by simpa using nonzero)]
    split
    case isTrue pos => exact iff_of_true (isDecimalNumber_positionalText _ _).isDecimalText pos
    case isFalse exp => exact iff_of_false (not_isDecimalText_exponentText _ _) exp

/-- Where a double is printed with digits and a point alone, these are a decimal number. -/
lemma isDecimalNumber_sizeText (decimal : IsDecimalText (sizeText style d)) :
    IsDecimalNumber (sizeText style d) := by
  rw [sizeText] at decimal ⊢
  split
  case isTrue => exact ⟨['0'], ['0'], by decide, nofun, .inr rfl⟩
  case isFalse nonzero =>
    rw [if_neg nonzero] at decimal
    split
    case isTrue => exact isDecimalNumber_positionalText _ _
    case isFalse exp =>
      rw [if_neg exp] at decimal
      exact absurd decimal (not_isDecimalText_exponentText _ _)

/-- The size of a double is never written as nothing. -/
lemma sizeText_ne_empty (style : FloatStyle) (d : Dyadic) : sizeText style d ≠ "" := by
  rw [sizeText]
  split
  case isTrue => decide
  case isFalse =>
    split
    case isTrue =>
      rw [positionalText]
      split
      case isTrue => simp
      case isFalse => split <;> simp
    case isFalse => simp [exponentText]

/-- A printed double has no blanks, and is not empty. -/
lemma inked_floatText (style : FloatStyle) (x : Float) :
    Inked (floatText style x) ∧ floatText style x ≠ "" := by
  cases h : Dyadic.ofFloat? x with
  | none =>
    have words : ∀ s ∈ ["NaN", "-inf", "inf"], Inked s ∧ s ≠ "" := by decide
    exact words _ (floatText_of_none h)
  | some d =>
    rw [floatText_of_some h, inked_append]
    refine ⟨⟨?_, inked_sizeText style d⟩, ?_⟩
    · split <;> decide
    · simp [sizeText_ne_empty]

/-- A printed double is made of digits and a point alone if it has no sign and no exponent. -/
lemma isDecimalText_floatText_iff :
    IsDecimalText (floatText style x) ↔ ∃ d, Dyadic.ofFloat? x = some d ∧ d.negative = false ∧
      ((d.shortestDigits style.tie).digits = 0 ∨
        style.positional ((d.shortestDigits style.tie).places - 1) = true) := by
  cases h : Dyadic.ofFloat? x with
  | none =>
    have words : ∀ s ∈ ["NaN", "-inf", "inf"], ¬IsDecimalText s := by decide
    exact iff_of_false (words _ (floatText_of_none h)) nofun
  | some d =>
    rw [floatText_of_some h, isDecimalText_append, isDecimalText_sizeText_iff]
    have sign : IsDecimalText (if d.negative then "-" else "") ↔ d.negative = false := by
      cases d.negative with
      | true => decide
      | false => decide
    rw [sign]
    constructor
    · intro decimal
      exact ⟨d, rfl, decimal⟩
    · rintro ⟨_, same, decimal⟩
      cases same
      exact decimal

/-- A double that is written in digits and points alone is written as a decimal number. -/
lemma isDecimalNumber_floatText (decimal : IsDecimalText (floatText style x)) :
    IsDecimalNumber (floatText style x) := by
  obtain ⟨d, finite, unsigned, -⟩ := isDecimalText_floatText_iff.1 decimal
  rw [floatText_of_some finite, unsigned] at decimal ⊢
  exact isDecimalNumber_sizeText decimal

end EmailTemplate.Decimal
