import EmailTemplate.Decimal.Shortest
import Mathlib.Algebra.Order.Field.Rat
import Mathlib.Data.Nat.Cast.Order.Field
import Mathlib.Tactic.Positivity
import Mathlib.Tactic.FieldSimp
import Mathlib.Tactic.Linarith
import Mathlib.Tactic.NormNum
import Mathlib.Tactic.Ring

/-!
# Ratios as rational numbers

The exact arithmetic that finds the shortest decimal of a double is done with ratios of natural
numbers. Here a ratio stands for a rational number, and the operations on ratios for those on
numbers: scaling by powers of two and of ten, comparing with whole numbers, and counting the decimal
places before the point (`pow_magnitude`).
-/

namespace EmailTemplate.Decimal.Ratio

/-- The number that a ratio stands for. -/
def value (r : Ratio) : ℚ :=
  r.num / r.den

variable {r : Ratio}

/-- Powers of natural numbers are powers of rational ones. -/
lemma cast_natPow (b k : Nat) : ((Nat.pow b k : Nat) : ℚ) = (b : ℚ) ^ k :=
  Nat.cast_pow b k

/-- A ratio is compared with a whole number above it by numerators. -/
lemma value_le_iff (pos : 0 < r.den) (a : Nat) : r.value ≤ a ↔ r.num ≤ a * r.den := by
  have den : (0 : ℚ) < r.den := Nat.cast_pos.2 pos
  rw [value, div_le_iff₀ den]
  exact_mod_cast Iff.rfl

/-- A ratio is compared with a whole number below it by numerators. -/
lemma le_value_iff (pos : 0 < r.den) (a : Nat) : (a : ℚ) ≤ r.value ↔ a * r.den ≤ r.num := by
  have den : (0 : ℚ) < r.den := Nat.cast_pos.2 pos
  rw [value, le_div_iff₀ den]
  exact_mod_cast Iff.rfl

/-- The quotient of a ratio is the next number below. -/
lemma div_le_value (pos : 0 < r.den) : ((r.num / r.den : Nat) : ℚ) ≤ r.value := by
  rw [le_value_iff pos]
  exact Nat.div_mul_le_self r.num r.den

/-- The whole number after the quotient of a ratio is above the ratio. -/
lemma value_lt_div_add_one (pos : 0 < r.den) : r.value < ((r.num / r.den + 1 : Nat) : ℚ) := by
  rw [← not_le, le_value_iff pos, not_le]
  exact Nat.lt_mul_of_div_lt (Nat.lt_succ_self _) pos

/-- Scaling by a power of two leaves a positive denominator. -/
lemma den_scale2_pos (n : Nat) (q : Int) : 0 < (scale2 n q).den := by
  rw [scale2]
  split
  case isTrue => exact Nat.pow_pos Nat.two_pos
  case isFalse => exact Nat.one_pos

/-- Ratios that are scaled by one power of two have one denominator. -/
lemma den_scale2_eq (n m : Nat) (q : Int) : (scale2 n q).den = (scale2 m q).den := by
  rw [scale2, scale2]
  split <;> rfl

/-- Scaling by a power of two keeps numerators in order. -/
lemma num_scale2_lt {n m : Nat} (lt : n < m) (q : Int) : (scale2 n q).num < (scale2 m q).num := by
  rw [scale2, scale2]
  split
  case isTrue => exact lt
  case isFalse => exact Nat.mul_lt_mul_of_pos_right lt (Nat.pow_pos Nat.two_pos)

/-- A scaled ratio is the number times the power of two. -/
lemma value_scale2 (n : Nat) (q : Int) : (scale2 n q).value = n * 2 ^ q := by
  rw [scale2]
  split
  case isTrue neg =>
    obtain ⟨k, rfl⟩ : ∃ k : Nat, q = -k := ⟨(-q).toNat, by omega⟩
    rw [value, Int.neg_neg, Int.toNat_natCast, cast_natPow, zpow_neg, zpow_natCast, div_eq_mul_inv]
    rfl
  case isFalse pos =>
    obtain ⟨k, rfl⟩ : ∃ k : Nat, q = k := ⟨q.toNat, by omega⟩
    rw [value, Int.toNat_natCast, Nat.cast_mul, cast_natPow, zpow_natCast, Nat.cast_one, div_one]
    rfl

/-- Scaling by a power of ten leaves a positive denominator. -/
lemma den_shift10_pos (pos : 0 < r.den) (e : Int) : 0 < (r.shift10 e).den := by
  rw [shift10]
  split
  case isTrue => exact pos
  case isFalse => exact Nat.mul_pos pos (Nat.pow_pos (by decide))

/-- Ratios of one denominator still have one after scaling by a power of ten. -/
lemma den_shift10_eq {r' : Ratio} (same : r.den = r'.den) (e : Int) :
    (r.shift10 e).den = (r'.shift10 e).den := by
  rw [shift10, shift10]
  split
  case isTrue => exact same
  case isFalse => exact congrArg (· * _) same

/-- Multiplying the numerator by a power of ten multiplies the number by it. -/
lemma value_shifted (r : Ratio) (k : Nat) :
    value ⟨r.num * Nat.pow 10 k, r.den⟩ = r.value * 10 ^ k := by
  rw [value, value, Nat.cast_mul, cast_natPow, div_mul_eq_mul_div]
  rfl

/-- A ratio shifted by an exponent is divided by that power of ten. -/
lemma value_shift10 (r : Ratio) (e : Int) : (r.shift10 e).value = r.value / 10 ^ e := by
  rw [shift10]
  split
  case isTrue neg =>
    obtain ⟨k, rfl⟩ : ∃ k : Nat, e = -k := ⟨(-e).toNat, by omega⟩
    rw [Int.neg_neg, Int.toNat_natCast, zpow_neg, zpow_natCast, div_inv_eq_mul]
    exact value_shifted r k
  case isFalse pos =>
    obtain ⟨k, rfl⟩ : ∃ k : Nat, e = k := ⟨e.toNat, by omega⟩
    rw [value, value, Int.toNat_natCast, Nat.cast_mul, cast_natPow, zpow_natCast, div_div]
    rfl

/-- A number with as many digits as the printed one lies between two powers of ten. -/
lemma pow_length_toDigits {n : Nat} (pos : 0 < n) :
    10 ^ ((Nat.toDigits 10 n).length - 1) ≤ n ∧ n < 10 ^ (Nat.toDigits 10 n).length := by
  constructor
  · cases length : (Nat.toDigits 10 n).length - 1 with
    | zero => exact pos
    | succ k =>
      rw [← not_lt, ← Nat.length_toDigits_le_iff (by decide) (Nat.succ_pos k)]
      omega
  · exact (Nat.length_toDigits_le_iff (by decide) Nat.length_toDigits_pos).1 (Nat.le_refl _)

/-- The powers of ten next to a number tell how many digits it is printed with. -/
lemma length_toDigits_eq {n l : Nat} (some : 0 < l) (low : 10 ^ (l - 1) ≤ n) (high : n < 10 ^ l) :
    (Nat.toDigits 10 n).length = l := by
  obtain ⟨low', high'⟩ := pow_length_toDigits ((Nat.pow_pos (by decide)).trans_le low)
  have some' := Nat.length_toDigits_pos (b := 10) (n := n)
  have upper := (Nat.pow_lt_pow_iff_right (by decide)).1 (low.trans_lt high')
  have lower := (Nat.pow_lt_pow_iff_right (by decide)).1 (low'.trans_lt high)
  omega

/-- A ratio lies between two powers of ten, as the digits say that are in front of its point when
the point is moved far enough to the right. -/
lemma pow_places (pos : 0 < r.den) (k : Nat) (least : (1 : ℚ) ≤ r.value * 10 ^ k) {s : ℤ}
    (places : s + k = (Nat.toDigits 10 (r.num * Nat.pow 10 k / r.den)).length) :
    (10 : ℚ) ^ (s - 1) ≤ r.value ∧ r.value < 10 ^ s := by
  have below := div_le_value (r := ⟨r.num * Nat.pow 10 k, r.den⟩) pos
  have above := value_lt_div_add_one (r := ⟨r.num * Nat.pow 10 k, r.den⟩) pos
  rw [value_shifted] at below above
  generalize r.num * Nat.pow 10 k / r.den = n at below above places
  have filled : 0 < n := by
    have lt : (1 : ℚ) < ((n + 1 : Nat) : ℚ) := least.trans_lt above
    have := Nat.one_lt_cast.1 lt
    omega
  obtain ⟨low, high⟩ := pow_length_toDigits filled
  have positive : (0 : ℚ) < 10 ^ k := pow_pos (by norm_num) k
  -- both bounds are shown for the ratio with its point moved by `k`
  have shift (i : ℤ) (l : Nat) (eq : i + k = l) : (10 : ℚ) ^ i * 10 ^ k = 10 ^ l := by
    rw [← zpow_natCast, ← zpow_natCast, ← zpow_add₀ (by norm_num), eq]
  have some := Nat.length_toDigits_pos (b := 10) (n := n)
  constructor
  · apply le_of_mul_le_mul_right _ positive
    rw [shift _ ((Nat.toDigits 10 n).length - 1) (by omega)]
    calc (10 : ℚ) ^ ((Nat.toDigits 10 n).length - 1) ≤ (n : ℚ) := by exact_mod_cast low
      _ ≤ r.value * 10 ^ k := below
  · apply lt_of_mul_lt_mul_right _ positive.le
    rw [shift _ _ places]
    calc r.value * 10 ^ k < ((n + 1 : Nat) : ℚ) := above
      _ ≤ 10 ^ (Nat.toDigits 10 n).length := by exact_mod_cast high

/-- The magnitude of a ratio tells between which powers of ten it lies, unless it is too small. -/
lemma pow_magnitude (pos : 0 < r.den) (least : (1 : ℚ) ≤ r.value * 10 ^ reach) :
    (10 : ℚ) ^ (r.magnitude - 1) ≤ r.value ∧ r.value < 10 ^ r.magnitude :=
  pow_places pos reach least (Int.sub_add_cancel _ _)

end EmailTemplate.Decimal.Ratio
