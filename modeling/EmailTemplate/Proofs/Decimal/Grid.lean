import EmailTemplate.Proofs.Decimal.Ratio

/-!
# The nearest decimals on a grid

On the grid of decimals with a given number of digits, the two neighbours of a number are tried
whether they lie between two bounds around it. A decimal that is found is one of the neighbours and
not beyond the upper bound (`onGrid_of_nearestOnGrid?`). None is found only if the bounds are no
farther apart than the grid is wide (`le_of_nearestOnGrid?_eq_none`).
-/

namespace EmailTemplate.Decimal

/-- Whether `a` times a denominator lies between two numerators. -/
def inside (low high : Ratio) (den : Nat) (closed : Bool) (a : Nat) : Bool :=
  if closed then low.num ≤ a * den && a * den ≤ high.num
  else low.num < a * den && a * den < high.num

/-- What lies inside is not beyond the upper bound. -/
lemma le_of_inside {low high : Ratio} {den a : Nat} {closed : Bool}
    (h : inside low high den closed a = true) : a * den ≤ high.num := by
  rw [inside] at h
  split at h
  case isTrue =>
    rw [Bool.and_eq_true, decide_eq_true_iff, decide_eq_true_iff] at h
    exact h.2
  case isFalse =>
    rw [Bool.and_eq_true, decide_eq_true_iff, decide_eq_true_iff] at h
    exact h.2.le

/-- What does not lie inside is beyond one of the bounds, or on it. -/
lemma beyond_of_not_inside {low high : Ratio} {den a : Nat} {closed : Bool}
    (h : inside low high den closed a = false) : a * den ≤ low.num ∨ high.num ≤ a * den := by
  rw [inside] at h
  split at h
  case isTrue =>
    rw [Bool.and_eq_false_iff, decide_eq_false_iff_not, decide_eq_false_iff_not] at h
    omega
  case isFalse =>
    rw [Bool.and_eq_false_iff, decide_eq_false_iff_not, decide_eq_false_iff_not] at h
    omega

/-- A number between two bounds, over one denominator. -/
structure Bounds (low v high : Ratio) : Prop where
  pos : 0 < v.den
  den_low : low.den = v.den
  den_high : high.den = v.den
  low_lt : low.num < v.num
  lt_high : v.num < high.num

/-- Scaling by a power of ten keeps a number between its bounds. -/
lemma Bounds.shift10 {low v high : Ratio} (b : Bounds low v high) (e : Int) :
    Bounds (low.shift10 e) (v.shift10 e) (high.shift10 e) where
  pos := Ratio.den_shift10_pos b.pos e
  den_low := Ratio.den_shift10_eq b.den_low e
  den_high := Ratio.den_shift10_eq b.den_high e
  low_lt := by
    rw [Ratio.shift10, Ratio.shift10]
    split
    case isTrue => exact Nat.mul_lt_mul_of_pos_right b.low_lt (Nat.pow_pos (by decide))
    case isFalse => exact b.low_lt
  lt_high := by
    rw [Ratio.shift10, Ratio.shift10]
    split
    case isTrue => exact Nat.mul_lt_mul_of_pos_right b.lt_high (Nat.pow_pos (by decide))
    case isFalse => exact b.lt_high

variable {tie : Tie} {low v high : Ratio} {closed : Bool} {k : Int} {n : Nat}

/-- Of the two neighbours of a number, one between the bounds is found, if there is one. -/
lemma nearestOnGrid?_cases (tie : Tie) (low v high : Ratio) (closed : Bool) (k : Int) (n : Nat) :
    let e := k - n
    let v' := v.shift10 e
    let within := inside (low.shift10 e) (high.shift10 e) v'.den closed
    (∃ a, (a = v'.num / v'.den ∨ a = v'.num / v'.den + 1) ∧ within a = true ∧
      nearestOnGrid? tie low v high closed k n = some ⟨a, e⟩) ∨
    within (v'.num / v'.den) = false ∧ within (v'.num / v'.den + 1) = false ∧
      nearestOnGrid? tie low v high closed k n = none := by
  intro e v' within
  unfold nearestOnGrid?
  dsimp only
  split
  case h_1 below above => exact .inr ⟨below, above, rfl⟩
  case h_2 below _ => exact .inl ⟨_, .inl rfl, below, rfl⟩
  case h_3 _ above => exact .inl ⟨_, .inr rfl, above, rfl⟩
  case h_4 below above =>
    left
    split
    case isTrue => exact ⟨_, .inl rfl, below, rfl⟩
    case isFalse => exact ⟨_, .inr rfl, above, rfl⟩

/-- A decimal with an exponent is next to a number and not beyond a bound. -/
structure OnGrid (v high : ℚ) (e : Int) (d : Digits) : Prop where
  exponent : d.exponent = e
  /-- The decimal is the neighbour below or the one above. -/
  near : ∃ below : Nat, (below : ℚ) ≤ v / 10 ^ e ∧ v / 10 ^ e < (below + 1 : Nat) ∧
    (d.digits = below ∨ d.digits = below + 1)
  le_high : (d.digits : ℚ) * 10 ^ e ≤ high

/-- Powers of ten are positive. -/
lemma pow_ten_pos (e : Int) : (0 : ℚ) < 10 ^ e :=
  zpow_pos (by norm_num) e

/-- A decimal that is found is on the grid, next to the number and not beyond the upper bound. -/
lemma onGrid_of_nearestOnGrid? (b : Bounds low v high) {d : Digits}
    (found : nearestOnGrid? tie low v high closed k n = some d) :
    OnGrid v.value high.value (k - n) d := by
  have b := b.shift10 (k - n)
  obtain ⟨a, near, within, search⟩ | ⟨-, -, search⟩ :=
    nearestOnGrid?_cases tie low v high closed k n
  · rw [search, Option.some.injEq] at found
    subst found
    refine ⟨rfl, ⟨_, ?_, ?_, near⟩, ?_⟩
    · rw [← Ratio.value_shift10]
      exact Ratio.div_le_value b.pos
    · rw [← Ratio.value_shift10]
      exact Ratio.value_lt_div_add_one b.pos
    · rw [← le_div_iff₀ (pow_ten_pos _), ← Ratio.value_shift10,
        Ratio.le_value_iff (b.den_high ▸ b.pos), b.den_high]
      exact le_of_inside within
  · rw [search] at found
    cases found

/-- If neither neighbour lies between the bounds, the bounds lie between the neighbours. -/
lemma sub_le_of_nearestOnGrid? (b : Bounds low v high)
    (none : nearestOnGrid? tie low v high closed k n = none) :
    high.value - low.value ≤ 10 ^ (k - n) := by
  have shifted := b.shift10 (k - n)
  obtain ⟨a, -, -, search⟩ | ⟨below, above, -⟩ := nearestOnGrid?_cases tie low v high closed k n
  · rw [search] at none
    cases none
  · have low_lt := shifted.low_lt
    have lt_high := shifted.lt_high
    have lower := Nat.div_mul_le_self (v.shift10 (k - n)).num (v.shift10 (k - n)).den
    have upper := Nat.lt_mul_of_div_lt
      (Nat.lt_add_one ((v.shift10 (k - n)).num / (v.shift10 (k - n)).den)) shifted.pos
    generalize (v.shift10 (k - n)).num / (v.shift10 (k - n)).den = a at below above lower upper
    have fromLow := (beyond_of_not_inside below).resolve_right (by omega)
    have toHigh := (beyond_of_not_inside above).resolve_left (by omega)
    rw [← shifted.den_low, ← Ratio.le_value_iff (shifted.den_low ▸ shifted.pos),
      Ratio.value_shift10, le_div_iff₀ (pow_ten_pos _)] at fromLow
    rw [← shifted.den_high, ← Ratio.value_le_iff (shifted.den_high ▸ shifted.pos),
      Ratio.value_shift10, div_le_iff₀ (pow_ten_pos _), Nat.cast_succ] at toHigh
    linarith

end EmailTemplate.Decimal
