import EmailTemplate.Proofs.Decimal.Grid

/-!
# The size of a double and of its shortest decimal

The shortest decimal of a double that is not zero is always found: seventeen digits are enough
(`onGrid_shortest`). It has as many decimal places in front of its point as the double itself, or
one more when it was rounded up to a power of ten; no double lies so close below `10 ^ 16` or
`10 ^ -5` that it would be rounded up to it. So the shortest decimal is written positionally exactly
if the double lies between these two (`places_shortestDigits_iff`).
-/

namespace EmailTemplate.Decimal

namespace Dyadic

/-- The dyadic numbers that doubles are. -/
structure Double (d : Dyadic) : Prop where
  lt : d.m < 2 ^ 53
  least_le : -1074 ≤ d.q
  /-- Only the least exponent goes with fewer than 53 digits. -/
  normal : 2 ^ 52 ≤ d.m ∨ d.q = -1074

/-- The dyadic number of a finite double has the precision of one. -/
lemma double_of_ofFloat? {x : Float} {d : Dyadic} (h : ofFloat? x = some d) : d.Double := by
  have fraction : x.toBits.toNat % Nat.pow 2 52 < 2 ^ 52 := Nat.mod_lt _ (Nat.pow_pos Nat.two_pos)
  rw [ofFloat?] at h
  generalize x.toBits.toNat % Nat.pow 2 52 = fraction' at h fraction
  generalize x.toBits.toNat / Nat.pow 2 52 % Nat.pow 2 11 = exponent at h
  split at h
  case isTrue => cases h
  case isFalse =>
    split at h
    case isTrue =>
      cases h
      exact ⟨fraction.trans (by norm_num), Int.le_refl _, .inr rfl⟩
    case isFalse subnormal =>
      cases h
      rw [beq_iff_eq] at subnormal
      refine ⟨?_, ?_, .inl (Nat.le_add_right _ _)⟩
      · show 2 ^ 52 + fraction' < 2 ^ 53
        omega
      · show (-1074 : Int) ≤ (exponent : Int) - 1075
        omega

/-- The absolute value of a dyadic number. -/
def size (d : Dyadic) : ℚ :=
  d.m * 2 ^ d.q

/-- The upper end of the interval of numbers that round to a dyadic number. -/
def upperEnd (d : Dyadic) : ℚ :=
  (2 * d.m + 1) * 2 ^ (d.q - 1)

/-- How far the interval reaches below a dyadic number, in quarters of its last place: half as far
where the doubles below lie closer. -/
def margin (d : Dyadic) : Nat :=
  if d.m == Nat.pow 2 52 && d.q > -1074 then 1 else 2

variable {d : Dyadic}

/-- The next power of two is twice as large. -/
lemma two_zpow_succ (q : Int) : (2 : ℚ) ^ q = 2 * 2 ^ (q - 1) := by
  rw [zpow_sub_one₀ (by norm_num)]
  ring

/-- Powers of two are positive. -/
lemma two_zpow_pos (q : Int) : (0 : ℚ) < 2 ^ q :=
  zpow_pos (by norm_num) q

/-- The interval reaches less far below only where the digits are a power of two. -/
lemma margin_cases (d : Dyadic) : d.margin = 1 ∧ d.m = 2 ^ 52 ∨ d.margin = 2 := by
  rw [margin]
  split
  case isTrue h =>
    rw [Bool.and_eq_true, beq_iff_eq] at h
    exact .inl ⟨rfl, h.1⟩
  case isFalse => exact .inr rfl

/-- The ratio that the search starts from is the size of the double. -/
lemma value_scale2_size (d : Dyadic) : (Ratio.scale2 (4 * d.m) (d.q - 2)).value = d.size := by
  rw [Ratio.value_scale2, size, two_zpow_succ d.q, two_zpow_succ (d.q - 1), sub_sub]
  push_cast
  ring

/-- The ratio that bounds the search from above is the upper end of the interval. -/
lemma value_scale2_upperEnd (d : Dyadic) :
    (Ratio.scale2 (4 * d.m + 2) (d.q - 2)).value = d.upperEnd := by
  rw [Ratio.value_scale2, upperEnd, two_zpow_succ (d.q - 1), sub_sub]
  push_cast
  ring

/-- The numbers that the search for the shortest decimal goes by. -/
lemma bounds (pos : 0 < d.m) :
    Bounds (Ratio.scale2 (4 * d.m - d.margin) (d.q - 2)) (Ratio.scale2 (4 * d.m) (d.q - 2))
      (Ratio.scale2 (4 * d.m + 2) (d.q - 2)) where
  pos := Ratio.den_scale2_pos _ _
  den_low := Ratio.den_scale2_eq _ _ _
  den_high := Ratio.den_scale2_eq _ _ _
  low_lt := by
    have margin : 0 < d.margin := by
      obtain ⟨one, -⟩ | two := d.margin_cases
      · omega
      · omega
    exact Ratio.num_scale2_lt (by omega) _
  lt_high := Ratio.num_scale2_lt (by omega) _

/-- The interval around a double is wider than the grid of seventeen digits. -/
lemma pow_lt_width (double : d.Double) (pos : 0 < d.m) {k : Int}
    (least : (10 : ℚ) ^ (k - 1) ≤ d.size) :
    (10 : ℚ) ^ (k - 17) < (Ratio.scale2 (4 * d.m + 2) (d.q - 2)).value -
      (Ratio.scale2 (4 * d.m - d.margin) (d.q - 2)).value := by
  have lt := double.lt
  -- the interval reaches from half a step below, or a quarter, to half a step above
  have few : 4 * d.m < (2 + d.margin) * 10 ^ 16 ∧ d.margin ≤ 4 * d.m := by
    obtain ⟨one, m⟩ | two := d.margin_cases
    · rw [one, m]
      norm_num
    · rw [two]
      norm_num
      omega
  obtain ⟨few, le⟩ := few
  have grid : (10 : ℚ) ^ (k - 17) * 10 ^ 16 = 10 ^ (k - 1) := by
    rw [← zpow_natCast, ← zpow_add₀ (by norm_num)]
    congr 1
    push_cast
    ring
  have power := two_zpow_pos (d.q - 2)
  have few : (4 * d.m : ℚ) < (2 + d.margin) * 10 ^ 16 := by exact_mod_cast few
  rw [← value_scale2_size, Ratio.value_scale2] at least
  rw [Ratio.value_scale2, Ratio.value_scale2, Nat.cast_sub le]
  push_cast at least ⊢
  apply lt_of_mul_lt_mul_right _ (by norm_num : (0 : ℚ) ≤ 10 ^ 16)
  calc (10 : ℚ) ^ (k - 17) * 10 ^ 16 = 10 ^ (k - 1) := grid
    _ ≤ 4 * d.m * 2 ^ (d.q - 2) := least
    _ < (2 + d.margin) * 10 ^ 16 * 2 ^ (d.q - 2) := mul_lt_mul_of_pos_right few power
    _ = ((4 * d.m + 2) * 2 ^ (d.q - 2) - (4 * d.m - d.margin) * 2 ^ (d.q - 2)) * 10 ^ 16 := by
      ring

/-- No double but zero is so small that its first digit is not found. -/
lemma one_le_size_mul (double : d.Double) (pos : 0 < d.m) :
    (1 : ℚ) ≤ d.size * 10 ^ Ratio.reach := by
  have least := double.least_le
  have reach : ((3 * Ratio.reach : Nat) : ℤ) = 1200 := rfl
  have power : (2 : ℚ) ^ d.q ≤ d.size :=
    le_mul_of_one_le_left (two_zpow_pos d.q).le (Nat.one_le_cast.2 pos)
  have eight : ((2 : ℚ) ^ 3) ^ Ratio.reach ≤ 10 ^ Ratio.reach :=
    pow_le_pow_left₀ (by norm_num) (by norm_num) _
  calc (1 : ℚ) ≤ 2 ^ (d.q + (3 * Ratio.reach : Nat)) := one_le_zpow₀ (by norm_num) (by omega)
    _ = 2 ^ d.q * (2 ^ 3) ^ Ratio.reach := by
      rw [zpow_add₀ (by norm_num), zpow_natCast, pow_mul]
    _ ≤ d.size * 10 ^ Ratio.reach :=
      mul_le_mul power eight (pow_nonneg (by norm_num) _) ((two_zpow_pos d.q).le.trans power)

/-- The shortest decimal of a double that is not zero is found on one of the grids. -/
lemma onGrid_shortest (tie : Tie) (double : d.Double) (pos : 0 < d.m) :
    ∃ (k : Int) (n : Nat), (10 : ℚ) ^ (k - 1) ≤ d.size ∧ d.size < 10 ^ k ∧
      OnGrid d.size d.upperEnd (k - (n + 1 : Nat)) (d.shortest tie) := by
  have least := one_le_size_mul double pos
  rw [← value_scale2_size] at least
  obtain ⟨low, high⟩ := Ratio.pow_magnitude (Ratio.den_scale2_pos _ _) least
  rw [value_scale2_size] at low high
  let k := (Ratio.scale2 (4 * d.m) (d.q - 2)).magnitude
  let search (n : Nat) : Option Digits :=
    nearestOnGrid? tie (Ratio.scale2 (4 * d.m - d.margin) (d.q - 2))
      (Ratio.scale2 (4 * d.m) (d.q - 2)) (Ratio.scale2 (4 * d.m + 2) (d.q - 2)) (d.m % 2 == 0) k
      (n + 1)
  -- the search is over by the seventeenth digit, whose grid is narrower than the interval
  have found : ((List.range 17).findSome? search).isSome = true := by
    rw [List.findSome?_isSome_iff]
    refine ⟨16, List.mem_range.2 (by decide), ?_⟩
    rw [← Option.ne_none_iff_isSome]
    intro none
    have narrow := sub_le_of_nearestOnGrid? (bounds pos) none
    exact absurd (pow_lt_width double pos low) (not_lt_of_ge narrow)
  obtain ⟨digits, found⟩ := Option.isSome_iff_exists.1 found
  have shortest : d.shortest tie = digits := by
    show ((List.range 17).findSome? search).getD ⟨0, 0⟩ = digits
    rw [found, Option.getD_some]
  obtain ⟨n, -, at_n⟩ := List.exists_of_findSome?_eq_some found
  have onGrid := onGrid_of_nearestOnGrid? (bounds pos) at_n
  rw [value_scale2_size, value_scale2_upperEnd] at onGrid
  rw [shortest]
  exact ⟨k, n, low, high, onGrid⟩

/-- If a threshold has the same binary magnitude as the doubles with one exponent, and no double
with that exponent would be rounded up to it, then none at all would. -/
lemma Double.upperEnd_lt (double : d.Double) {t : ℚ} {q : Int} (least : -1074 ≤ q)
    (above : t ≤ 2 ^ 52 * 2 ^ (q + 1)) (below : 2 ^ 54 * 2 ^ (q - 2) ≤ t)
    (apart : ∀ m : Nat, (m : ℚ) * 2 ^ q < t → (2 * m + 1 : ℚ) * 2 ^ (q - 1) < t)
    (lt : d.size < t) : d.upperEnd < t := by
  -- below that exponent nothing reaches the threshold, and above it all has passed it
  rcases lt_trichotomy d.q q with less | rfl | greater
  · have digits : (2 * d.m + 1 : ℚ) < 2 ^ 54 := by
      have := double.lt
      have : 2 * d.m + 1 < 2 ^ 54 := by omega
      exact_mod_cast this
    have power : (2 : ℚ) ^ (d.q - 1) ≤ 2 ^ (q - 2) := zpow_le_zpow_right₀ (by norm_num) (by omega)
    calc d.upperEnd = (2 * d.m + 1) * 2 ^ (d.q - 1) := rfl
      _ < 2 ^ 54 * 2 ^ (d.q - 1) := mul_lt_mul_of_pos_right digits (two_zpow_pos _)
      _ ≤ 2 ^ 54 * 2 ^ (q - 2) := mul_le_mul_of_nonneg_left power (by norm_num)
      _ ≤ t := below
  · exact apart d.m lt
  · have digits : (2 ^ 52 : ℚ) ≤ d.m := by
      have := double.normal.resolve_right (by omega)
      exact_mod_cast this
    have power : (2 : ℚ) ^ (q + 1) ≤ 2 ^ d.q := zpow_le_zpow_right₀ (by norm_num) (by omega)
    have : t ≤ d.size :=
      calc t ≤ 2 ^ 52 * 2 ^ (q + 1) := above
        _ ≤ 2 ^ 52 * 2 ^ d.q := mul_le_mul_of_nonneg_left power (by norm_num)
        _ ≤ d.m * 2 ^ d.q := mul_le_mul_of_nonneg_right digits (two_zpow_pos _).le
    exact absurd lt (not_lt_of_ge this)

/-- No double below `10 ^ 16` would be rounded up to it. -/
lemma upperEnd_lt_upper (double : d.Double) (lt : d.size < 10 ^ (16 : ℤ)) :
    d.upperEnd < 10 ^ (16 : ℤ) := by
  apply double.upperEnd_lt (q := 1) (by norm_num) (by norm_num) (by norm_num) _ lt
  intro m below
  norm_num at below ⊢
  norm_cast at below ⊢
  omega

/-- No double below `10 ^ -5` would be rounded up to it. -/
lemma upperEnd_lt_lower (double : d.Double) (lt : d.size < 10 ^ (-5 : ℤ)) :
    d.upperEnd < 10 ^ (-5 : ℤ) := by
  apply double.upperEnd_lt (q := -69) (by norm_num) (by norm_num) (by norm_num) _ lt
  intro m below
  norm_num at below ⊢
  field_simp at below ⊢
  norm_cast at below ⊢
  omega

end Dyadic

namespace Digits

/-- The number of decimal places of a decimal before its point. -/
def places (d : Digits) : Int :=
  d.exponent + (toString d.digits).length

/-- A number is written with as many characters as it has decimal digits. -/
lemma length_toString (n : Nat) : (toString n).length = (Nat.toDigits 10 n).length := by
  rw [Nat.toString_eq_repr, ← String.length_toList, Nat.toList_repr]

/-- Trailing zeros are taken off without a change of the places. -/
lemma places_trim (fuel : Nat) {d : Digits} (ne : d.digits ≠ 0) :
    (trim fuel d).places = d.places ∧ (trim fuel d).digits ≠ 0 := by
  induction fuel generalizing d with
  | zero => exact ⟨rfl, ne⟩
  | succ fuel ih =>
    rw [trim]
    split
    case isTrue zero =>
      rw [Bool.and_eq_true, bne_iff_ne, beq_iff_eq] at zero
      have shorter : d.digits / 10 ≠ 0 := by omega
      obtain ⟨places, filled⟩ := ih (d := ⟨d.digits / 10, d.exponent + 1⟩) shorter
      refine ⟨?_, filled⟩
      have digits : Nat.toDigits 10 d.digits =
          Nat.toDigits 10 (d.digits / 10) ++ [(d.digits % 10).digitChar] := by
        rw [Nat.toDigits_eq_if (by decide), if_neg (by omega)]
      rw [places, Digits.places, Digits.places, length_toString, length_toString, digits,
        List.length_append, List.length_singleton]
      push_cast
      ring
    case isFalse => exact ⟨rfl, ne⟩

/-- A decimal on a grid has as many places as the number that it is next to, or one more where it
was rounded up to a power of ten. -/
lemma places_of_onGrid {v high : ℚ} {k : Int} {n : Nat} {d : Digits} (low : (10 : ℚ) ^ (k - 1) ≤ v)
    (lt : v < 10 ^ k) (onGrid : OnGrid v high (k - (n + 1 : Nat)) d) :
    d.digits ≠ 0 ∧ (d.places = k ∨ d.places = k + 1 ∧ (10 : ℚ) ^ k ≤ high) := by
  obtain ⟨below, le_v, v_lt, near⟩ := onGrid.near
  have power := pow_ten_pos (k - (n + 1 : Nat))
  have scale (l : Nat) (i : Int) (eq : i = l + (k - (n + 1 : Nat))) :
      (10 : ℚ) ^ i = (10 ^ l : Nat) * 10 ^ (k - (n + 1 : Nat)) := by
    rw [eq, zpow_add₀ (by norm_num), zpow_natCast, Nat.cast_pow]
    rfl
  have lower : 10 ^ n ≤ below := by
    rw [scale n (k - 1) (by omega), ← le_div_iff₀ power] at low
    exact Nat.le_of_lt_succ (Nat.cast_lt.1 (low.trans_lt v_lt))
  have upper : below < 10 ^ (n + 1) := by
    rw [scale (n + 1) k (by omega), ← div_lt_iff₀ power] at lt
    exact Nat.cast_lt.1 (le_v.trans_lt lt)
  have places (l : Nat) (low : 10 ^ l ≤ d.digits) (high : d.digits < 10 ^ (l + 1)) :
      d.places = k - (n + 1 : Nat) + (l + 1 : Nat) := by
    rw [Digits.places, onGrid.exponent, length_toString,
      Ratio.length_toDigits_eq (Nat.succ_pos l) low high]
  have positive : 0 < 10 ^ n := Nat.pow_pos (by decide)
  refine ⟨by omega, ?_⟩
  -- rounding up keeps the number of digits, unless it gives a power of ten
  rcases Nat.lt_or_ge d.digits (10 ^ (n + 1)) with less | rounded
  · left
    rw [places n (by omega) less]
    omega
  · right
    have whole : d.digits = 10 ^ (n + 1) := by omega
    refine ⟨?_, ?_⟩
    · rw [places (n + 1) rounded (whole ▸ Nat.pow_lt_pow_right (by decide) (Nat.lt_add_one _))]
      omega
    · rw [scale (n + 1) k (by omega), ← whole]
      exact onGrid.le_high

end Digits

/-- The shortest decimal of a double that is not zero is written positionally in JSON exactly if the
double lies between `10 ^ -5` and `10 ^ 16`. -/
lemma Dyadic.places_shortestDigits_iff {d : Dyadic} (tie : Tie) (double : d.Double)
    (pos : 0 < d.m) :
    (d.shortestDigits tie).digits ≠ 0 ∧
    (-5 ≤ (d.shortestDigits tie).places - 1 ∧ (d.shortestDigits tie).places - 1 < 16 ↔
      (10 : ℚ) ^ (-5 : ℤ) ≤ d.size ∧ d.size < 10 ^ (16 : ℤ)) := by
  obtain ⟨k, n, low, lt, onGrid⟩ := onGrid_shortest tie double pos
  obtain ⟨filled, places⟩ := Digits.places_of_onGrid low lt onGrid
  obtain ⟨trimmed, filled⟩ := Digits.places_trim 17 filled
  have nonzero : ¬(d.m == 0) = true := by
    rw [beq_iff_eq]
    exact pos.ne'
  rw [shortestDigits, if_neg nonzero, trimmed]
  refine ⟨filled, ?_⟩
  have ten : (1 : ℚ) < 10 := by norm_num
  have reaches (i : ℤ) : (10 : ℚ) ^ i ≤ d.size ↔ i < k := by
    constructor
    · intro le
      exact (zpow_lt_zpow_iff_right₀ ten).1 (le.trans_lt lt)
    · intro less
      exact (zpow_le_zpow_right₀ ten.le (by omega)).trans low
  -- a place more could only matter at the two ends, and there nothing is rounded up
  have rounded : (d.shortest tie).places = k + 1 → k ≠ -5 ∧ k ≠ 16 := by
    intro more
    obtain same | ⟨-, reached⟩ := places
    · omega
    · constructor
      · rintro rfl
        exact absurd reached (not_le_of_gt (upperEnd_lt_lower double lt))
      · rintro rfl
        exact absurd reached (not_le_of_gt (upperEnd_lt_upper double lt))
  rw [← not_le (a := (10 : ℚ) ^ (16 : ℤ)), reaches, reaches]
  omega

end EmailTemplate.Decimal
