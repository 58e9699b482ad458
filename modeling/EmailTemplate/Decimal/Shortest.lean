/-!
# The shortest decimal of a double

A finite double is a dyadic number `m · 2 ^ q`, and the reals that round to it fill an interval
around it. The shortest decimal of a double has the fewest significant digits of all that lie in
the interval, and among those it is the nearest to the double; two may be equally near, and which
of them it is then depends on the format. It is found in exact arithmetic: on the grid of decimals
with a given number of digits only the two neighbours of the double can be nearest, so they are the
only ones tested.
-/

namespace EmailTemplate.Decimal

/-- A dyadic number, `m · 2 ^ q` or its negative. -/
structure Dyadic where
  negative : Bool
  m : Nat
  q : Int
  deriving DecidableEq, Repr

/-- The dyadic number that a double is; infinities and not-a-number are none. -/
def Dyadic.ofFloat? (x : Float) : Option Dyadic :=
  let bits := x.toBits.toNat
  let negative := bits / Nat.pow 2 63 == 1
  let exponent : Nat := bits / Nat.pow 2 52 % Nat.pow 2 11
  let fraction : Nat := bits % Nat.pow 2 52
  if exponent == 2047 then none
  else if exponent == 0 then some ⟨negative, fraction, -1074⟩
  else some ⟨negative, Nat.pow 2 52 + fraction, (exponent : Int) - 1075⟩

/-- A dyadic number without its fraction: the integer nearest to it on the side of zero. -/
def Dyadic.truncate (d : Dyadic) : Int :=
  let size := if d.q < 0 then d.m / Nat.pow 2 (-d.q).toNat else d.m * Nat.pow 2 d.q.toNat
  if d.negative then -size else size

/-- A ratio of natural numbers, `num / den`. -/
structure Ratio where
  num : Nat
  den : Nat

/-- The ratio `n · 2 ^ q`. -/
def Ratio.scale2 (n : Nat) (q : Int) : Ratio :=
  if q < 0 then ⟨n, Nat.pow 2 (-q).toNat⟩ else ⟨n * Nat.pow 2 q.toNat, 1⟩

/-- The ratio divided by `10 ^ e`. -/
def Ratio.shift10 (r : Ratio) (e : Int) : Ratio :=
  if e < 0 then ⟨r.num * Nat.pow 10 (-e).toNat, r.den⟩
  else ⟨r.num, r.den * Nat.pow 10 e.toNat⟩

/-- How far behind the point the first digit of a ratio is looked for. No double is so small that
its first 400 decimals are all zero. -/
def Ratio.reach : Nat :=
  400

/-- The number of decimal places of a positive ratio before its point: `k` with the ratio below
`10 ^ k` and not below `10 ^ (k - 1)`. -/
def Ratio.magnitude (r : Ratio) : Int :=
  ((Nat.toDigits 10 (r.num * Nat.pow 10 reach / r.den)).length : Int) - reach

/-- A decimal number, `digits · 10 ^ exponent`. -/
structure Digits where
  digits : Nat
  exponent : Int
  deriving DecidableEq, Repr

/-- Which of two decimals that are equally near to a number stands for it. -/
inductive Tie where
  /-- The one with an even last digit. -/
  | even
  /-- The greater one. -/
  | up
  deriving DecidableEq, Repr

/-- Whether a tie goes to the lower one of two neighbours. -/
def Tie.goesBelow (tie : Tie) (below : Nat) : Bool :=
  match tie with
  | even => below % 2 == 0
  | up => false

/-- The decimals with `n` digits next to a positive value `v` that lie between `low` and `high`,
the ends included if `closed`; the nearer one, of two equally near ones the one that `tie` says.
All three ratios have one denominator. -/
def nearestOnGrid? (tie : Tie) (low v high : Ratio) (closed : Bool) (k : Int) (n : Nat) :
    Option Digits :=
  let e := k - n
  let v := v.shift10 e
  let low := low.shift10 e
  let high := high.shift10 e
  let inside (a : Nat) : Bool :=
    let p := a * v.den
    if closed then low.num ≤ p && p ≤ high.num else low.num < p && p < high.num
  let below := v.num / v.den
  let above := below + 1
  let toBelow := v.num - below * v.den
  let toAbove := above * v.den - v.num
  match inside below, inside above with
  | false, false => none
  | true, false => some ⟨below, e⟩
  | false, true => some ⟨above, e⟩
  | true, true =>
    if toBelow < toAbove || (toBelow == toAbove && tie.goesBelow below) then some ⟨below, e⟩
    else some ⟨above, e⟩

/-- The shortest decimal of a positive dyadic number with the precision of a double. -/
def Dyadic.shortest (tie : Tie) (d : Dyadic) : Digits :=
  let v := Ratio.scale2 (4 * d.m) (d.q - 2)
  let low := Ratio.scale2 (4 * d.m - if d.m == Nat.pow 2 52 && d.q > -1074 then 1 else 2) (d.q - 2)
  let high := Ratio.scale2 (4 * d.m + 2) (d.q - 2)
  let k := v.magnitude
  ((List.range 17).findSome? fun n =>
    nearestOnGrid? tie low v high (d.m % 2 == 0) k (n + 1)).getD ⟨0, 0⟩

/-- A decimal without trailing zeros; `fuel` is no less than their number. -/
def Digits.trim : Nat → Digits → Digits
  | 0, d => d
  | fuel + 1, d =>
    if d.digits != 0 && d.digits % 10 == 0 then trim fuel ⟨d.digits / 10, d.exponent + 1⟩ else d

/-- The shortest decimal of a dyadic number, without trailing zeros; that of zero is zero. -/
def Dyadic.shortestDigits (tie : Tie) (d : Dyadic) : Digits :=
  if d.m == 0 then ⟨0, 0⟩ else Digits.trim 17 (d.shortest tie)

end EmailTemplate.Decimal
