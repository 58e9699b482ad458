import EmailTemplate.Decimal.Shortest

/-!
# The text of a double

The shortest decimal of a double as text. Where it is written positionally and where with an
exponent, and which way a tie goes, are decisions of the format that it is written in, given as a
`FloatStyle`.
-/

namespace EmailTemplate.Decimal

/-- How a format writes doubles. -/
structure FloatStyle where
  /-- Whether a number whose first digit stands for a multiple of `10 ^ s` is written
  positionally. -/
  positional : Int → Bool
  /-- Which of two shortest decimals that are equally near is written. -/
  tie : Tie

/-- A run of zeros, to fill a number up to its point. -/
def zeros (n : Nat) : String :=
  String.ofList (List.replicate n '0')

/-- Decimal digits with the point after the first `k` of them, and at least one digit on either
side of it. -/
def positionalText (digits : String) (k : Int) : String :=
  let n : Int := digits.length
  if k ≤ 0 then "0." ++ zeros (-k).toNat ++ digits
  else if n ≤ k then digits ++ zeros (k - n).toNat ++ ".0"
  else
    String.ofList (digits.toList.take k.toNat) ++ "." ++
      String.ofList (digits.toList.drop k.toNat)

/-- Decimal digits with the point after the first, where more follow, and the exponent `s`. -/
def exponentText (digits : String) (s : Int) : String :=
  let fraction := String.ofList (digits.toList.drop 1)
  String.ofList (digits.toList.take 1) ++ (if fraction.isEmpty then "" else "." ++ fraction) ++
    "e" ++ (if s < 0 then "-" else "+") ++ toString s.natAbs

/-- A double as text: the shortest decimal that reads back as it, in the style of a format. -/
def floatText (style : FloatStyle) (x : Float) : String :=
  match Dyadic.ofFloat? x with
  | none => if x.isNaN then "NaN" else if x < 0 then "-inf" else "inf"
  | some d =>
    let shortest := d.shortestDigits style.tie
    let digits := toString shortest.digits
    let k : Int := shortest.exponent + digits.length
    (if d.negative then "-" else "") ++
      if shortest.digits == 0 then "0.0"
      else if style.positional (k - 1) then positionalText digits k
      else exponentText digits (k - 1)

end EmailTemplate.Decimal
