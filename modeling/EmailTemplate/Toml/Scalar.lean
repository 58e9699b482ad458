import EmailTemplate.Toml.Value

/-!
# Plain scalars of TOML

Integers, doubles, booleans, dates and times. Each is a run of characters without blanks; a date
and a time may have one space between them. What such a run denotes is decided by the whole of it.
-/

namespace EmailTemplate.Toml

/-- Whether a character may stand in the run of a scalar. -/
def isScalarChar (c : Char) : Bool :=
  c.isAlphanum || c == '+' || c == '-' || c == '_' || c == '.' || c == ':'

/-- The digits of a non-empty run of digits, in which single underscores may stand between two. -/
def digits? (isDigit : Char → Bool) : List Char → Option (List Char)
  | [] => none
  | [c] => if isDigit c then some [c] else none
  | c :: '_' :: cs => if isDigit c then (digits? isDigit cs).map (c :: ·) else none
  | c :: d :: cs => if isDigit c then (digits? isDigit (d :: cs)).map (c :: ·) else none

/-- The value of a digit in bases up to sixteen. -/
def digitValue (c : Char) : Nat :=
  if c.isDigit then c.toNat - 48
  else if 'a' ≤ c && c ≤ 'f' then c.toNat - 87
  else c.toNat - 55

/-- The number that digits denote in a base. -/
def ofDigits (base : Nat) (digits : List Char) : Nat :=
  digits.foldl (fun n c => base * n + digitValue c) 0

/-- Whether a character is a hexadecimal digit of either case. -/
def isHexDigit (c : Char) : Bool :=
  c.isDigit || ('a' ≤ c && c ≤ 'f') || ('A' ≤ c && c ≤ 'F')

/-- The digits of a decimal number that has no leading zero. -/
def decimal? (cs : List Char) : Option (List Char) :=
  (digits? Char.isDigit cs).filter fun digits => digits.head? != some '0' || cs.length == 1

/-- Whether a number has a minus sign, and the number without its sign. -/
def sign : List Char → Bool × List Char
  | '-' :: cs => (true, cs)
  | '+' :: cs => (false, cs)
  | cs => (false, cs)

/-- The integer of 64 bits that a run denotes. -/
def integer? (cs : List Char) : Option Int :=
  let value : Option Int :=
    match cs with
    | '0' :: 'x' :: cs => (digits? isHexDigit cs).map fun ds => (ofDigits 16 ds : Int)
    | '0' :: 'o' :: cs =>
      (digits? (fun c => '0' ≤ c && c ≤ '7') cs).map fun ds => (ofDigits 8 ds : Int)
    | '0' :: 'b' :: cs =>
      (digits? (fun c => c == '0' || c == '1') cs).map fun ds => (ofDigits 2 ds : Int)
    | cs =>
      let (negative, cs) := sign cs
      (decimal? cs).map fun ds => if negative then -(ofDigits 10 ds : Int) else ofDigits 10 ds
  value.filter fun n => -Int.pow 2 63 ≤ n && n < Int.pow 2 63

/-- The double nearest to the number with the given digits, times `10 ^ e`. The exponent of its
first significant digit tells at once whether it is zero or infinite, however long the number. -/
def scaledFloat (digits : List Char) (e : Int) : Float :=
  let significant := digits.dropWhile (· == '0')
  let k := e + significant.length
  if significant.isEmpty || k < -400 then 0.0
  else if 400 < k then 1.0 / 0.0
  else Float.ofScientific (ofDigits 10 significant) (e < 0) e.natAbs

/-- The double that a run without sign denotes: a decimal number with a fraction, an exponent or
both. -/
def magnitude? (cs : List Char) : Option Float := do
  let isPoint (c : Char) : Bool := c == '.'
  let isMark (c : Char) : Bool := c == 'e' || c == 'E'
  let mantissa := cs.takeWhile (!isMark ·)
  let exponent := cs.dropWhile (!isMark ·)
  let whole ← decimal? (mantissa.takeWhile (!isPoint ·))
  let fraction ←
    match mantissa.dropWhile (!isPoint ·) with
    | [] => if exponent.isEmpty then none else some []
    | _ :: fraction => digits? Char.isDigit fraction
  let e ←
    match exponent with
    | [] => some (0 : Int)
    | _ :: exponent =>
      let (negative, exponent) := sign exponent
      (digits? Char.isDigit exponent).map fun ds =>
        if negative then -(ofDigits 10 ds : Int) else ofDigits 10 ds
  return scaledFloat (whole ++ fraction) (e - fraction.length)

/-- The double that a run denotes. A number too large for a double is none, but one too far below
zero is negative infinity. -/
def float? (cs : List Char) : Option Float :=
  let (negative, body) := sign cs
  let signed (x : Float) : Float := if negative then -x else x
  if body == "inf".toList then some (signed (1.0 / 0.0))
  else if body == "nan".toList then some (signed (0.0 / 0.0))
  else ((magnitude? body).map signed).filter fun x => !(x.isInf && !negative)

/-- Reads a number of exactly `n` digits. -/
def readDigits (n : Nat) (cs : List Char) : Option (Nat × List Char) :=
  let digits := cs.take n
  if digits.length == n && digits.all Char.isDigit then some (ofDigits 10 digits, cs.drop n)
  else none

/-- Reads a number of two digits within bounds. -/
def readTwo (low high : Nat) (cs : List Char) : Option (Nat × List Char) :=
  (readDigits 2 cs).filter fun (n, _) => low ≤ n && n ≤ high

/-- Reads one of some characters. -/
def readOneOf (chars : List Char) : List Char → Option (List Char)
  | [] => none
  | c :: cs => if chars.contains c then some cs else none

/-- The number of days in a month of a year. -/
def daysInMonth (year month : Nat) : Nat :=
  if month == 2 then
    if year % 4 == 0 && (year % 100 != 0 || year % 400 == 0) then 29 else 28
  else if month == 4 || month == 6 || month == 9 || month == 11 then 30
  else 31

/-- Reads a date, and gives what follows. -/
def readDate (cs : List Char) : Option (List Char) := do
  let (year, cs) ← readDigits 4 cs
  let cs ← readOneOf ['-'] cs
  let (month, cs) ← readTwo 1 12 cs
  let cs ← readOneOf ['-'] cs
  let (day, cs) ← readTwo 1 31 cs
  if day ≤ daysInMonth year month then some cs else none

/-- Reads a time of day, and gives what follows. -/
def readTime (cs : List Char) : Option (List Char) := do
  let (_, cs) ← readTwo 0 23 cs
  let cs ← readOneOf [':'] cs
  let (_, cs) ← readTwo 0 59 cs
  let cs ← readOneOf [':'] cs
  let (_, cs) ← readTwo 0 60 cs
  match cs with
  | '.' :: c :: fraction =>
    if c.isDigit then some (fraction.dropWhile Char.isDigit) else none
  | cs => some cs

/-- Whether a run is a difference from universal time, or empty. -/
def isOffset : List Char → Bool
  | [] | ['Z'] | ['z'] => true
  | cs =>
    let after : Option (List Char) := do
      let cs ← readOneOf ['+', '-'] cs
      let (_, cs) ← readTwo 0 23 cs
      let cs ← readOneOf [':'] cs
      return (← readTwo 0 59 cs).2
    after == some []

/-- Whether a run is a time of day, possibly with a difference from universal time. -/
def isTimeWithOffset (cs : List Char) : Bool :=
  ((readTime cs).map isOffset).getD false

/-- Whether a text is a date and nothing else. -/
def isDate (cs : List Char) : Bool :=
  readDate cs == some []

/-- Whether a run is a date, a time, or both with a `T` between them. -/
def isDatetime (cs : List Char) : Bool :=
  readTime cs == some [] ||
    match readDate cs with
    | some [] => true
    | some ('T' :: cs) | some ('t' :: cs) => isTimeWithOffset cs
    | _ => false

/-- Reads a scalar at the start of a text. -/
def readScalar (cs : List Char) : Option (Value × List Char) :=
  let run := cs.takeWhile isScalarChar
  let rest := cs.dropWhile isScalarChar
  let span : Span := ⟨cs, rest⟩
  if run == "true".toList then some (.boolean span true, rest)
  else if run == "false".toList then some (.boolean span false, rest)
  else
    match integer? run with
    | some n => some (.integer span n, rest)
    | none =>
      match float? run with
      | some x => some (.float span x, rest)
      | none =>
        if isDatetime run then
          match rest with
          | ' ' :: later =>
            if isDate run && isTimeWithOffset (later.takeWhile isScalarChar) then
              let rest := later.dropWhile isScalarChar
              some (.datetime ⟨cs, rest⟩, rest)
            else some (.datetime span, rest)
          | _ => some (.datetime span, rest)
        else none

end EmailTemplate.Toml
