import EmailTemplate.Json.Error

/-!
# The words of JSON

Reading blanks, names, numbers and strings at the start of a text. Every reader gives what it read
and what follows, or a failure; a failure is placed either before the offending character or, where
that character has been consumed, one byte further on.
-/

namespace EmailTemplate.Json
open EmailTemplate.Text

/-- A reader: what is read at the start of a text and what follows it. -/
abbrev Reader (α : Type) := List Char → Except Failure (α × List Char)

/-- Fails where `rest` begins. -/
def failAt {α : Type} (f : Fault) (rest : List Char) : Except Failure α :=
  .error ⟨.fault f, byteLength rest⟩

/-- Fails `n` bytes after where `rest` begins, or at the end if that comes first. -/
def failBeyond {α : Type} (n : Nat) (f : Fault) (rest : List Char) : Except Failure α :=
  .error ⟨.fault f, byteLength rest - n⟩

/-- Fails one byte after where `rest` begins, or at the end if nothing is left. -/
def failPast {α : Type} (f : Fault) (rest : List Char) : Except Failure α :=
  failBeyond 1 f rest

/-- The blanks of JSON. -/
def isSpace (c : Char) : Bool :=
  c == ' ' || c == '\n' || c == '\t' || c == '\r'

/-- A text without the blanks that it starts with. -/
def skipSpace (cs : List Char) : List Char :=
  cs.dropWhile isSpace

/-- Reads the rest of a word that is known by its first letter. -/
def readWord : List Char → List Char → Except Failure (List Char)
  | [], cs => .ok cs
  | _ :: _, [] => failAt .eofInValue []
  | w :: word, c :: cs => if c == w then readWord word cs else failPast .expectedWord (c :: cs)

/-- The value of a decimal digit. -/
def digit (c : Char) : Nat :=
  c.toNat - 48

/-- Whether a text starts with a decimal digit. -/
def startsWithDigit : List Char → Bool
  | [] => false
  | c :: _ => c.isDigit

/-- Reads digits onto a number as long as it stays within the limit. -/
def takeDigits (limit : Nat) : Nat → List Char → Nat × List Char
  | n, [] => (n, [])
  | n, c :: cs =>
    if c.isDigit && 10 * n + digit c ≤ limit then takeDigits limit (10 * n + digit c) cs
    else (n, c :: cs)

/-- The greatest integer of 64 bits without a sign. -/
def maxUnsigned : Nat :=
  Nat.pow 2 64 - 1

/-- The greatest exponent that is read digit by digit. -/
def maxExponent : Nat :=
  Nat.pow 2 31 - 1

/-- The double `f · 10 ^ e`, scaled in steps that have an exact power of ten; `none` when it is too
large. -/
def scale10 (f : Float) (e : Int) : Option Float :=
  if 0 ≤ e then
    if e ≤ 308 then
      let scaled := f * Float.ofScientific 1 false e.toNat
      if scaled.isInf then none else some scaled
    else if f == 0.0 then some f
    else none
  else if -308 ≤ e then some (f / Float.ofScientific 1 false (-e).toNat)
  else if f == 0.0 then some f
  else scale10 (f / Float.ofScientific 1 false 308) (e + 308)
termination_by (-e).toNat

/-- The double with a sign, a significand and a decimal exponent, as the number before `rest`. -/
def scaled (negative : Bool) (significand : Nat) (e : Int) : Reader Number := fun rest =>
  match scale10 (Float.ofNat significand) e with
  | none => failAt .numberOutOfRange rest
  | some f => .ok (.float (if negative then -f else f), rest)

/-- Reads an exponent, after its letter, to the number with the given significand. -/
def readExponent (negative : Bool) (significand : Nat) (e : Int) : Reader Number := fun cs =>
  let negativeExponent := cs.head? == some '-'
  let cs := if cs.head? == some '+' || negativeExponent then cs.drop 1 else cs
  match cs with
  | [] => failAt .eofInValue []
  | c :: cs =>
    if c.isDigit then
      let (n, rest) := takeDigits maxExponent (digit c) cs
      if startsWithDigit rest then
        if significand != 0 && !negativeExponent then failPast .numberOutOfRange rest
        else .ok (.float (if negative then -0.0 else 0.0), rest.dropWhile Char.isDigit)
      else scaled negative significand (if negativeExponent then e - n else e + n) rest
    else failPast .invalidNumber (c :: cs)

/-- Reads an exponent, if one follows, to the number with the given significand. -/
def readScale (negative : Bool) (significand : Nat) (e : Int) : Reader Number
  | 'e' :: cs | 'E' :: cs => readExponent negative significand e cs
  | cs => scaled negative significand e cs

/-- Reads a fraction, after its point, to the number with the given significand. Digits that the
significand cannot take are dropped. -/
def readFraction (negative : Bool) (significand : Nat) (e : Int) : Reader Number := fun cs =>
  let (n, rest) := takeDigits maxUnsigned significand cs
  let e := e - (cs.length - rest.length : Nat)
  if startsWithDigit rest then readScale negative n e (rest.dropWhile Char.isDigit)
  else if rest.length == cs.length then
    if rest.isEmpty then failAt .eofInValue [] else failPast .invalidNumber rest
  else readScale negative n e rest

/-- The number that an integer literal denotes: an integer where it fits, else a double. A negative
zero is a double. -/
def ofLiteral (negative : Bool) (n : Nat) : Number :=
  if !negative then .int n
  else if n == 0 || Nat.pow 2 63 < n then .float (-Float.ofNat n)
  else .int (-n)

/-- Reads what follows the integer part of a number. -/
def readAfterInteger (negative : Bool) (n : Nat) : Reader Number
  | '.' :: cs => readFraction negative n 0 cs
  | 'e' :: cs | 'E' :: cs => readExponent negative n 0 cs
  | cs => .ok (ofLiteral negative n, cs)

/-- Reads a number, after its sign. An integer part beyond 64 bits keeps as many leading digits as
fit; the others count as zeros. -/
def readNumber (negative : Bool) : Reader Number
  | [] => failAt .eofInValue []
  | c :: cs =>
    if c == '0' then
      if startsWithDigit cs then failPast .invalidNumber cs else readAfterInteger negative 0 cs
    else if c.isDigit then
      let (n, rest) := takeDigits maxUnsigned (digit c) cs
      if startsWithDigit rest then
        let dropped := (rest.takeWhile Char.isDigit).length
        match rest.dropWhile Char.isDigit with
        | '.' :: rest => readFraction negative n dropped rest
        | rest => readScale negative n dropped rest
      else readAfterInteger negative n rest
    else failPast .invalidNumber (c :: cs)

/-- The value of a hexadecimal digit of either case. -/
def hexDigit? (c : Char) : Option Nat :=
  if c.isDigit then some (c.toNat - 48)
  else if 'a' ≤ c && c ≤ 'f' then some (c.toNat - 87)
  else if 'A' ≤ c && c ≤ 'F' then some (c.toNat - 55)
  else none

/-- The number of the four hexadecimal digits that a text starts with, and what follows them. -/
def hex4? : List Char → Option (Nat × List Char)
  | a :: b :: c :: d :: rest => do
    let a ← hexDigit? a
    let b ← hexDigit? b
    let c ← hexDigit? c
    let d ← hexDigit? d
    some (16 * (16 * (16 * a + b) + c) + d, rest)
  | _ => none

/-- Reads the four hexadecimal digits of an escape. -/
def readHex4 : Reader Nat := fun cs =>
  match hex4? cs with
  | some found => .ok found
  | none =>
    if byteLength cs < 4 then failAt .eofInString [] else failBeyond 4 .invalidEscape cs

/-- Whether a code unit is the first of a pair. -/
def isHighUnit (n : Nat) : Bool :=
  0xD800 ≤ n && n ≤ 0xDBFF

/-- Whether a code unit is the second of a pair. -/
def isLowUnit (n : Nat) : Bool :=
  0xDC00 ≤ n && n ≤ 0xDFFF

/-- Reads the second half of a pair of code units, escape and all. -/
def readLowUnit (high : Nat) : Reader Char
  | [] => failAt .eofInString []
  | '\\' :: [] => failAt .eofInString []
  | '\\' :: 'u' :: cs => do
    let (low, rest) ← readHex4 cs
    if isLowUnit low then
      .ok (Char.ofNat (0x10000 + 0x400 * (high - 0xD800) + (low - 0xDC00)), rest)
    else failAt .loneSurrogate rest
  | '\\' :: cs => failPast .unfinishedSurrogate cs
  | cs => failPast .unfinishedSurrogate cs

/-- The character that a one-letter escape stands for. -/
def simpleEscape? (c : Char) : Option Char :=
  if c == '"' || c == '\\' || c == '/' then some c
  else if c == 'b' then some '\x08'
  else if c == 'f' then some '\x0c'
  else if c == 'n' then some '\n'
  else if c == 'r' then some '\r'
  else if c == 't' then some '\t'
  else none

/-- Reads an escape, after its backslash. -/
def readEscape : Reader Char
  | [] => failAt .eofInString []
  | 'u' :: cs => do
    let (unit, rest) ← readHex4 cs
    if isLowUnit unit then failAt .loneSurrogate rest
    else if isHighUnit unit then readLowUnit unit rest
    else .ok (Char.ofNat unit, rest)
  | c :: cs =>
    match simpleEscape? c with
    | some denoted => .ok (denoted, cs)
    | none => failPast .invalidEscape (c :: cs)

/-- Four digits take characters. -/
theorem length_of_hex4? {cs rest : List Char} {n : Nat} (h : hex4? cs = some (n, rest)) :
    rest.length < cs.length := by
  unfold hex4? at h
  split at h
  · simp only [Option.bind_eq_bind, Option.bind_eq_some_iff, Option.some.injEq, Prod.mk.injEq] at h
    obtain ⟨_, _, _, _, _, _, _, _, _, rfl⟩ := h
    simp only [List.length_cons]
    omega
  · simp at h

/-- What follows the digits of an escape is shorter than the text. -/
theorem length_of_readHex4 {cs rest : List Char} {n : Nat} (h : readHex4 cs = .ok (n, rest)) :
    rest.length < cs.length := by
  unfold readHex4 at h
  split at h
  · rename_i found hf
    obtain rfl : found = (n, rest) := by simpa using h
    exact length_of_hex4? hf
  · split at h <;> simp [failAt, failBeyond] at h

/-- What follows the second half of a pair is shorter than the text. -/
theorem length_of_readLowUnit {high : Nat} {cs rest : List Char} {c : Char}
    (h : readLowUnit high cs = .ok (c, rest)) : rest.length < cs.length := by
  unfold readLowUnit at h
  split at h
  · simp [failAt] at h
  · simp [failAt] at h
  · rename_i cs
    simp only [bind, Except.bind] at h
    split at h
    · simp at h
    · rename_i found hf
      have := length_of_readHex4 (show readHex4 _ = .ok (found.1, found.2) from hf)
      split at h
      · obtain ⟨-, rfl⟩ : _ ∧ found.2 = rest := by simpa using h
        simp only [List.length_cons]
        omega
      · simp [failAt] at h
  · simp [failPast, failBeyond] at h
  · simp [failPast, failBeyond] at h

/-- What follows an escape is shorter than the text it was read from. -/
theorem length_of_readEscape {cs rest : List Char} {c : Char}
    (h : readEscape cs = .ok (c, rest)) : rest.length < cs.length := by
  unfold readEscape at h
  split at h
  · simp [failAt] at h
  · simp only [bind, Except.bind] at h
    split at h
    · simp at h
    · rename_i found hf
      have := length_of_readHex4 (show readHex4 _ = .ok (found.1, found.2) from hf)
      split at h
      · simp [failAt] at h
      · split at h
        · have := length_of_readLowUnit h
          simp only [List.length_cons]
          omega
        · obtain ⟨-, rfl⟩ : _ ∧ found.2 = rest := by simpa using h
          simp only [List.length_cons]
          omega
  · split at h
    · obtain ⟨-, rfl⟩ : _ ∧ _ = rest := by simpa using h
      simp
    · simp [failPast, failBeyond] at h

/-- Reads a string, after its opening quote, onto the characters read before, which are given in
reverse. -/
def readStringOnto (read : List Char) (cs : List Char) : Except Failure (String × List Char) :=
  match cs with
  | [] => failAt .eofInString []
  | c :: cs =>
    if c == '"' then .ok (String.ofList read.reverse, cs)
    else if c == '\\' then
      match _h : readEscape cs with
      | .ok (denoted, rest) => readStringOnto (denoted :: read) rest
      | .error e => .error e
    else if c.toNat < 0x20 then failPast .controlCharacter (c :: cs)
    else readStringOnto (c :: read) cs
termination_by cs.length
decreasing_by
  · have := length_of_readEscape _h
    simp only [List.length_cons]
    omega
  · simp

/-- Reads a string, after its opening quote. -/
def readString : Reader String :=
  readStringOnto []

end EmailTemplate.Json
