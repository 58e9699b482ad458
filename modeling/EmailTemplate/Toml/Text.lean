import EmailTemplate.Toml.Scalar

/-!
# Texts of TOML

Strings in their four forms: with escapes or literal, on one line or on more. In a text on several
lines a line break counts as one line feed, and one directly after the opening quotes is dropped.
-/

namespace EmailTemplate.Toml

/-- A character that may stand for itself: a tab, or anything but control characters. -/
def isPlain (c : Char) : Bool :=
  c == '\t' || (0x20 ≤ c.toNat && c.toNat != 0x7F)

/-- The blanks of TOML within a line. -/
def isSpace (c : Char) : Bool :=
  c == ' ' || c == '\t'

/-- What follows the line break that a text starts with. -/
def afterNewline? : List Char → Option (List Char)
  | '\n' :: rest => some rest
  | '\r' :: '\n' :: rest => some rest
  | _ => none

/-- The text without blanks and line breaks at its start. -/
def skipLines : List Char → List Char
  | '\r' :: '\n' :: rest => skipLines rest
  | c :: rest => if isSpace c || c == '\n' then skipLines rest else c :: rest
  | [] => []

/-- The character of a code point given by its hexadecimal digits, unless it is a surrogate or out
of range. -/
def codePoint? (digits : List Char) : Option Char :=
  if digits.all isHexDigit then
    let n := ofDigits 16 digits
    if n.isValidChar then some (Char.ofNat n) else none
  else none

/-- The character that a one-letter escape stands for. -/
def simpleEscape? : Char → Option Char
  | 'b' => some '\x08'
  | 't' => some '\t'
  | 'n' => some '\n'
  | 'f' => some '\x0c'
  | 'r' => some '\r'
  | '"' => some '"'
  | '\\' => some '\\'
  | _ => none

/-- Reads the number of an escape, which has `n` digits. -/
def readCodePoint (n : Nat) (cs : List Char) : Option (Char × List Char) :=
  if n ≤ cs.length then (codePoint? (cs.take n)).map fun c => (c, cs.drop n) else none

/-- Reads an escape, after its backslash. -/
def readEscape : List Char → Option (Char × List Char)
  | [] => none
  | 'u' :: cs => readCodePoint 4 cs
  | 'U' :: cs => readCodePoint 8 cs
  | c :: cs => (simpleEscape? c).map fun c => (c, cs)

/-- Reads the rest of a text with escapes on one line, after its opening quote. Every step takes at
least one character, so `fuel` is the length of the text. -/
def readBasic : Nat → List Char → Option (List Char × List Char)
  | 0, _ | _, [] => none
  | fuel + 1, c :: cs =>
    if c == '"' then some ([], cs)
    else do
      let (denoted, rest) ←
        if c == '\\' then readEscape cs else if isPlain c then some (c, cs) else none
      let (text, rest) ← readBasic fuel rest
      return (denoted :: text, rest)

/-- Reads the rest of a literal text on one line, after its opening quote. -/
def readLiteral : List Char → Option (List Char × List Char)
  | [] => none
  | c :: cs =>
    if c == '\'' then some ([], cs)
    else if isPlain c then (readLiteral cs).map fun (text, rest) => (c :: text, rest)
    else none

/-- What a run of at least three quotes at the end of a text leaves: up to two of them belong to
the text. -/
def closeQuotes (quote : Char) : List Char → List Char × List Char
  | c :: d :: rest =>
    if c == quote then
      if d == quote then ([quote, quote], rest) else ([quote], d :: rest)
    else ([], c :: d :: rest)
  | [c] => if c == quote then ([quote], []) else ([], [c])
  | [] => ([], [])

/-- Reads the rest of a text on several lines, after its opening quotes. Every step takes at least
one character, so `fuel` is the length of the text. -/
def readLines (quote : Char) (escapes : Bool) : Nat → List Char → Option (List Char × List Char)
  | 0, _ | _, [] => none
  | fuel + 1, c :: cs =>
    if c == quote && cs.take 2 == [quote, quote] then some (closeQuotes quote (cs.drop 2))
    else if escapes && c == '\\' && (afterNewline? (cs.dropWhile isSpace)).isSome then
      readLines quote escapes fuel (skipLines cs)
    else do
      let (denoted, rest) ←
        match afterNewline? (c :: cs) with
        | some rest => some ('\n', rest)
        | none =>
          if escapes && c == '\\' then readEscape cs
          else if isPlain c then some (c, cs)
          else none
      let (text, rest) ← readLines quote escapes fuel rest
      return (denoted :: text, rest)

/-- Reads a text with the given kind of quotes, at its opening quote; `lines` tells whether three
quotes open one on several lines. -/
def readText (lines : Bool) : List Char → Option (List Char × List Char)
  | [] => none
  | quote :: cs =>
    let escapes := quote == '"'
    if lines && cs.take 2 == [quote, quote] then
      let body := cs.drop 2
      let body := (afterNewline? body).getD body
      readLines quote escapes (body.length + 1) body
    else if escapes then readBasic (cs.length + 1) cs
    else readLiteral cs

end EmailTemplate.Toml
