import EmailTemplate.Json.Lexical

/-!
# Reading JSON values

`readValue` reads a value at the start of a text; a budget bounds how deep lists and objects may
nest. `skipValue` passes over a value without keeping it, and is less strict: it knows no bound on
nesting or on numbers, and takes any four hexadecimal digits for an escape. `Json.ofText?` reads a
text that holds one value and nothing else.
-/

namespace EmailTemplate.Json
open EmailTemplate.Text

/-- Reads up to the next item of a list; `none` when the list ends instead, with its closing
bracket left to be read. -/
def readToItem (first : Bool) (cs : List Char) : Except Failure (Option (List Char)) :=
  match skipSpace cs with
  | [] => failAt .eofInList []
  | ']' :: _ => .ok none
  | c :: rest =>
    if first then .ok (some (c :: rest))
    else if c == ',' then
      match skipSpace rest with
      | [] => failAt .eofInValue []
      | ']' :: rest => failPast .trailingComma (']' :: rest)
      | rest => .ok (some rest)
    else failPast .expectedCommaOrBracket (c :: rest)

/-- Reads the items of a list, after what opened it or the item before, up to and with the closing
bracket. Every item takes at least one character, so `fuel` need be no more than the length of the
text and what opened the list. -/
def readItems (readItem : Reader Json) : Nat → (read : List Json) → Reader (List Json)
  | 0, _, cs => failAt .eofInList cs
  | fuel + 1, read, cs => do
    match ← readToItem read.isEmpty cs with
    | none => .ok (read.reverse, (skipSpace cs).drop 1)
    | some rest =>
      let (item, rest) ← readItem rest
      readItems readItem fuel (item :: read) rest

/-- Reads up to the colon after a key. -/
def readColon (cs : List Char) : Except Failure (List Char) :=
  match skipSpace cs with
  | [] => failAt .eofInObject []
  | ':' :: rest => .ok rest
  | rest => failPast .expectedColon rest

/-- Reads up to the next key of an object, after its opening quote; `none` when the object ends
instead, with its closing brace left to be read. -/
def readToKey (first : Bool) (cs : List Char) : Except Failure (Option (List Char)) :=
  match skipSpace cs with
  | [] => failAt .eofInObject []
  | '\x7d' :: _ => .ok none
  | c :: rest =>
    if first then
      if c == '"' then .ok (some rest) else failPast .keyNotString (c :: rest)
    else if c == ',' then
      match skipSpace rest with
      | [] => failAt .eofInValue []
      | '"' :: rest => .ok (some rest)
      | '\x7d' :: rest => failPast .trailingComma ('\x7d' :: rest)
      | rest => failPast .keyNotString rest
    else failPast .expectedCommaOrBrace (c :: rest)

/-- Reads the members of an object, after what opened it or the member before, up to and with the
closing brace. Every member takes at least one character, so `fuel` need be no more than the length
of the text and what opened the object. -/
def readMembers (readItem : Reader Json) :
    Nat → (read : List (String × Json)) → Reader (List (String × Json))
  | 0, _, cs => failAt .eofInObject cs
  | fuel + 1, read, cs => do
    match ← readToKey read.isEmpty cs with
    | none => .ok (read.reverse, (skipSpace cs).drop 1)
    | some rest =>
      let (key, rest) ← readString rest
      let rest ← readColon rest
      let (value, rest) ← readItem rest
      readMembers readItem fuel ((key, value) :: read) rest

/-- Reads a value. `depth` is one more than the number of lists and objects that may be open at
once within it, and `fuel` is no less than the length of the text. -/
def readValue (fuel : Nat) : (depth : Nat) → Reader Json
  | 0, cs => failAt .tooDeep cs
  | depth + 1, cs =>
    match skipSpace cs with
    | [] => failAt .eofInValue []
    | 'n' :: rest => (readWord "ull".toList rest).map (null, ·)
    | 't' :: rest => (readWord "rue".toList rest).map (bool true, ·)
    | 'f' :: rest => (readWord "alse".toList rest).map (bool false, ·)
    | '-' :: rest => (readNumber true rest).map fun (n, rest) => (num n, rest)
    | '"' :: rest => (readString rest).map fun (s, rest) => (str s, rest)
    | '[' :: rest =>
      if depth == 0 then failPast .tooDeep ('[' :: rest)
      else
        (readItems (readValue fuel depth) fuel [] rest).map fun (items, rest) =>
          (arr items, rest)
    | '\x7b' :: rest =>
      if depth == 0 then failPast .tooDeep ('\x7b' :: rest)
      else
        (readMembers (readValue fuel depth) fuel [] rest).map fun (members, rest) =>
          (ofMembers members, rest)
    | c :: rest =>
      if c.isDigit then (readNumber false (c :: rest)).map fun (n, rest) => (num n, rest)
      else failPast .expectedValue (c :: rest)

/-- The budget of nesting at the start of a text. -/
def maxDepth : Nat :=
  128

/-- Skips an escape, after its backslash. -/
def skipEscape : List Char → Except Failure (List Char)
  | [] => failAt .eofInString []
  | 'u' :: cs => (readHex4 cs).map (·.2)
  | c :: cs =>
    if (simpleEscape? c).isSome then .ok cs else failPast .invalidEscape (c :: cs)

/-- What follows a skipped escape is shorter than the text it stood in. -/
theorem length_of_skipEscape {cs rest : List Char} (h : skipEscape cs = .ok rest) :
    rest.length < cs.length := by
  unfold skipEscape at h
  split at h
  · simp [failAt] at h
  · rename_i cs
    cases hr : readHex4 cs with
    | error e => simp [hr, Except.map] at h
    | ok found =>
      have hlt := length_of_readHex4 (show readHex4 cs = .ok (found.1, found.2) from hr)
      obtain rfl : found.2 = rest := by simpa [hr, Except.map] using h
      simp only [List.length_cons]
      omega
  · split at h
    · obtain rfl : _ = rest := by simpa using h
      simp
    · simp [failPast, failBeyond] at h

/-- Skips the rest of a string, after its opening quote. -/
def skipString (cs : List Char) : Except Failure (List Char) :=
  match cs with
  | [] => failAt .eofInString []
  | c :: cs =>
    if c == '"' then .ok cs
    else if c == '\\' then
      match _h : skipEscape cs with
      | .ok rest => skipString rest
      | .error e => .error e
    else if c.toNat < 0x20 then failAt .controlCharacter (c :: cs)
    else skipString cs
termination_by cs.length
decreasing_by
  · have := length_of_skipEscape _h
    simp only [List.length_cons]
    omega
  · simp

/-- Skips an exponent, after its letter. -/
def skipExponent (cs : List Char) : Except Failure (List Char) :=
  let cs := if cs.head? == some '+' || cs.head? == some '-' then cs.drop 1 else cs
  if startsWithDigit cs then .ok (cs.dropWhile Char.isDigit) else failPast .invalidNumber cs

/-- Skips what follows the digits of a number: an exponent, if there is one. -/
def skipScale : List Char → Except Failure (List Char)
  | 'e' :: cs | 'E' :: cs => skipExponent cs
  | cs => .ok cs

/-- Skips a number, after its sign. -/
def skipNumber (cs : List Char) : Except Failure (List Char) :=
  let rest := cs.dropWhile Char.isDigit
  if !startsWithDigit cs then failPast .invalidNumber cs
  else if cs.head? == some '0' && startsWithDigit (cs.drop 1) then
    failPast .invalidNumber (cs.drop 1)
  else
    match rest with
    | '.' :: fraction =>
      if startsWithDigit fraction then skipScale (fraction.dropWhile Char.isDigit)
      else failPast .invalidNumber fraction
    | rest => skipScale rest

/-- Skips the items of a list, after its opening bracket or a comma. -/
def skipItems (skipItem : List Char → Except Failure (List Char)) :
    Nat → (first : Bool) → List Char → Except Failure (List Char)
  | 0, _, cs => failAt .eofInList cs
  | fuel + 1, first, cs =>
    match skipSpace cs, first with
    | [], true => failAt .eofInList []
    | ']' :: rest, true => .ok rest
    | rest, _ => do
      let rest ← skipItem rest
      match skipSpace rest with
      | [] => failAt .eofInList []
      | ']' :: rest => .ok rest
      | ',' :: rest => skipItems skipItem fuel false rest
      | rest => failPast .expectedCommaOrBracket rest

/-- Skips the members of an object, after its opening brace or a comma. -/
def skipMembers (skipItem : List Char → Except Failure (List Char)) :
    Nat → (first : Bool) → List Char → Except Failure (List Char)
  | 0, _, cs => failAt .eofInObject cs
  | fuel + 1, first, cs =>
    match skipSpace cs, first with
    | [], _ => failAt .eofInObject []
    | '\x7d' :: rest, true => .ok rest
    | '"' :: rest, _ => do
      let rest ← skipString rest
      let rest ← readColon rest
      let rest ← skipItem rest
      match skipSpace rest with
      | [] => failAt .eofInObject []
      | '\x7d' :: rest => .ok rest
      | ',' :: rest => skipMembers skipItem fuel false rest
      | rest => failPast .expectedCommaOrBrace rest
    | rest, _ => failPast .keyNotString rest

/-- Skips a value. `depth` is more than the length of the text, and therefore both more than the
number of lists and objects that are open at once and more than that of the items of each. -/
def skipNested : (depth : Nat) → List Char → Except Failure (List Char)
  | 0, cs => failAt .eofInValue cs
  | depth + 1, cs =>
    match skipSpace cs with
    | [] => failAt .eofInValue []
    | 'n' :: rest => readWord "ull".toList rest
    | 't' :: rest => readWord "rue".toList rest
    | 'f' :: rest => readWord "alse".toList rest
    | '-' :: rest => skipNumber rest
    | '"' :: rest => skipString rest
    | '[' :: rest => skipItems (skipNested depth) (depth + 1) true rest
    | '\x7b' :: rest => skipMembers (skipNested depth) (depth + 1) true rest
    | c :: rest =>
      if c.isDigit then skipNumber (c :: rest) else failPast .expectedValue (c :: rest)

/-- Skips a value at the start of a text. -/
def skipValue (cs : List Char) : Except Failure (List Char) :=
  skipNested (cs.length + 1) cs

/-- Fails unless nothing but blanks is left. -/
def expectEnd (cs : List Char) : Except Failure Unit :=
  match skipSpace cs with
  | [] => .ok ()
  | rest => failPast .trailingCharacters rest

/-- The value that a text holds; nothing but blanks may stand around it. -/
def ofText? (text : String) : Except Error Json :=
  let cs := text.toList
  let value : Except Failure Json := do
    let (value, rest) ← readValue cs.length maxDepth cs
    expectEnd rest
    return value
  value.mapError (·.toError cs)

end EmailTemplate.Json
