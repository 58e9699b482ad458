/-!
# Blank characters and words

Which characters count as blank (the Unicode property White_Space), and the operations that look
at nothing else: trimming a text, and cutting it into words. Texts are lists of characters here;
`Text.trimmed` is the same operation on strings.
-/

namespace EmailTemplate.Text

/-- A character with the Unicode property White_Space. -/
def isBlank (c : Char) : Bool :=
  let n := c.toNat
  (9 ≤ n && n ≤ 13) || n == 0x20 || n == 0x85 || n == 0xA0 || n == 0x1680 ||
    (0x2000 ≤ n && n ≤ 0x200A) || n == 0x2028 || n == 0x2029 || n == 0x202F || n == 0x205F ||
    n == 0x3000

/-- A control character: general category Cc. -/
def isControl (c : Char) : Bool :=
  c.toNat < 0x20 || (0x7F ≤ c.toNat && c.toNat ≤ 0x9F)

/-- A text without the blanks that it starts with. -/
def trimStart (cs : List Char) : List Char :=
  cs.dropWhile isBlank

/-- A text without the blanks that it ends with. -/
def trimEnd (cs : List Char) : List Char :=
  (cs.reverse.dropWhile isBlank).reverse

/-- A text without the blanks at either end. -/
def trim (cs : List Char) : List Char :=
  trimEnd (trimStart cs)

/-- The text without the characters of a class at either end. -/
def trimWhere (p : Char → Bool) (cs : List Char) : List Char :=
  ((cs.dropWhile p).reverse.dropWhile p).reverse

/-- A string without the blanks at either end. -/
def trimmed (s : String) : String :=
  String.ofList (trim s.toList)

/-- A string that holds nothing but blanks; the empty string is one. -/
def isBlankText (s : String) : Bool :=
  s.toList.all isBlank

/-- The pieces of a text between the characters of a class, empty pieces included. -/
def cut (p : Char → Bool) : List Char → List (List Char)
  | [] => [[]]
  | c :: cs =>
    match cut p cs with
    | [] => [[]]
    | piece :: pieces => if p c then [] :: piece :: pieces else (c :: piece) :: pieces

/-- The non-empty pieces of a text between the characters of a class. -/
def cutNonEmpty (p : Char → Bool) (cs : List Char) : List (List Char) :=
  (cut p cs).filter (!·.isEmpty)

/-- The words of a text: its longest runs without a blank. -/
def words (cs : List Char) : List (List Char) :=
  cutNonEmpty isBlank cs

/-- The texts joined with a separator between neighbours. -/
def join (separator : List Char) : List (List Char) → List Char
  | [] => []
  | [piece] => piece
  | piece :: pieces => piece ++ separator ++ join separator pieces

/-- The ASCII letters of a string in lower case, everything else as it is. -/
def asciiLower (s : String) : String :=
  String.ofList (s.toList.map Char.toLower)

/-- The number of bytes that a text takes in UTF-8. -/
def byteLength (cs : List Char) : Nat :=
  cs.foldl (fun n c => n + c.utf8Size) 0

/-- Every text has at least one piece. -/
theorem cut_ne_nil (p : Char → Bool) (cs : List Char) : cut p cs ≠ [] := by
  induction cs with
  | nil => simp [cut]
  | cons c cs ih =>
    cases h : cut p cs with
    | nil => exact absurd h ih
    | cons piece pieces =>
      by_cases hp : p c <;> simp [cut, h, hp]

end EmailTemplate.Text
