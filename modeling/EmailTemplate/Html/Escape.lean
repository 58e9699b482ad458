/-!
# Escaped text

The characters that could end a text or a double-quoted attribute value, `&`, `<`, `>` and `"`, are
written as references; every other character stands for itself.
-/

namespace EmailTemplate.Html

/-- One character, written so that it is data both in a text and between double quotes. -/
def escapeChar : Char → List Char
  | '&' => "&amp;".toList
  | '<' => "&lt;".toList
  | '>' => "&gt;".toList
  | '"' => "&quot;".toList
  | c => [c]

/-- A text, written so that it is data both in a text and between double quotes. -/
def escapeChars (cs : List Char) : List Char :=
  cs.flatMap escapeChar

/-- The string form of `escapeChars`. -/
def escape (s : String) : String :=
  String.ofList (escapeChars s.toList)

end EmailTemplate.Html
