import EmailTemplate.Mismatch
import EmailTemplate.Text.Blank
import EmailTemplate.Toml.Value

/-!
# TOML errors

Why a value of a TOML document is not what was expected in its place, and the report of it, which
shows the line and marks the value.
-/

namespace EmailTemplate.Toml
open EmailTemplate.Text

/-- Why a value does not fit in its place. -/
inductive Cause where
  | mismatch (m : Mismatch)
  /-- A keyword must be a string, or the only key of a table. -/
  | notKeyword
  /-- The table that should hold a keyword is empty. -/
  | noKeyword
  /-- The table that should hold a keyword holds more. -/
  | manyKeywords
  /-- What stands under a keyword must be an empty table. -/
  | tableNotEmpty
  /-- What stands under a keyword must be empty, and is a list of tables. -/
  | arrayNotEmpty
  /-- What stands under a keyword must be a table. -/
  | notTable (found : String)

/-- Doubles in TOML messages are written positionally, however large they are, and ties go up. -/
def floatStyle : Decimal.FloatStyle where
  positional _ := true
  tie := .up

/-- The wording of a cause. -/
def Cause.message : Cause → String
  | mismatch m => m.message floatStyle
  | notKeyword => "wanted string or table"
  | noKeyword => "wanted exactly 1 element, found 0 elements"
  | manyKeywords => "wanted exactly 1 element, more than 1 element"
  | tableNotEmpty => "expected empty table"
  | arrayNotEmpty => "expected empty array"
  | notTable found => "expected table, found " ++ found

/-- A value that does not fit, and where it stands. -/
structure Misfit where
  cause : Cause
  span : Option Span

/-- A run of spaces, to line up the marks below a value. -/
def spaces (n : Nat) : String :=
  String.ofList (List.replicate n ' ')

/-- The report of a misfit in a text: the line on which the value begins, with its number, and
marks below the value as far as it is on that line. The marks count bytes, the column counts
characters. -/
def Misfit.report (text : List Char) (m : Misfit) : String :=
  let shown :=
    match m.span with
    | none => ""
    | some span =>
      let before := text.take (text.length - span.start.length)
      let number := toString (before.count '\n' + 1)
      let lead := (before.reverse.takeWhile (· != '\n')).reverse
      let content := lead ++ span.start.takeWhile (· != '\n')
      let column := lead.length
      let marks := min (byteLength span.start - byteLength span.stop) (byteLength content - column)
      let gutter := spaces (number.length + 1) ++ "|"
      "TOML parse error at line " ++ number ++ ", column " ++ toString (column + 1) ++ "\n" ++
        gutter ++ "\n" ++
        number ++ " | " ++ String.ofList content ++ "\n" ++
        gutter ++ spaces (column + 1) ++ String.ofList (List.replicate (max 1 marks) '^') ++ "\n"
  shown ++ m.cause.message ++ "\n"

end EmailTemplate.Toml
