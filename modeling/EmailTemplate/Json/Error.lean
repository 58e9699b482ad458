import EmailTemplate.Mismatch
import EmailTemplate.Json.Value
import EmailTemplate.Text.Blank

/-!
# JSON errors

Why a text is not JSON, or a JSON value is not what was expected, and where. While a text is being
read, a place in it is the number of bytes from there to the end; it is turned into a line and a
column when the whole text is at hand.
-/

namespace EmailTemplate.Json
open EmailTemplate.Text

/-- A fault in the syntax of a JSON text. -/
inductive Fault where
  | eofInList
  | eofInObject
  | eofInString
  | eofInValue
  | expectedColon
  | expectedCommaOrBracket
  | expectedCommaOrBrace
  | expectedWord
  | expectedValue
  | invalidEscape
  | invalidNumber
  | numberOutOfRange
  | controlCharacter
  | keyNotString
  | loneSurrogate
  | trailingComma
  | trailingCharacters
  | unfinishedSurrogate
  | tooDeep
  deriving DecidableEq, Repr

/-- The wording of a fault. -/
def Fault.message : Fault → String
  | eofInList => "EOF while parsing a list"
  | eofInObject => "EOF while parsing an object"
  | eofInString => "EOF while parsing a string"
  | eofInValue => "EOF while parsing a value"
  | expectedColon => "expected `:`"
  | expectedCommaOrBracket => "expected `,` or `]`"
  | expectedCommaOrBrace => "expected `,` or `\x7d`"
  | expectedWord => "expected ident"
  | expectedValue => "expected value"
  | invalidEscape => "invalid escape"
  | invalidNumber => "invalid number"
  | numberOutOfRange => "number out of range"
  | controlCharacter => "control character (\\u0000-\\u001F) found while parsing a string"
  | keyNotString => "key must be a string"
  | loneSurrogate => "lone leading surrogate in hex escape"
  | trailingComma => "trailing comma"
  | trailingCharacters => "trailing characters"
  | unfinishedSurrogate => "unexpected end of hex escape"
  | tooDeep => "recursion limit exceeded"

/-- The cause of an error: a fault in the syntax, or a value that does not fit. -/
inductive Cause where
  | fault (f : Fault)
  | mismatch (m : Mismatch)

/-- The wording of a cause. -/
def Cause.message : Cause → String
  | fault f => f.message
  | mismatch m => m.message floatStyle

/-- A failure while a text is read: the cause, and the number of bytes that were left. -/
structure Failure where
  cause : Cause
  left : Nat

/-- A line, counted from one, and a column, the number of bytes of the line before the place. -/
structure Position where
  line : Nat
  column : Nat
  deriving DecidableEq, Repr

/-- The position after the first `n` bytes of a text, given that of the text itself. -/
def Position.advance (n : Nat) (p : Position) : List Char → Position
  | [] => p
  | c :: cs =>
    if n < c.utf8Size then ⟨p.line, p.column + n⟩
    else
      advance (n - c.utf8Size)
        (if c == '\n' then ⟨p.line + 1, 0⟩ else ⟨p.line, p.column + c.utf8Size⟩) cs

/-- An error in JSON input; one in a value that was not read from a text has no position. -/
structure Error where
  cause : Cause
  position : Option Position

/-- The wording of an error, with its place if it has one. -/
def Error.message (e : Error) : String :=
  match e.position with
  | none => e.cause.message
  | some p =>
    e.cause.message ++ " at line " ++ toString p.line ++ " column " ++ toString p.column

/-- An error in a value that was not read from a text. -/
def Error.ofMismatch (m : Mismatch) : Error :=
  ⟨.mismatch m, none⟩

/-- The error that a failure in reading a text is. -/
def Failure.toError (text : List Char) (f : Failure) : Error :=
  ⟨f.cause, some (Position.advance (byteLength text - f.left) ⟨1, 0⟩ text)⟩

/-- What a value is, for messages. -/
def shape : Json → Shape
  | null => .null
  | bool b => .boolean b
  | num (.int n) => .integer n
  | num (.float x) => .floating x
  | str s => .string s
  | arr _ => .sequence
  | obj _ => .map

end EmailTemplate.Json
