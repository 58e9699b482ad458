import EmailTemplate.Text.Quoted

/-!
# Notices

What the library reports beside its results: markup that was cut, values that were ignored. A
notice is plain data; each stage gives the notices of its input as a list, in the order in which
the input is read.
-/

namespace EmailTemplate

/-- How much a notice matters. -/
inductive Level where
  | trace
  | debug
  | warn
  deriving DecidableEq, Repr

/-- The name of a level. -/
def Level.name : Level → String
  | .trace => "trace"
  | .debug => "debug"
  | .warn => "warn"

/-- Something worth reporting that is not an error. Fields that hold a piece of the input in its
written form are named `shown`. -/
inductive Notice where
  /-- A start tag was still open at the end of the markup; what precedes it takes `offset` bytes. -/
  | unterminatedTag (offset : Nat)
  /-- The sanitizer shortened the markup by `bytes`. -/
  | markupRemoved (bytes : Nat)
  /-- An attribute was written while no start tag was open. -/
  | strayAttribute (key : String)
  /-- A start tag was to be closed as empty while none was open. -/
  | straySelfClosing
  /-- The kind of an element is not known. -/
  | unknownKind (kind : String)
  /-- The name of an option is not known. -/
  | unrecognizedOption (name : String)
  /-- The name of a font style is not known. -/
  | unknownFontStyle (name : String)
  /-- A column of a row is not a list. -/
  | nonListColumn (row : Option String) (key : String)
  /-- A list of elements is neither a list nor null. -/
  | unexpectedElementList (shown : String)
  /-- A list of rows is neither a list nor null. -/
  | unexpectedRowList (shown : String)
  /-- An item of a list of rows is not an object. -/
  | malformedRow (shown : String)
  /-- An item of a list of elements is no element, for the reason given. -/
  | malformedElement (reason : String)
  /-- An image has no source. -/
  | imageWithoutSource
  /-- A row has no columns. -/
  | rowWithoutColumns (id : Option String)
  /-- A document was compiled. -/
  | compiled (rows elements bytes : Nat)
  deriving DecidableEq, Repr

namespace Notice

/-- How much a notice matters: misuse of the writer most, the note that a document was compiled
least. -/
def level : Notice → Level
  | strayAttribute _ | straySelfClosing => .warn
  | compiled .. => .trace
  | _ => .debug

/-- The wording of a notice. -/
def message : Notice → String
  | unterminatedTag offset => "dropping unterminated start tag at byte " ++ toString offset
  | markupRemoved bytes => "sanitizer removed " ++ toString bytes ++ " bytes of raw markup"
  | strayAttribute key => "attribute `" ++ key ++ "` written with no open tag, dropping it"
  | straySelfClosing => "self-closing finish requested with no open tag"
  | unknownKind kind => "unknown element kind " ++ Text.quote kind ++ ", rendering it as text"
  | unrecognizedOption name =>
    "unrecognized option " ++ Text.quote name ++ ", using the default"
  | unknownFontStyle name => "ignoring unknown font style " ++ Text.quote name
  | nonListColumn row key =>
    "row " ++ Text.quoteOption row ++ ": ignoring non-list column " ++ Text.quote key
  | unexpectedElementList shown => "ignoring element list of unexpected shape: " ++ shown
  | unexpectedRowList shown => "ignoring row list of unexpected shape: " ++ shown
  | malformedRow shown => "skipping malformed row: " ++ shown
  | malformedElement reason => "skipping malformed element: " ++ reason
  | imageWithoutSource => "image element has no source"
  | rowWithoutColumns id => "skipping row " ++ Text.quoteOption id ++ " without columns"
  | compiled rows elements bytes =>
    "compiled " ++ toString rows ++ " rows and " ++ toString elements ++
      " standalone elements into " ++ toString bytes ++ " bytes"

end Notice

end EmailTemplate
