import EmailTemplate.Html.Escape
import EmailTemplate.Notice

/-!
# Writing markup

Markup is written as a list of steps: open a tag, give it an attribute, write a text. A `Writer`
holds what has been written and whether the last start tag still waits for its closing bracket;
`Writer.run` takes it through a list of steps. Texts and attribute values are escaped, so that the
only markup in the output is that of the tag steps and of `Step.verbatim`.

Mail clients drop style sheets, so every visual property travels inline, as the declarations of a
`style` attribute. Emails are written in larger units than steps: elements around other steps, and
the tables that mail clients need for every layout.
-/

namespace EmailTemplate.Html

/-! ### Inline style -/

/-- One CSS declaration. -/
structure Declaration where
  property : String
  value : String
  deriving DecidableEq, Repr

/-- The declarations of one element, in the order in which they were added. -/
abbrev Style := List Declaration

/-- A declaration, as its property and its value. -/
def css (property value : String) : Declaration :=
  ⟨property, value⟩

/-- A declaration of a length in pixels. -/
def pixels (property : String) (n : Int) : Declaration :=
  ⟨property, toString n ++ "px"⟩

/-- One declaration as CSS, with its semicolon. -/
def Declaration.css (d : Declaration) : String :=
  d.property ++ ":" ++ d.value ++ ";"

/-- The declarations as CSS, one after another. -/
def Style.css (style : Style) : String :=
  String.join (style.map Declaration.css)

/-! ### Steps and the writer -/

/-- One step in writing markup. -/
inductive Step where
  /-- Open a start tag and leave it open for attributes. -/
  | startTag (name : String)
  /-- Give the open tag an attribute. -/
  | attr (key value : String)
  /-- Give the open tag its inline style, unless there are no declarations. -/
  | style (style : Style)
  /-- Close the open tag, if there is one. -/
  | finishTag
  /-- Close the open tag as an empty element. -/
  | finishSelfClosing
  /-- Write an end tag. -/
  | endTag (name : String)
  /-- Write text, escaped. -/
  | text (content : String)
  /-- Write markup as it is. -/
  | verbatim (markup : String)
  deriving DecidableEq, Repr

namespace Step

/-- An attribute with a number for its value. -/
def attrInt (key : String) (n : Int) : Step :=
  attr key (toString n)

/-- A line break between blocks. -/
def newline : Step :=
  verbatim "\n"

/-- The attribute that a step asks for: its name and its value. -/
def attr? : Step → Option (String × String)
  | attr key value => some (key, value)
  | style decls => if decls.isEmpty then none else some ("style", Style.css decls)
  | _ => none

end Step

/-- Markup in the making. -/
structure Writer where
  /-- What has been written; the closing bracket of an open tag is not part of it yet. -/
  written : String
  /-- Whether the last start tag still takes attributes. -/
  tagOpen : Bool
  deriving DecidableEq, Repr

namespace Writer

/-- The writer that has written nothing yet. -/
def empty : Writer :=
  ⟨"", false⟩

/-- The markup in which an open tag, if there is one, is closed. -/
def markup (w : Writer) : String :=
  if w.tagOpen then w.written ++ ">" else w.written

/-- The writer after a piece of markup outside tags. -/
def put (w : Writer) (piece : String) : Writer :=
  ⟨w.markup ++ piece, false⟩

/-- The writer after an attribute; without an open tag nothing is written. -/
def putAttr (w : Writer) (key value : String) : Writer :=
  if w.tagOpen then { w with written := w.written ++ " " ++ key ++ "=\"" ++ escape value ++ "\"" }
  else w

/-- The writer after a step. A step that needs an open tag and finds none changes nothing. -/
def step (w : Writer) : Step → Writer
  | .startTag name => ⟨w.markup ++ "<" ++ name, true⟩
  | .attr key value => w.putAttr key value
  | .style decls => if decls.isEmpty then w else w.putAttr "style" (Style.css decls)
  | .finishTag => ⟨w.markup, false⟩
  | .finishSelfClosing => if w.tagOpen then ⟨w.written ++ " />", false⟩ else w
  | .endTag name => w.put ("</" ++ name ++ ">")
  | .text content => w.put (escape content)
  | .verbatim piece => w.put piece

/-- The writer after a list of steps. -/
def run (w : Writer) (steps : List Step) : Writer :=
  steps.foldl step w

/-- What is reported when a step finds no open tag that it needs. -/
def notice? (w : Writer) (s : Step) : Option Notice :=
  if w.tagOpen then none
  else
    match s with
    | .finishSelfClosing => some .straySelfClosing
    | s => s.attr?.map fun (key, _) => .strayAttribute key

/-- What is reported on the way through a list of steps. -/
def notices : Writer → List Step → List Notice
  | _, [] => []
  | w, s :: steps => (w.notice? s).toList ++ notices (w.step s) steps

/-- A list of steps taken after another goes on from where that ended. -/
theorem run_append (w : Writer) (a b : List Step) : w.run (a ++ b) = (w.run a).run b := by
  simp [run]

end Writer

/-- The markup that a list of steps writes. -/
def write (steps : List Step) : String :=
  (Writer.empty.run steps).markup

/-! ### Blocks of steps -/

open Step

/-- The steps of an element `name` with the given attributes around other steps. -/
def around (name : String) (attrs : List Step) (inner : List Step) : List Step :=
  startTag name :: attrs ++ [finishTag] ++ inner ++ [endTag name]

/-- The start of a table that only lays out its cells; its tag is left open. -/
def presentationTable (width : String) : List Step :=
  [startTag "table", attr "role" "presentation", attr "width" width,
    attr "cellpadding" "0", attr "cellspacing" "0", attr "border" "0"]

/-- A full-width table with one row around the steps of its cells. -/
def layoutTable (cells : List Step) : List Step :=
  presentationTable "100%" ++ [style [css "border-collapse" "collapse"], finishTag] ++
    around "tr" [] cells ++ [endTag "table"]

end EmailTemplate.Html
