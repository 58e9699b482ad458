import EmailTemplate.Document.Basic
import EmailTemplate.Document.Field
import EmailTemplate.Json.Printer
import EmailTemplate.Notice

/-!
# Loading documents

Template files are loosely typed, so loading is lenient: a property of the wrong shape counts as
missing, and an item that is no element or no row is skipped. Only what is not JSON, or not a
record at all, is an error. Each function that reads has one beside it that gives the notices of
the same reading.
-/

namespace EmailTemplate
open Text

namespace Json

/-- The text of a string, number or boolean. -/
def scalarText? : Json → Option String
  | str s => some s
  | num n => some n.text
  | bool b => some (if b then "true" else "false")
  | _ => none

/-- The text of a scalar that has more than blanks in it. -/
def nonBlank? (value : Json) : Option String :=
  value.scalarText?.filter (!isBlankText ·)

/-- The least integer of 64 bits. -/
def minInteger : Int :=
  -Int.pow 2 63

/-- The greatest integer of 64 bits. -/
def maxInteger : Int :=
  Int.pow 2 63 - 1

/-- The integer of 64 bits nearest to an integer. -/
def clamp (n : Int) : Int :=
  max minInteger (min maxInteger n)

/-- The integer that a text begins with, after blanks and a sign; whatever follows its digits is
ignored. An integer whose digits are beyond the positive range is none. -/
def integerPrefix? (s : String) : Option Int :=
  let cs := trimStart s.toList
  let negative := cs.head? == some '-'
  let digits :=
    (if negative || cs.head? == some '+' then cs.drop 1 else cs).takeWhile Char.isDigit
  let size : Int := (digits.foldl (fun n c => 10 * n + (c.toNat - 48)) 0 : Nat)
  if digits.isEmpty || maxInteger < size then none
  else some (if negative then -size else size)

/-- The integer that a number or a string stands for; a fraction is cut off. -/
def integer? : Json → Option Int
  | num (.int n) => some (clamp n)
  | num (.float x) => (Decimal.Dyadic.ofFloat? x).map (clamp ·.truncate)
  | str s => integerPrefix? s
  | _ => none

/-- The choice that a scalar names, if its name is known. -/
def choice? {α : Type} (ofName? : String → Option α) (value : Json) : Option α :=
  value.nonBlank?.bind ofName?

/-- What is reported about a name: that it is not known. -/
def choiceNotices {α : Type} (ofName? : String → Option α) (value : Json) : List Notice :=
  match value.nonBlank? with
  | none => []
  | some name => if (ofName? name).isSome then [] else [.unrecognizedOption name]

/-- A font size; one that is a bare number is in pixels. -/
def fontSize? (value : Json) : Option String :=
  value.nonBlank?.map fun size =>
    let size := trimmed size
    if size.toList.all fun c => c.isDigit || c == '.' then size ++ "px" else size

/-- The names of font styles that a value lists: the strings of a list, the pieces of a string
between commas and spaces, or the keys of an object that are true. -/
def styleNames : Json → List String
  | arr items => items.filterMap fun | str name => some name | _ => none
  | str names => (cutNonEmpty (fun c => c == ',' || c == ' ') names.toList).map String.ofList
  | obj members => members.filterMap fun | (name, bool true) => some name | _ => none
  | _ => []

/-- The decorations that a value lists; names that are not known are passed over. -/
def fontStyles (value : Json) : FontStyles :=
  value.styleNames.foldl FontStyles.insert .plain

/-- What is reported about a list of font styles: the names that are not known. -/
def fontStyleNotices (value : Json) : List Notice :=
  (value.styleNames.filter fun name => (FontStyles.plain.insert? name).isNone).map
    .unknownFontStyle

end Json

/-- The name of a kind as it is compared: without hyphens, underscores and spaces, ASCII letters in
lower case. -/
def normalizedKind (name : String) : String :=
  asciiLower (String.ofList (name.toList.filter fun c => !(c == '-' || c == '_' || c == ' ')))

/-- The kinds of element that a template names. -/
inductive KindName where
  | text
  | button
  | image
  | divider
  | socialIcon
  | rawMarkup
  deriving DecidableEq, Repr

/-- The kind of a name, which may be spelled in several ways. -/
def KindName.ofName? (name : String) : Option KindName :=
  match normalizedKind name with
  | "text" | "paragraph" => some .text
  | "button" | "cta" => some .button
  | "image" | "img" => some .image
  | "divider" | "separator" => some .divider
  | "socialicon" | "social" => some .socialIcon
  | "rawmarkup" | "html" | "rawhtml" | "markup" => some .rawMarkup
  | _ => none

namespace Element

/-- The name of the kind in an element's record; a missing one is empty. -/
def kindNameOf (field : ElementField → Json) : String :=
  (field .kind).scalarText?.getD ""

/-- The kind in an element's record; an element of no known kind is a text. -/
def kindOf (field : ElementField → Json) : ElementKind :=
  let content := (field .content).scalarText?.getD ""
  match (KindName.ofName? (kindNameOf field)).getD .text with
  | .text =>
    .text
      { content
        fontSize := (field .fontSize).fontSize?
        color := (field .color).nonBlank?
        fontFamily := (field .fontFamily).nonBlank?
        fontStyles := (field .fontStyles).fontStyles }
  | .button =>
    .button
      { content
        buttonColor := (field .buttonColor).nonBlank?
        buttonShape := (field .buttonShape).choice? ButtonShape.ofName?
        buttonUrl := (field .buttonUrl).nonBlank?
        fontSize := (field .fontSize).fontSize?
        color := (field .color).nonBlank?
        fontFamily := (field .fontFamily).nonBlank? }
  | .image =>
    .image
      { src := content
        width := (field .imageWidth).integer?
        height := (field .imageHeight).integer?
        objectFit := (field .objectFit).choice? ObjectFit.ofName?
        borderRadius := (field .borderRadius).integer?
        alt := (field .alt).nonBlank?
        linkUrl := (field .linkUrl).nonBlank? }
  | .divider =>
    .divider
      { style := ((field .dividerStyle).choice? DividerStyle.ofName?).getD .single
        color := (field .color).nonBlank? }
  | .socialIcon =>
    .socialIcon
      { url := (field .socialUrl).nonBlank?
        color := (field .socialColor).nonBlank?
        size := (field .socialSize).integer? }
  | .rawMarkup => .rawMarkup content

/-- The frame in an element's record. A side without a padding of its own has the common one. -/
def frameOf (field : ElementField → Json) : Frame :=
  let padding := (field .padding).integer?
  { alignment := ((field .alignment).choice? Alignment.ofName?).getD .left
    backgroundColor := (field .backgroundColor).nonBlank?
    padding :=
      { top := (field .paddingTop).integer?.or padding
        right := (field .paddingRight).integer?.or padding
        bottom := (field .paddingBottom).integer?.or padding
        left := (field .paddingLeft).integer?.or padding } }

/-- An element from the values of its fields; a field that is missing is null. -/
def ofFields (field : ElementField → Json) : Element :=
  { id := (field .id).scalarText?.filter (!·.isEmpty)
    frame := frameOf field
    kind := kindOf field }

/-- The notices of reading an element's record: those of its kind first, then those of its frame. -/
def fieldNotices (field : ElementField → Json) : List Notice :=
  let ofKind :=
    match KindName.ofName? (kindNameOf field) with
    | none => .unknownKind (kindNameOf field) :: (field .fontStyles).fontStyleNotices
    | some .text => (field .fontStyles).fontStyleNotices
    | some .button => (field .buttonShape).choiceNotices ButtonShape.ofName?
    | some .image => (field .objectFit).choiceNotices ObjectFit.ofName?
    | some .divider => (field .dividerStyle).choiceNotices DividerStyle.ofName?
    | some .socialIcon | some .rawMarkup => []
  ofKind ++ (field .alignment).choiceNotices Alignment.ofName?

/-- The element that a record gives, unless reading the record failed. -/
def ofRecord {ε : Type} (r : Json.Record ElementField ε) : Except ε Element :=
  match r.error with
  | some e => .error e
  | none => .ok (ofFields r.get)

/-- The notices of reading an element from a record. They are given as soon as the record is
complete, even if something is wrong with what follows it. -/
def recordNotices {ε : Type} (r : Json.Record ElementField ε) : List Notice :=
  if r.complete then fieldNotices r.get else []

/-- The element that a value holds. -/
def ofJson? (value : Json) : Except Json.Error Element :=
  ofRecord ((schema.ofValue value).mapError .ofMismatch)

/-- The element that a text holds. -/
def ofText? (text : String) : Except Json.Error Element :=
  ofRecord (schema.ofText text)

/-- The elements among the items of a list. -/
def listOf (items : List Json) : List Element :=
  items.filterMap fun item => (ofJson? item).toOption

/-- The notices of reading the items of a list as elements. -/
def listNotices (items : List Json) : List Notice :=
  items.flatMap fun item =>
    match ofJson? item with
    | .ok _ => recordNotices (schema.ofValue item)
    | .error e => [.malformedElement e.message]

end Element

namespace Row

/-- The members of a row that are its columns: those of its member `columns`, if that is an object,
or else all but that and the identifier. -/
def columnMembers (members : List (String × Json)) : List (String × Json) :=
  match members.lookup "columns" with
  | some (.obj columns) => columns
  | _ => members.filter fun (key, _) => !(key == "id" || key == "columns")

/-- The row of an object: its identifier, and those of its column members that are lists. -/
def ofMembers (members : List (String × Json)) : Row :=
  ofColumns ((members.lookup "id").bind Json.scalarText?) <|
    (columnMembers members).filterMap fun
      | (key, .arr items) => some (⟨key⟩, Element.listOf items)
      | _ => none

/-- The notices of reading the members of a row, column by column. -/
def memberNotices (members : List (String × Json)) : List Notice :=
  (columnMembers members).flatMap fun
    | (_, .arr items) => Element.listNotices items
    | (key, _) => [.nonListColumn (ofMembers members).id key]

/-- What messages call a row. -/
def title : String :=
  "a map"

/-- The members of the row that a value is. -/
def membersOf? : Json → Except Json.Error (List (String × Json))
  | .obj members => .ok members
  | value => .error (.ofMismatch (.wrongType value.shape title))

/-- The members of the row that a text holds. -/
def membersOfText? (text : String) : Except Json.Error (List (String × Json)) :=
  Json.membersOfText? title text

/-- The notices of reading a row from a text. They are given as soon as the row is complete, even if
something is wrong with what follows it. -/
def textNotices (text : String) : List Notice :=
  match Json.readObjectMembers title text.toList with
  | .ok (members, _) => memberNotices members
  | .error _ => []

/-- The rows among the items of a list. -/
def listOf (items : List Json) : List Row :=
  items.filterMap fun
    | .obj members => some (ofMembers members)
    | _ => none

/-- The notices of reading the items of a list as rows. -/
def listNotices (items : List Json) : List Notice :=
  items.flatMap fun
    | .obj members => memberNotices members
    | item => [.malformedRow item.text]

end Row

namespace Document

/-- The items of a list; anything else counts as an empty list. -/
def itemsOf : Json → List Json
  | .arr items => items
  | _ => []

/-- A document from the values of its fields. -/
def ofFields (field : DocumentField → Json) : Document :=
  { canvasItems := Element.listOf (itemsOf (field .canvasItems))
    layoutRows := Row.listOf (itemsOf (field .layoutRows)) }

/-- The notices of reading one field of a document. -/
def fieldNotices : DocumentField × Json → List Notice
  | (_, .null) => []
  | (.canvasItems, .arr items) => Element.listNotices items
  | (.layoutRows, .arr items) => Row.listNotices items
  | (.canvasItems, value) => [.unexpectedElementList value.text]
  | (.layoutRows, value) => [.unexpectedRowList value.text]

/-- The document that a record gives, unless reading the record failed. -/
def ofRecord {ε : Type} (r : Json.Record DocumentField ε) : Except ε Document :=
  match r.error with
  | some e => .error e
  | none => .ok (ofFields r.get)

/-- The notices of reading a document from a record, as far as its fields were read. -/
def recordNotices {ε : Type} (r : Json.Record DocumentField ε) : List Notice :=
  r.entries.flatMap fieldNotices

/-- The document that a value holds. -/
def ofJson? (value : Json) : Except Json.Error Document :=
  ofRecord ((schema.ofValue value).mapError .ofMismatch)

/-- The document that a text holds. -/
def ofText? (text : String) : Except Json.Error Document :=
  ofRecord (schema.ofText text)

end Document

end EmailTemplate
