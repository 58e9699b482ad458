import EmailTemplate.Json.Record

/-!
# The fields of documents and elements

The names under which a template file keeps the properties of a document and of an element. An
element is one flat record, whatever its kind. Some fields have a second name.
-/

namespace EmailTemplate

/-- The fields of a document. -/
inductive DocumentField where
  | canvasItems
  | layoutRows
  deriving DecidableEq, Repr

/-- How a document is kept in a template file: either list has two names. -/
def Document.schema : Json.Schema DocumentField where
  title := "struct Document"
  fields := [.canvasItems, .layoutRows]
  name
    | .canvasItems => "canvasItems"
    | .layoutRows => "layoutRows"
  field?
    | "canvasItems" | "elements" => some .canvasItems
    | "layoutRows" | "rows" => some .layoutRows
    | _ => none

/-- The fields of an element, those of every kind among them. -/
inductive ElementField where
  | kind
  | id
  | content
  | alignment
  | backgroundColor
  | padding
  | paddingTop
  | paddingRight
  | paddingBottom
  | paddingLeft
  | fontSize
  | color
  | fontFamily
  | fontStyles
  | buttonColor
  | buttonShape
  | buttonUrl
  | imageWidth
  | imageHeight
  | objectFit
  | borderRadius
  | alt
  | linkUrl
  | dividerStyle
  | socialUrl
  | socialColor
  | socialSize
  deriving DecidableEq, Repr

namespace ElementField

/-- The fields of an element in the order of declaration. -/
def all : List ElementField :=
  [kind, id, content, alignment, backgroundColor, padding, paddingTop, paddingRight, paddingBottom,
    paddingLeft, fontSize, color, fontFamily, fontStyles, buttonColor, buttonShape, buttonUrl,
    imageWidth, imageHeight, objectFit, borderRadius, alt, linkUrl, dividerStyle, socialUrl,
    socialColor, socialSize]

/-- The first name of a field. -/
def name : ElementField → String
  | kind => "kind"
  | id => "id"
  | content => "content"
  | alignment => "alignment"
  | backgroundColor => "backgroundColor"
  | padding => "padding"
  | paddingTop => "paddingTop"
  | paddingRight => "paddingRight"
  | paddingBottom => "paddingBottom"
  | paddingLeft => "paddingLeft"
  | fontSize => "fontSize"
  | color => "color"
  | fontFamily => "fontFamily"
  | fontStyles => "fontStyles"
  | buttonColor => "buttonColor"
  | buttonShape => "buttonShape"
  | buttonUrl => "buttonUrl"
  | imageWidth => "imageWidth"
  | imageHeight => "imageHeight"
  | objectFit => "objectFit"
  | borderRadius => "borderRadius"
  | alt => "alt"
  | linkUrl => "linkUrl"
  | dividerStyle => "dividerStyle"
  | socialUrl => "socialUrl"
  | socialColor => "socialColor"
  | socialSize => "socialSize"

/-- The field that a key denotes: one of the first names, or `type` for the kind. -/
def ofKey? (key : String) : Option ElementField :=
  if key == "type" then some kind else all.find? (·.name == key)

end ElementField

/-- How an element is kept in a template file. -/
def Element.schema : Json.Schema ElementField where
  title := "struct RawElement"
  fields := ElementField.all
  name := ElementField.name
  field? := ElementField.ofKey?

end EmailTemplate
