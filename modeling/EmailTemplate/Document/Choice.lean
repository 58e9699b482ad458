import EmailTemplate.Text.Blank

/-!
# Choices

The properties of an element that are one of a few named values. Names are read without regard to
case and surrounding blanks, and most values have more than one name; writing uses the first.
-/

namespace EmailTemplate
open Text

/-- A name as it is compared: without surrounding blanks, ASCII letters in lower case. -/
def normalizedName (name : String) : String :=
  asciiLower (trimmed name)

/-- Where an element stands in its cell. -/
inductive Alignment where
  | left
  | center
  | right
  deriving DecidableEq, Repr

/-- The alignment of a name. -/
def Alignment.ofName? (name : String) : Option Alignment :=
  match normalizedName name with
  | "left" | "start" => some .left
  | "center" | "centre" | "middle" => some .center
  | "right" | "end" => some .right
  | _ => none

/-- The keyword for an alignment, in markup and in CSS. -/
def Alignment.name : Alignment → String
  | .left => "left"
  | .center => "center"
  | .right => "right"

/-- The shape of the corners of a button. -/
inductive ButtonShape where
  | square
  | rounded
  | pill
  deriving DecidableEq, Repr

/-- The button shape of a name. -/
def ButtonShape.ofName? (name : String) : Option ButtonShape :=
  match normalizedName name with
  | "square" | "rectangle" | "sharp" => some .square
  | "rounded" | "round" => some .rounded
  | "pill" | "capsule" => some .pill
  | _ => none

/-- The first name of a button shape. -/
def ButtonShape.name : ButtonShape → String
  | .square => "square"
  | .rounded => "rounded"
  | .pill => "pill"

/-- The corner radius of a button shape, in pixels. -/
def ButtonShape.radius : ButtonShape → Int
  | .square => 0
  | .rounded => 8
  | .pill => 9999

/-- How an image fills its box: the values of CSS `object-fit` that are supported. -/
inductive ObjectFit where
  | cover
  | contain
  | fill
  | none
  deriving DecidableEq, Repr

/-- The CSS keyword for a fit. -/
def ObjectFit.name : ObjectFit → String
  | .cover => "cover"
  | .contain => "contain"
  | .fill => "fill"
  | .none => "none"

/-- The fits, in the order in which messages list their keywords. -/
def ObjectFit.all : List ObjectFit :=
  [.cover, .contain, .fill, .none]

/-- The fit with exactly the given keyword. -/
def ObjectFit.ofKeyword? (keyword : String) : Option ObjectFit :=
  all.find? (·.name == keyword)

/-- The fit of a name; case and blanks around it do not count. -/
def ObjectFit.ofName? (name : String) : Option ObjectFit :=
  ofKeyword? (normalizedName name)

/-- How a divider is drawn. -/
inductive DividerStyle where
  | single
  | dotted
  | doubleArrow
  deriving DecidableEq, Repr

/-- The divider style of a name. -/
def DividerStyle.ofName? (name : String) : Option DividerStyle :=
  match normalizedName name with
  | "single" | "solid" | "line" => some .single
  | "dotted" | "dots" => some .dotted
  | "double-arrow" | "double_arrow" | "doublearrow" | "arrow" => some .doubleArrow
  | _ => none

/-- The first name of a divider style. -/
def DividerStyle.name : DividerStyle → String
  | .single => "single"
  | .dotted => "dotted"
  | .doubleArrow => "double-arrow"

/-- The decorations of a text. -/
structure FontStyles where
  bold : Bool
  italic : Bool
  underline : Bool
  deriving DecidableEq, Repr

/-- The decorations of a text that has none. -/
def FontStyles.plain : FontStyles :=
  ⟨false, false, false⟩

/-- The decorations with the one of the given name turned on. -/
def FontStyles.insert? (styles : FontStyles) (name : String) : Option FontStyles :=
  match normalizedName name with
  | "bold" | "strong" => some { styles with bold := true }
  | "italic" | "em" => some { styles with italic := true }
  | "underline" => some { styles with underline := true }
  | _ => none

/-- The decorations with that of a name turned on; a name that is not known changes nothing. -/
def FontStyles.insert (styles : FontStyles) (name : String) : FontStyles :=
  (styles.insert? name).getD styles

end EmailTemplate
