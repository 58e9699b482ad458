import EmailTemplate.Document.Choice

/-!
# Elements

One visual unit of a template: a text, a button, an image, a divider, a social icon, or raw
markup. A property that may be left to the defaults is optional, so that the defaults are
substituted in one place, when an element is rendered.
-/

namespace EmailTemplate

/-- The padding of each side, in pixels. -/
structure Padding where
  top : Option Int
  right : Option Int
  bottom : Option Int
  left : Option Int
  deriving DecidableEq, Repr

/-- The padding of a frame that leaves every side to the defaults. -/
def Padding.unset : Padding :=
  ⟨none, none, none, none⟩

/-- The same padding on every side. -/
def Padding.uniform (pixels : Int) : Padding :=
  ⟨some pixels, some pixels, some pixels, some pixels⟩

/-- The cell around an element. -/
structure Frame where
  alignment : Alignment
  backgroundColor : Option String
  padding : Padding
  deriving DecidableEq, Repr

/-- The frame of an element that says nothing about it. -/
def Frame.plain : Frame :=
  ⟨.left, none, .unset⟩

/-- The properties of a text. -/
structure TextProps where
  content : String
  fontSize : Option String
  color : Option String
  fontFamily : Option String
  fontStyles : FontStyles
  deriving DecidableEq, Repr

/-- The properties of a button. -/
structure ButtonProps where
  content : String
  buttonColor : Option String
  buttonShape : Option ButtonShape
  buttonUrl : Option String
  fontSize : Option String
  color : Option String
  fontFamily : Option String
  deriving DecidableEq, Repr

/-- The properties of an image; sizes are in pixels. -/
structure ImageProps where
  src : String
  width : Option Int
  height : Option Int
  objectFit : Option ObjectFit
  borderRadius : Option Int
  alt : Option String
  linkUrl : Option String
  deriving DecidableEq, Repr

/-- The properties of a divider. -/
structure DividerProps where
  style : DividerStyle
  color : Option String
  deriving DecidableEq, Repr

/-- The properties of a social icon; its size is in pixels. -/
structure SocialIconProps where
  url : Option String
  color : Option String
  size : Option Int
  deriving DecidableEq, Repr

/-- What an element is. -/
inductive ElementKind where
  | text (props : TextProps)
  | button (props : ButtonProps)
  | image (props : ImageProps)
  | divider (props : DividerProps)
  | socialIcon (props : SocialIconProps)
  /-- Markup that an author wrote; it is sanitized, not escaped. -/
  | rawMarkup (content : String)
  deriving DecidableEq, Repr

/-- The name of a kind of element. -/
def ElementKind.name : ElementKind → String
  | text _ => "text"
  | button _ => "button"
  | image _ => "image"
  | divider _ => "divider"
  | socialIcon _ => "social-icon"
  | rawMarkup _ => "raw-markup"

/-- One visual unit of a template. The identifier serves diagnostics only. -/
structure Element where
  id : Option String
  frame : Frame
  kind : ElementKind
  deriving DecidableEq, Repr

end EmailTemplate
