import EmailTemplate.Document.Choice

/-!
# Options

What a compilation is given beside the document: the values that stand in for properties an
element leaves out, and the settings of the page around the body.
-/

namespace EmailTemplate

/-- The values that stand in for missing properties; lengths are in pixels. -/
structure RenderDefaults where
  padding : Int
  backgroundColor : String
  fontSize : String
  textColor : String
  fontFamily : String
  lineHeight : String
  buttonColor : String
  buttonTextColor : String
  buttonPadding : String
  buttonRadius : Int
  imageWidth : Int
  imageHeight : Int
  objectFit : ObjectFit
  imageBorderRadius : Int
  socialSize : Int
  socialColor : String
  dividerColor : String
  deriving DecidableEq, Repr

/-- The defaults that hold where nothing is set. -/
def RenderDefaults.standard : RenderDefaults where
  padding := 16
  backgroundColor := "transparent"
  fontSize := "16px"
  textColor := "#000000"
  fontFamily := "Arial, Helvetica, sans-serif"
  lineHeight := "1.5"
  buttonColor := "#007bff"
  buttonTextColor := "#ffffff"
  buttonPadding := "12px 24px"
  buttonRadius := 8
  imageWidth := 400
  imageHeight := 300
  objectFit := .cover
  imageBorderRadius := 0
  socialSize := 24
  socialColor := "#000000"
  dividerColor := "#cccccc"

/-- The settings of the page around the body; lengths are in pixels. -/
structure ShellOptions where
  title : String
  /-- The text that an inbox shows beside the title; there is none if it is empty. -/
  preheader : String
  lang : String
  maxWidth : Int
  pageBackground : String
  containerBackground : String
  /-- The width of the screen up to which columns stand below one another. -/
  mobileBreakpoint : Int
  /-- The CSS padding around a standalone element. -/
  standalonePadding : String
  deriving DecidableEq, Repr

/-- The settings that hold where nothing is set. -/
def ShellOptions.standard : ShellOptions where
  title := ""
  preheader := ""
  lang := "en"
  maxWidth := 600
  pageBackground := "#f4f4f4"
  containerBackground := "#ffffff"
  mobileBreakpoint := 620
  standalonePadding := "10px 20px"

/-- All that a compilation is given beside the document. -/
structure CompileOptions where
  defaults : RenderDefaults
  shell : ShellOptions
  deriving DecidableEq, Repr

namespace CompileOptions

/-- The options that hold where nothing is set. -/
def standard : CompileOptions :=
  ⟨.standard, .standard⟩

/-- One change to a set of options. -/
inductive Change where
  | title (text : String)
  | preheader (text : String)
  | lang (code : String)
  | maxWidth (pixels : Int)
  | padding (pixels : Int)
  | fontFamily (family : String)
  | defaults (values : RenderDefaults)

/-- The options after a change. A width that is not positive changes nothing. -/
def apply (options : CompileOptions) : Change → CompileOptions
  | .title text => { options with shell.title := text }
  | .preheader text => { options with shell.preheader := text }
  | .lang code => { options with shell.lang := code }
  | .maxWidth pixels => if 0 < pixels then { options with shell.maxWidth := pixels } else options
  | .padding pixels => { options with defaults.padding := pixels }
  | .fontFamily family => { options with defaults.fontFamily := family }
  | .defaults values => { options with defaults := values }

end CompileOptions

end EmailTemplate
