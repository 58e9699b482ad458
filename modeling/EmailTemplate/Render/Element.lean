import EmailTemplate.Document.Element
import EmailTemplate.Html.Writer
import EmailTemplate.Markup.Sanitize
import EmailTemplate.Options.Basic

/-!
# Rendered elements

An element is rendered as a table of its own with a single cell. The cell carries the element's
frame: background, the padding of each side, and the alignment, both as an attribute and as CSS,
since mail clients heed one or the other. Properties that the element leaves out are taken from the
defaults. Raw markup is sanitized; every other text is escaped.
-/

namespace EmailTemplate
open Html Html.Step

/-- The declarations of a text; a decoration that is off is not mentioned. -/
def TextProps.declarations (p : TextProps) (d : RenderDefaults) : Style :=
  [css "font-size" (p.fontSize.getD d.fontSize),
    css "color" (p.color.getD d.textColor),
    css "font-family" (p.fontFamily.getD d.fontFamily),
    css "line-height" d.lineHeight] ++
  (if p.fontStyles.bold then [css "font-weight" "bold"] else []) ++
  (if p.fontStyles.italic then [css "font-style" "italic"] else []) ++
  (if p.fontStyles.underline then [css "text-decoration" "underline"] else [])

/-- A text in a block of its own. -/
def TextProps.steps (p : TextProps) (d : RenderDefaults) : List Step :=
  around "div" [style (p.declarations d)] [text p.content]

/-- The declarations of a button. -/
def ButtonProps.declarations (p : ButtonProps) (d : RenderDefaults) : Style :=
  [css "display" "inline-block",
    css "background-color" (p.buttonColor.getD d.buttonColor),
    css "color" (p.color.getD d.buttonTextColor),
    css "font-size" (p.fontSize.getD d.fontSize),
    css "font-family" (p.fontFamily.getD d.fontFamily),
    css "padding" d.buttonPadding,
    pixels "border-radius" ((p.buttonShape.map ButtonShape.radius).getD d.buttonRadius),
    css "text-decoration" "none"]

/-- A button as a link; one without a target leads nowhere. -/
def ButtonProps.steps (p : ButtonProps) (d : RenderDefaults) : List Step :=
  around "a" [attr "href" (p.buttonUrl.getD "#"), attr "target" "_blank", style (p.declarations d)]
    [text p.content]

/-- The link around an image, unless it is missing or empty. -/
def ImageProps.link? (p : ImageProps) : Option String :=
  p.linkUrl.filter (!·.isEmpty)

/-- The width of an image. -/
def ImageProps.widthIn (p : ImageProps) (d : RenderDefaults) : Int :=
  p.width.getD d.imageWidth

/-- The height of an image. -/
def ImageProps.heightIn (p : ImageProps) (d : RenderDefaults) : Int :=
  p.height.getD d.imageHeight

/-- The declarations of an image. -/
def ImageProps.declarations (p : ImageProps) (d : RenderDefaults) : Style :=
  [css "display" "inline-block",
    pixels "width" (p.widthIn d),
    pixels "height" (p.heightIn d),
    css "max-width" "100%",
    css "border" "0",
    css "object-fit" (p.objectFit.getD d.objectFit).name,
    pixels "border-radius" (p.borderRadius.getD d.imageBorderRadius)]

/-- An image; its size is given both as attributes and as CSS. -/
def ImageProps.imageSteps (p : ImageProps) (d : RenderDefaults) : List Step :=
  [startTag "img", attr "src" p.src, attr "alt" (p.alt.getD ""), attrInt "width" (p.widthIn d),
    attrInt "height" (p.heightIn d), style (p.declarations d), finishSelfClosing]

/-- An image, within its link if it has one. -/
def ImageProps.steps (p : ImageProps) (d : RenderDefaults) : List Step :=
  match p.link? with
  | some url => around "a" [attr "href" url, attr "target" "_blank"] (p.imageSteps d)
  | none => p.imageSteps d

/-- The declarations of a divider in the given color. -/
def DividerStyle.declarations (color : String) : DividerStyle → Style
  | .single =>
    [css "height" "1px", css "line-height" "1px", css "font-size" "1px",
      css "background-color" color]
  | .dotted =>
    [css "height" "0", css "line-height" "0", css "font-size" "0",
      css "border-top" ("2px dotted " ++ color)]
  | .doubleArrow =>
    [css "text-align" "center", css "font-size" "20px", css "line-height" "1", css "color" color]

/-- What stands in a divider: a character that keeps its box from collapsing, or the arrow itself.
-/
def DividerStyle.glyph : DividerStyle → String
  | .single | .dotted => "&nbsp;"
  | .doubleArrow => "&#8596;"

/-- A divider in a block of its own. -/
def DividerProps.steps (p : DividerProps) (d : RenderDefaults) : List Step :=
  around "div" [Step.style (p.style.declarations (p.color.getD d.dividerColor))]
    [verbatim p.style.glyph]

/-- The declarations of the circle of a social icon. -/
def SocialIconProps.declarations (p : SocialIconProps) (d : RenderDefaults) : Style :=
  let size := p.size.getD d.socialSize
  [css "display" "inline-block",
    pixels "width" size,
    pixels "height" size,
    pixels "line-height" size,
    css "border-radius" "50%",
    css "background-color" (p.color.getD d.socialColor)]

/-- A social icon as a linked circle; one without an address leads nowhere. -/
def SocialIconProps.steps (p : SocialIconProps) (d : RenderDefaults) : List Step :=
  around "a"
    [attr "href" (p.url.getD "#"), attr "target" "_blank",
      Step.style [css "display" "inline-block", css "text-decoration" "none"]]
    (around "span" [style (p.declarations d)] [verbatim "&nbsp;"])

/-- The steps that write what is in an element's cell. -/
def ElementKind.steps (d : RenderDefaults) : ElementKind → List Step
  | text p => p.steps d
  | button p => p.steps d
  | image p => p.steps d
  | divider p => p.steps d
  | socialIcon p => p.steps d
  | rawMarkup content => [verbatim (Markup.sanitize content)]

/-- The declarations of an element's cell; a side without a padding of its own has the common one.
-/
def Frame.declarations (f : Frame) (d : RenderDefaults) : Style :=
  [css "background-color" (f.backgroundColor.getD d.backgroundColor),
    pixels "padding-top" (f.padding.top.getD d.padding),
    pixels "padding-right" (f.padding.right.getD d.padding),
    pixels "padding-bottom" (f.padding.bottom.getD d.padding),
    pixels "padding-left" (f.padding.left.getD d.padding),
    css "text-align" f.alignment.name]

namespace Element

/-- The steps that write an element: its cell, within a table. -/
def steps (d : RenderDefaults) (e : Element) : List Step :=
  layoutTable
    (around "td" [attr "align" e.frame.alignment.name, style (e.frame.declarations d)]
      (e.kind.steps d))

/-- The markup of an element by itself. -/
def render (d : RenderDefaults) (e : Element) : String :=
  write (e.steps d)

/-- What is reported when an element is rendered. -/
def renderNotices (e : Element) : List Notice :=
  match e.kind with
  | .image p => if p.src.isEmpty then [.imageWithoutSource] else []
  | .rawMarkup content => Markup.sanitizeNotices content
  | _ => []

end Element

end EmailTemplate
