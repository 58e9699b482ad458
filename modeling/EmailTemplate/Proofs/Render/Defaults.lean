import EmailTemplate.Render.Element
import Mathlib.Tactic.Lemma

/-!
# Where defaults are taken

A default stands in for one property of an element, and only where the element leaves that property
out. So an element is rendered like the one in which each such property is set to its default, and
the defaults no longer matter to that one (`render_explicit`), apart from those that stand in for no
property: the line height of texts, and the padding and the radius of buttons.
-/

namespace EmailTemplate

/-- Two tables have the same values for what an element cannot set. -/
structure RenderDefaults.AgreeOnRest (d d' : RenderDefaults) : Prop where
  lineHeight : d.lineHeight = d'.lineHeight
  buttonPadding : d.buttonPadding = d'.buttonPadding
  buttonRadius : d.buttonRadius = d'.buttonRadius

/-- The padding with every side set. -/
def Padding.explicit (d : RenderDefaults) (p : Padding) : Padding where
  top := p.top.or (some d.padding)
  right := p.right.or (some d.padding)
  bottom := p.bottom.or (some d.padding)
  left := p.left.or (some d.padding)

/-- The frame with its background and its padding set. -/
def Frame.explicit (d : RenderDefaults) (f : Frame) : Frame :=
  { f with
    backgroundColor := f.backgroundColor.or (some d.backgroundColor)
    padding := f.padding.explicit d }

/-- The text with its font and its color set. -/
def TextProps.explicit (d : RenderDefaults) (p : TextProps) : TextProps :=
  { p with
    fontSize := p.fontSize.or (some d.fontSize)
    color := p.color.or (some d.textColor)
    fontFamily := p.fontFamily.or (some d.fontFamily) }

/-- The button with its colors and its font set. -/
def ButtonProps.explicit (d : RenderDefaults) (p : ButtonProps) : ButtonProps :=
  { p with
    buttonColor := p.buttonColor.or (some d.buttonColor)
    fontSize := p.fontSize.or (some d.fontSize)
    color := p.color.or (some d.buttonTextColor)
    fontFamily := p.fontFamily.or (some d.fontFamily) }

/-- The image with its sizes, its fit and its corners set. -/
def ImageProps.explicit (d : RenderDefaults) (p : ImageProps) : ImageProps :=
  { p with
    width := p.width.or (some d.imageWidth)
    height := p.height.or (some d.imageHeight)
    objectFit := p.objectFit.or (some d.objectFit)
    borderRadius := p.borderRadius.or (some d.imageBorderRadius) }

/-- The divider with its color set. -/
def DividerProps.explicit (d : RenderDefaults) (p : DividerProps) : DividerProps :=
  { p with color := p.color.or (some d.dividerColor) }

/-- The icon with its color and its size set. -/
def SocialIconProps.explicit (d : RenderDefaults) (p : SocialIconProps) : SocialIconProps :=
  { p with
    color := p.color.or (some d.socialColor)
    size := p.size.or (some d.socialSize) }

/-- The contents of an element with every property set that has a default. -/
def ElementKind.explicit (d : RenderDefaults) : ElementKind → ElementKind
  | text p => .text (p.explicit d)
  | button p => .button (p.explicit d)
  | image p => .image (p.explicit d)
  | divider p => .divider (p.explicit d)
  | socialIcon p => .socialIcon (p.explicit d)
  | rawMarkup content => .rawMarkup content

/-- The element in which every property that it leaves to the defaults is set to its default. -/
def Element.explicit (d : RenderDefaults) (e : Element) : Element :=
  { e with frame := e.frame.explicit d, kind := e.kind.explicit d }

section Steps
variable {d d' : RenderDefaults}

/-- A property that was set to its default is no longer looked up in another table. -/
lemma getD_explicit {α : Type} (property : Option α) (default default' : α) :
    (property.or (some default)).getD default' = property.getD default := by
  rw [Option.getD_or, Option.getD_some]

/-- A frame that is set takes nothing from a second table. -/
lemma Frame.declarations_explicit (f : Frame) :
    (f.explicit d).declarations d' = f.declarations d := by
  simp only [Frame.declarations, Frame.explicit, Padding.explicit, getD_explicit]

/-- A text that is set takes only the line height from a second table. -/
lemma TextProps.steps_explicit (agree : d.AgreeOnRest d') (p : TextProps) :
    (p.explicit d).steps d' = p.steps d := by
  have styles : (p.explicit d).fontStyles = p.fontStyles := rfl
  rw [TextProps.steps, TextProps.steps, TextProps.declarations, TextProps.declarations, styles]
  simp only [TextProps.explicit, getD_explicit, agree.lineHeight]

/-- A button that is set takes only its padding and its radius from a second table. -/
lemma ButtonProps.steps_explicit (agree : d.AgreeOnRest d') (p : ButtonProps) :
    (p.explicit d).steps d' = p.steps d := by
  simp only [ButtonProps.steps, ButtonProps.declarations, ButtonProps.explicit, getD_explicit,
    agree.buttonPadding, agree.buttonRadius]

/-- An image that is set takes nothing from a second table. -/
lemma ImageProps.steps_explicit (p : ImageProps) : (p.explicit d).steps d' = p.steps d := by
  simp only [ImageProps.steps, ImageProps.link?, ImageProps.imageSteps, ImageProps.declarations,
    ImageProps.widthIn, ImageProps.heightIn, ImageProps.explicit, getD_explicit]

/-- A divider that is set takes nothing from a second table. -/
lemma DividerProps.steps_explicit (p : DividerProps) : (p.explicit d).steps d' = p.steps d := by
  simp only [DividerProps.steps, DividerProps.explicit, getD_explicit]

/-- An icon that is set takes nothing from a second table. -/
lemma SocialIconProps.steps_explicit (p : SocialIconProps) :
    (p.explicit d).steps d' = p.steps d := by
  simp only [SocialIconProps.steps, SocialIconProps.declarations, SocialIconProps.explicit,
    getD_explicit]

/-- Contents that are set take only the rest from a second table. -/
lemma ElementKind.steps_explicit (agree : d.AgreeOnRest d') (k : ElementKind) :
    (k.explicit d).steps d' = k.steps d := by
  cases k with
  | text p => exact p.steps_explicit agree
  | button p => exact p.steps_explicit agree
  | image p => exact p.steps_explicit
  | divider p => exact p.steps_explicit
  | socialIcon p => exact p.steps_explicit
  | rawMarkup content => rfl

/-- An element that is set takes only the rest from a second table. -/
lemma Element.steps_explicit (agree : d.AgreeOnRest d') (e : Element) :
    (e.explicit d).steps d' = e.steps d := by
  rw [Element.steps, Element.steps, Element.explicit, Frame.declarations_explicit,
    ElementKind.steps_explicit agree]
  rfl

end Steps

section Complete
variable (d d' : RenderDefaults)

/-- A property that was set to its default is not set to another one. -/
lemma or_explicit {α : Type} (property : Option α) (default default' : α) :
    (property.or (some default)).or (some default') = property.or (some default) := by
  rw [Option.or_assoc, Option.some_or]

/-- A frame is set once. -/
lemma Frame.explicit_explicit (f : Frame) : (f.explicit d).explicit d' = f.explicit d := by
  simp only [Frame.explicit, Padding.explicit, or_explicit]

/-- Contents are set once. -/
lemma ElementKind.explicit_explicit (k : ElementKind) :
    (k.explicit d).explicit d' = k.explicit d := by
  cases k with
  | text p => simp only [ElementKind.explicit, TextProps.explicit, or_explicit]
  | button p => simp only [ElementKind.explicit, ButtonProps.explicit, or_explicit]
  | image p => simp only [ElementKind.explicit, ImageProps.explicit, or_explicit]
  | divider p => simp only [ElementKind.explicit, DividerProps.explicit, or_explicit]
  | socialIcon p => simp only [ElementKind.explicit, SocialIconProps.explicit, or_explicit]
  | rawMarkup content => rfl

/-- Nothing is left to a second table. -/
lemma Element.explicit_explicit (e : Element) : (e.explicit d).explicit d' = e.explicit d := by
  simp only [Element.explicit, Frame.explicit_explicit, ElementKind.explicit_explicit]

end Complete

/-- An element is rendered with a table of defaults as is the element in which they are set, with
any other table that has the same values for what an element cannot set. Nothing that has a default
is left unset in it. -/
theorem render_explicit {d d' : RenderDefaults} (agree : d.AgreeOnRest d') (e : Element) :
    (e.explicit d).render d' = e.render d ∧ (e.explicit d).explicit d' = e.explicit d := by
  refine ⟨?_, e.explicit_explicit d d'⟩
  rw [Element.render, Element.render, e.steps_explicit agree]

/-- A table that has other values for everything that an element can set. -/
def otherDefaults : RenderDefaults where
  padding := 0
  backgroundColor := "white"
  fontSize := "9pt"
  textColor := "gray"
  fontFamily := "serif"
  lineHeight := RenderDefaults.standard.lineHeight
  buttonColor := "red"
  buttonTextColor := "black"
  buttonPadding := RenderDefaults.standard.buttonPadding
  buttonRadius := RenderDefaults.standard.buttonRadius
  imageWidth := 1
  imageHeight := 2
  objectFit := .fill
  imageBorderRadius := 3
  socialSize := 4
  socialColor := "blue"
  dividerColor := "green"

/-- A button that sets nothing but the color of its label. -/
def whiteButton : Element :=
  ⟨none, .plain, .button ⟨"Go", none, none, none, none, some "white", none⟩⟩

/-- Only the color of the label comes from the button, and it is not the one of the second table. -/
theorem render_whiteButton :
    RenderDefaults.standard.AgreeOnRest otherDefaults ∧
      (whiteButton.explicit .standard).render otherDefaults = whiteButton.render .standard := by
  have agree : RenderDefaults.standard.AgreeOnRest otherDefaults := ⟨rfl, rfl, rfl⟩
  exact ⟨agree, (render_explicit agree whiteButton).1⟩

end EmailTemplate
