import EmailTemplate.Document.Load
import EmailTemplate.Proofs.Html.Attributes
import EmailTemplate.Proofs.Render.Nested
import Mathlib.Data.List.TakeWhile
import Mathlib.Tactic.Lemma

/-!
# No blank declarations and links

Two parts see to it that no property is rendered as blanks. Loading drops the blank texts of an
element (`Element.filled_of_ofJson?`), and rendering puts a default wherever an element has no text
(`Element.filled_steps`). So in the fragment of a loaded element, all declarations have values and
all links have targets, if the defaults that are texts are no blanks themselves
(`filled_fragment`).
-/

namespace EmailTemplate.Text

/-- A text with a character that is not blank. -/
def NonBlank (s : String) : Prop :=
  ∃ c ∈ s.toList, isBlank c = false

/-- A text is no blanks exactly if loading does not drop it. -/
lemma nonBlank_iff {s : String} : NonBlank s ↔ isBlankText s = false := by
  rw [NonBlank, isBlankText, List.all_eq_false]
  simp only [Bool.not_eq_true]

instance : DecidablePred NonBlank :=
  fun _ => decidable_of_iff _ nonBlank_iff.symm

/-- What is put behind a text leaves it no blanks. -/
lemma NonBlank.append_left {s : String} (h : NonBlank s) (t : String) : NonBlank (s ++ t) := by
  obtain ⟨c, mem, filled⟩ := h
  refine ⟨c, ?_, filled⟩
  rw [String.toList_append]
  exact List.mem_append_left _ mem

/-- What is put in front of a text leaves it no blanks. -/
lemma NonBlank.append_right {t : String} (h : NonBlank t) (s : String) : NonBlank (s ++ t) := by
  obtain ⟨c, mem, filled⟩ := h
  refine ⟨c, ?_, filled⟩
  rw [String.toList_append]
  exact List.mem_append_right _ mem

/-- A character outside a class is not dropped with those at the front that belong to it. -/
lemma mem_dropWhile {p : Char → Bool} {c : Char} {cs : List Char} (mem : c ∈ cs)
    (outside : p c = false) : c ∈ cs.dropWhile p := by
  rw [← List.takeWhile_append_dropWhile (p := p) (l := cs), List.mem_append] at mem
  rcases mem with front | back
  · have inside := List.mem_takeWhile_imp front
    rw [outside] at inside
    exact absurd inside Bool.false_ne_true
  · exact back

/-- Trimming takes blanks only. -/
lemma NonBlank.trimmed {s : String} (h : NonBlank s) : NonBlank (trimmed s) := by
  obtain ⟨c, mem, filled⟩ := h
  refine ⟨c, ?_, filled⟩
  rw [Text.trimmed, String.toList_ofList, trim, trimEnd, List.mem_reverse]
  refine mem_dropWhile ?_ filled
  rw [List.mem_reverse]
  exact mem_dropWhile mem filled

/-- A text that may be left out, and is no blanks if it is there. -/
def NonBlankIfSet (property : Option String) : Prop :=
  ∀ s ∈ property, NonBlank s

/-- With a default that is no blanks, a property is none. -/
lemma NonBlankIfSet.getD {property : Option String} (h : NonBlankIfSet property) {default : String}
    (filled : NonBlank default) : NonBlank (property.getD default) := by
  cases property with
  | none => exact filled
  | some s => exact h s rfl

end EmailTemplate.Text

namespace EmailTemplate
open Html Html.Step Text

namespace Json

/-- What is loaded as a text is no blanks. -/
lemma nonBlank_nonBlank? (value : Json) : NonBlankIfSet value.nonBlank? := by
  intro s mem
  have kept := (Option.filter_eq_some_iff.1 mem).2
  exact nonBlank_iff.2 (Bool.not_eq_true' _ ▸ kept)

/-- What is loaded as a font size is no blanks, with or without a unit. -/
lemma nonBlank_fontSize? (value : Json) : NonBlankIfSet value.fontSize? := by
  intro size mem
  obtain ⟨s, read, rfl⟩ := Option.map_eq_some_iff.1 mem
  have trimmed := (value.nonBlank_nonBlank? s read).trimmed
  dsimp only
  split
  case isTrue => exact trimmed.append_left _
  case isFalse => exact trimmed

end Json

/-- A text in which no size, color and font is set to blanks. -/
structure TextProps.Filled (p : TextProps) : Prop where
  fontSize : NonBlankIfSet p.fontSize
  color : NonBlankIfSet p.color
  fontFamily : NonBlankIfSet p.fontFamily

/-- A button in which no color, target, size and font is set to blanks. -/
structure ButtonProps.Filled (p : ButtonProps) : Prop where
  buttonColor : NonBlankIfSet p.buttonColor
  buttonUrl : NonBlankIfSet p.buttonUrl
  fontSize : NonBlankIfSet p.fontSize
  color : NonBlankIfSet p.color
  fontFamily : NonBlankIfSet p.fontFamily

/-- An icon in which neither target nor color is set to blanks. -/
structure SocialIconProps.Filled (p : SocialIconProps) : Prop where
  url : NonBlankIfSet p.url
  color : NonBlankIfSet p.color

/-- A kind of element in which no color, font and link target is set to blanks. -/
inductive ElementKind.Filled : ElementKind → Prop where
  | text {p} (filled : p.Filled) : Filled (.text p)
  | button {p} (filled : p.Filled) : Filled (.button p)
  | image {p} (linkUrl : NonBlankIfSet p.linkUrl) : Filled (.image p)
  | divider {p} (color : NonBlankIfSet p.color) : Filled (.divider p)
  | socialIcon {p} (filled : p.Filled) : Filled (.socialIcon p)
  | rawMarkup {content} : Filled (.rawMarkup content)

/-- An element none of whose styles and link targets is set to blanks. -/
structure Element.Filled (e : Element) : Prop where
  backgroundColor : NonBlankIfSet e.frame.backgroundColor
  kind : e.kind.Filled

/-- The defaults that are texts are no blanks. -/
structure RenderDefaults.Filled (d : RenderDefaults) : Prop where
  backgroundColor : NonBlank d.backgroundColor
  fontSize : NonBlank d.fontSize
  textColor : NonBlank d.textColor
  fontFamily : NonBlank d.fontFamily
  lineHeight : NonBlank d.lineHeight
  buttonColor : NonBlank d.buttonColor
  buttonTextColor : NonBlank d.buttonTextColor
  buttonPadding : NonBlank d.buttonPadding
  socialColor : NonBlank d.socialColor
  dividerColor : NonBlank d.dividerColor

namespace Element

/-- Whatever the fields are, the contents that they make are not set to blanks. -/
lemma filled_kindOf (field : ElementField → Json) : (kindOf field).Filled := by
  have color := (field .color).nonBlank_nonBlank?
  have fontSize := (field .fontSize).nonBlank_fontSize?
  have fontFamily := (field .fontFamily).nonBlank_nonBlank?
  rw [kindOf]
  cases (KindName.ofName? (kindNameOf field)).getD .text with
  | text => exact .text ⟨fontSize, color, fontFamily⟩
  | button =>
    have fill := (field .buttonColor).nonBlank_nonBlank?
    have url := (field .buttonUrl).nonBlank_nonBlank?
    exact .button ⟨fill, url, fontSize, color, fontFamily⟩
  | image => exact .image (field .linkUrl).nonBlank_nonBlank?
  | divider => exact .divider color
  | socialIcon =>
    have url := (field .socialUrl).nonBlank_nonBlank?
    have fill := (field .socialColor).nonBlank_nonBlank?
    exact .socialIcon ⟨url, fill⟩
  | rawMarkup => exact .rawMarkup

/-- Whatever the fields are, the element that they make is not set to blanks. -/
lemma filled_ofFields (field : ElementField → Json) : (ofFields field).Filled := by
  have background := (field .backgroundColor).nonBlank_nonBlank?
  have kind := filled_kindOf field
  rw [ofFields]
  -- kept as it is, since a comparison that opens it would work out which names denote a kind
  generalize kindOf field = k at kind ⊢
  exact ⟨background, kind⟩

/-- Loading drops blank texts, whatever the value is. -/
lemma filled_of_ofJson? {value : Json} {e : Element} (loaded : ofJson? value = .ok e) :
    e.Filled := by
  rw [ofJson?, ofRecord] at loaded
  split at loaded
  · cases loaded
  · obtain rfl := Except.ok.inj loaded
    exact filled_ofFields _

end Element

section Steps

/-- What a step puts into a style, or makes the target of a link, is no blanks; and styles are
written as declarations. -/
def Html.Step.Filled : Step → Prop
  | style decls => ∀ decl ∈ decls, NonBlank decl.value
  | attr key value => key ≠ "style" ∧ (key = "href" → NonBlank value)
  | _ => True

variable {d : RenderDefaults}

/-- An element around steps is filled if its attributes and its contents are. -/
lemma filled_around (name : String) {attrs inner : List Step} (ha : ∀ s ∈ attrs, s.Filled)
    (hi : ∀ s ∈ inner, s.Filled) : ∀ s ∈ around name attrs inner, s.Filled := by
  simp only [around, List.cons_append, List.forall_mem_cons, List.forall_mem_append]
  exact ⟨trivial, ⟨⟨ha, trivial, List.forall_mem_nil _⟩, hi⟩, trivial, List.forall_mem_nil _⟩

/-- An element that has a style only, around one step. -/
lemma filled_styled (name : String) {decls : Style} {inner : Step} (hs : (style decls).Filled)
    (hi : inner.Filled) : ∀ s ∈ around name [style decls] [inner], s.Filled :=
  filled_around name (List.forall_mem_singleton.2 hs) (List.forall_mem_singleton.2 hi)

/-- A link to a target that is no blanks. -/
lemma filled_link {target : String} {attrs inner : List Step} (ht : NonBlank target)
    (ha : ∀ s ∈ attrs, s.Filled) (hi : ∀ s ∈ inner, s.Filled) :
    ∀ s ∈ around "a" (attr "href" target :: attr "target" "_blank" :: attrs) inner, s.Filled := by
  have href : (attr "href" target).Filled := ⟨by decide, fun _ => ht⟩
  have window : (attr "target" "_blank").Filled := ⟨by decide, fun _ => by decide⟩
  refine filled_around "a" ?_ hi
  rw [List.forall_mem_cons, List.forall_mem_cons]
  exact ⟨href, window, ha⟩

/-- The table around cells sets its own style only. -/
lemma filled_layoutTable {cells : List Step} (filled : ∀ s ∈ cells, s.Filled) :
    ∀ s ∈ layoutTable cells, s.Filled := by
  have row := filled_around "tr" (List.forall_mem_nil _) filled
  have table : ∀ s ∈ presentationTable "100%", s.Filled := by
    simp [presentationTable, Step.Filled]
  have collapse : (style [css "border-collapse" "collapse"]).Filled := by
    intro decl mem
    obtain rfl := List.mem_singleton.1 mem
    decide
  simp only [layoutTable, List.forall_mem_append, List.forall_mem_cons]
  exact ⟨⟨⟨table, collapse, trivial, List.forall_mem_nil _⟩, row⟩, trivial, List.forall_mem_nil _⟩

/-- A number of pixels is no blanks. -/
@[simp] lemma nonBlank_pixels (property : String) (n : Int) : NonBlank (pixels property n).value :=
  NonBlank.append_right (by decide) _

/-- A frame declares its own background or the default one, and numbers. -/
lemma Frame.filled_declarations {f : Frame} (hf : NonBlankIfSet f.backgroundColor)
    (hd : d.Filled) : (style (f.declarations d)).Filled := by
  have background := hf.getD hd.backgroundColor
  have alignment : NonBlank f.alignment.name := by cases f.alignment <;> decide
  simp [Frame.declarations, Step.Filled, css, background, alignment]

/-- A text declares its own properties or the defaults. -/
lemma TextProps.filled_declarations {p : TextProps} (hp : p.Filled) (hd : d.Filled) :
    (style (p.declarations d)).Filled := by
  have fontSize := hp.fontSize.getD hd.fontSize
  have color := hp.color.getD hd.textColor
  have fontFamily := hp.fontFamily.getD hd.fontFamily
  simp only [TextProps.declarations, Step.Filled, css, List.forall_mem_append, List.forall_mem_cons]
  refine ⟨⟨⟨⟨fontSize, color, fontFamily, hd.lineHeight, List.forall_mem_nil _⟩, ?_⟩, ?_⟩, ?_⟩
  all_goals split <;> simp +decide

/-- A button declares its own properties or the defaults. -/
lemma ButtonProps.filled_declarations {p : ButtonProps} (hp : p.Filled) (hd : d.Filled) :
    (style (p.declarations d)).Filled := by
  have buttonColor := hp.buttonColor.getD hd.buttonColor
  have color := hp.color.getD hd.buttonTextColor
  have fontSize := hp.fontSize.getD hd.fontSize
  have fontFamily := hp.fontFamily.getD hd.fontFamily
  simp +decide [ButtonProps.declarations, Step.Filled, css, buttonColor, color, fontSize,
    fontFamily, hd.buttonPadding]

/-- An image declares numbers and the name of its fit. -/
lemma ImageProps.filled_declarations (p : ImageProps) (d : RenderDefaults) :
    (style (p.declarations d)).Filled := by
  have fit : NonBlank (p.objectFit.getD d.objectFit).name := by
    cases p.objectFit.getD d.objectFit <;> decide
  simp +decide [ImageProps.declarations, Step.Filled, css, fit]

/-- A divider declares its color, whatever its style is. -/
lemma DividerStyle.filled_declarations {color : String} (filled : NonBlank color)
    (s : DividerStyle) : (style (s.declarations color)).Filled := by
  cases s with
  | single => simp +decide [DividerStyle.declarations, Step.Filled, css, filled]
  | dotted =>
    have border := filled.append_right "2px dotted "
    simp +decide [DividerStyle.declarations, Step.Filled, css, border]
  | doubleArrow => simp +decide [DividerStyle.declarations, Step.Filled, css, filled]

/-- An icon declares its own color or the default one, and numbers. -/
lemma SocialIconProps.filled_declarations {p : SocialIconProps} (hp : p.Filled) (hd : d.Filled) :
    (style (p.declarations d)).Filled := by
  have color := hp.color.getD hd.socialColor
  simp +decide [SocialIconProps.declarations, Step.Filled, css, color]

/-- A text has no link, and its style is filled. -/
lemma TextProps.filled_steps {p : TextProps} (hp : p.Filled) (hd : d.Filled) :
    ∀ s ∈ p.steps d, s.Filled := by
  have styled := TextProps.filled_declarations hp hd
  exact filled_styled "div" styled trivial

/-- A button links to its own target or to the page it is on. -/
lemma ButtonProps.filled_steps {p : ButtonProps} (hp : p.Filled) (hd : d.Filled) :
    ∀ s ∈ p.steps d, s.Filled := by
  have target : NonBlank (p.buttonUrl.getD "#") := hp.buttonUrl.getD (by decide)
  have styled := ButtonProps.filled_declarations hp hd
  exact filled_link target (List.forall_mem_singleton.2 styled)
    (List.forall_mem_singleton.2 trivial)

/-- An image links to its own target, or not at all. -/
lemma ImageProps.filled_steps {p : ImageProps} (link : NonBlankIfSet p.linkUrl)
    (d : RenderDefaults) : ∀ s ∈ p.steps d, s.Filled := by
  have image : ∀ s ∈ p.imageSteps d, s.Filled := by
    have styled : ∀ decl ∈ p.declarations d, NonBlank decl.value := p.filled_declarations d
    simpa +decide [ImageProps.imageSteps, attrInt, Step.Filled] using styled
  rw [ImageProps.steps]
  split
  case h_1 url linked =>
    have target := link url (Option.filter_eq_some_iff.1 linked).1
    exact filled_link target (List.forall_mem_nil _) image
  case h_2 => exact image

/-- A divider has no link, and its style is filled. -/
lemma DividerProps.filled_steps {p : DividerProps} (hp : NonBlankIfSet p.color) (hd : d.Filled) :
    ∀ s ∈ p.steps d, s.Filled := by
  have styled := p.style.filled_declarations (hp.getD hd.dividerColor)
  exact filled_styled "div" styled trivial

/-- An icon links to its own target or to the page it is on. -/
lemma SocialIconProps.filled_steps {p : SocialIconProps} (hp : p.Filled) (hd : d.Filled) :
    ∀ s ∈ p.steps d, s.Filled := by
  have target : NonBlank (p.url.getD "#") := hp.url.getD (by decide)
  have glyph : (verbatim "&nbsp;").Filled := trivial
  have circle := filled_styled "span" (SocialIconProps.filled_declarations hp hd) glyph
  refine filled_link target (List.forall_mem_singleton.2 ?_) circle
  simp +decide [Step.Filled]

/-- Whatever an element is, its links and its styles are filled. -/
lemma ElementKind.filled_steps {k : ElementKind} (hk : k.Filled) (hd : d.Filled) :
    ∀ s ∈ k.steps d, s.Filled := by
  cases hk with
  | text hp => exact TextProps.filled_steps hp hd
  | button hp => exact ButtonProps.filled_steps hp hd
  | image link => exact ImageProps.filled_steps link d
  | divider color => exact DividerProps.filled_steps color hd
  | socialIcon hp => exact SocialIconProps.filled_steps hp hd
  | rawMarkup => exact List.forall_mem_singleton.2 trivial

/-- Where an element has no text of its own, rendering puts a default. -/
lemma Element.filled_steps {e : Element} (he : e.Filled) (hd : d.Filled) :
    ∀ s ∈ e.steps d, s.Filled := by
  have styled := Frame.filled_declarations he.backgroundColor hd
  have alignment : (attr "align" e.frame.alignment.name).Filled :=
    ⟨by decide, fun link => absurd link (by decide)⟩
  refine filled_layoutTable (filled_around "td" ?_ (ElementKind.filled_steps he.kind hd))
  rw [List.forall_mem_cons, List.forall_mem_singleton]
  exact ⟨alignment, styled⟩

end Steps

/-- An attribute as it is read: the target of a link is no blanks, and a style is one of
declarations whose values are none. -/
structure Markup.Attribute.Filled (a : Markup.Attribute) : Prop where
  href : a.pair.1 = "href".toList → NonBlank (String.ofList a.pair.2)
  style : a.pair.1 = "style".toList →
    ∃ decls, a.pair.2 = (Style.css decls).toList ∧ ∀ decl ∈ decls, NonBlank decl.value

/-- The attribute that a step asked for is read as it was asked for. -/
lemma filled_of_attr? {s : Step} (filled : s.Filled) {a : Markup.Attribute}
    (asked : s.attr? = some (String.ofList a.pair.1, String.ofList a.pair.2)) : a.Filled := by
  cases s with
  | attr key value =>
    obtain ⟨rfl, rfl⟩ := Prod.mk.inj (Option.some.inj asked)
    constructor
    case href =>
      intro link
      refine filled.2 ?_
      rw [link, String.ofList_toList]
    case style =>
      intro styled
      refine absurd ?_ filled.1
      rw [styled, String.ofList_toList]
  | style decls =>
    rw [attr?] at asked
    split at asked
    case isTrue => cases asked
    case isFalse =>
      obtain ⟨key, css⟩ := Prod.mk.inj (Option.some.inj asked)
      constructor
      case href =>
        intro link
        rw [link, String.ofList_toList] at key
        exact absurd key (by decide)
      case style =>
        intro _
        refine ⟨decls, ?_, filled⟩
        rw [css, String.toList_ofList]
  | _ => cases asked

/-- In the fragment of an element that was loaded from any value, no declaration of a style and no
target of a link is blank, if no default is. Styles are written as declarations only, so that a
reader of the fragment finds no other style, and no other target, if it has no raw markup in it. -/
theorem filled_fragment {value : Json} {e : Element} {d : RenderDefaults}
    (loaded : Element.ofJson? value = .ok e) (defaults : d.Filled) :
    (∀ decls, style decls ∈ e.steps d → ∀ decl ∈ decls, NonBlank decl.value) ∧
    (∀ target, attr "href" target ∈ e.steps d → NonBlank target) ∧
    (∀ css, attr "style" css ∉ e.steps d) ∧
    ((∀ m, e.kind ≠ .rawMarkup m) →
      ∀ t, .startTag t ∈ Markup.tokens (e.render d).toList → ∀ a ∈ t.attrs, a.Filled) := by
  have filled := Element.filled_steps (Element.filled_of_ofJson? loaded) defaults
  refine ⟨fun decls mem => filled _ mem, fun target mem => (filled _ mem).2 rfl,
    fun css mem => (filled _ mem).1 rfl, ?_⟩
  intro plain t found a mem
  have nested : Fragment False (e.steps d) := Element.fragment fun m raw => plain m raw
  obtain ⟨s, step, asked⟩ := exists_attr?_of_fragment nested found a mem
  exact filled_of_attr? (filled s step) asked

/-- A button with blanks for its color, its size and its target. -/
def blankButton : Json :=
  .obj [("type", .str "button"), ("buttonColor", .str " "), ("fontSize", .str ""),
    ("buttonUrl", .str "\t\u00a0")]

/-- The button that it is read as. -/
def unsetButton : Element :=
  ⟨none, .plain, .button ⟨"", none, none, none, none, none, none⟩⟩

/-- The blanks are dropped, so the button links to the page it is on. -/
theorem filled_unsetButton :
    Element.ofJson? blankButton = .ok unsetButton ∧ RenderDefaults.standard.Filled ∧
      attr "href" "#" ∈ unsetButton.steps .standard ∧ NonBlank "#" ∧
      ∀ t, .startTag t ∈ Markup.tokens (unsetButton.render .standard).toList →
        ∀ a ∈ t.attrs, a.Filled := by
  have loaded : Element.ofJson? blankButton = .ok unsetButton := by rfl
  have defaults : RenderDefaults.standard.Filled := by
    constructor <;> decide
  have href : attr "href" "#" ∈ unsetButton.steps .standard := by decide
  have plain : ∀ m, unsetButton.kind ≠ .rawMarkup m := nofun
  obtain ⟨-, targets, -, read⟩ := filled_fragment loaded defaults
  exact ⟨loaded, defaults, href, targets "#" href, read plain⟩

end EmailTemplate
