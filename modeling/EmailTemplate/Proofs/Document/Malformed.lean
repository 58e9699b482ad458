import EmailTemplate.Proofs.Document.Lenient
import EmailTemplate.Proofs.Json.SetMember

/-!
# Malformed fields of elements

The fields of an element are read in a few ways (`Reading`), and for each of them some values are
malformed: they are read as if they were not there. What an element is depends on what is read of
each of its fields (`ofFields_congr`), so that an object with a malformed member is read as the same
element as the object without it, and so is one with a member that is no field. The main statement
is `ofJson?_insertMember`.
-/

namespace EmailTemplate
open Json

section Names

/-- The names that are recognized, without regard to case and surrounding blanks. -/
def Alignment.names : List String :=
  ["left", "start", "center", "centre", "middle", "right", "end"]

/-- The names that are known for a shape of a button. -/
def ButtonShape.names : List String :=
  ["square", "rectangle", "sharp", "rounded", "round", "pill", "capsule"]

/-- The names that are known for a fit. -/
def ObjectFit.names : List String :=
  ["cover", "contain", "fill", "none"]

/-- The names that are known for a style of a divider. -/
def DividerStyle.names : List String :=
  ["single", "solid", "line", "dotted", "dots", "double-arrow", "double_arrow", "doublearrow",
    "arrow"]

variable {name : String}

/-- No other name is that of an alignment. -/
lemma Alignment.ofName?_eq_none (unknown : normalizedName name ∉ names) : ofName? name = none := by
  rw [ofName?]
  split <;> simp_all [names]

/-- No other name is that of a shape of a button. -/
lemma ButtonShape.ofName?_eq_none (unknown : normalizedName name ∉ names) :
    ofName? name = none := by
  rw [ofName?]
  split <;> simp_all [names]

/-- No other name is that of a fit. -/
lemma ObjectFit.ofName?_eq_none (unknown : normalizedName name ∉ names) :
    ofName? name = Option.none := by
  rw [ofName?, ofKeyword?, List.find?_eq_none]
  intro fit _ same
  rw [beq_iff_eq] at same
  apply unknown
  rw [← same]
  cases fit <;> decide

/-- No other name is that of a style of a divider. -/
lemma DividerStyle.ofName?_eq_none (unknown : normalizedName name ∉ names) :
    ofName? name = none := by
  rw [ofName?]
  split <;> simp_all [names]

end Names

/-- How the value of a field is read. -/
inductive Reading where
  /-- As the text of a scalar. -/
  | scalar
  /-- As the text of a scalar that is more than blanks. -/
  | filled
  /-- As such a text, with a unit. -/
  | fontSize
  /-- As a number of pixels. -/
  | pixels
  /-- As one of a few names. -/
  | choice (names : List String)
  | fontStyles
  deriving DecidableEq

/-- How each field of an element is read. -/
def ElementField.reading : ElementField → Reading
  | kind | id | content => .scalar
  | backgroundColor | color | fontFamily | buttonColor | buttonUrl | alt | linkUrl | socialUrl
  | socialColor => .filled
  | fontSize => .fontSize
  | padding | paddingTop | paddingRight | paddingBottom | paddingLeft | imageWidth | imageHeight
  | borderRadius | socialSize => .pixels
  | alignment => .choice Alignment.names
  | buttonShape => .choice ButtonShape.names
  | objectFit => .choice ObjectFit.names
  | dividerStyle => .choice DividerStyle.names
  | fontStyles => .fontStyles

namespace Reading

/-- A value is malformed for a way of reading. -/
def Malformed : Reading → Json → Prop
  | _, .null => True
  | r, .bool _ => r = pixels ∨ r = fontStyles
  | r, .num _ => r = fontStyles
  | choice names, .str s => normalizedName s ∉ names
  | _, .str _ => False
  | r, .arr _ => r ≠ fontStyles
  | r, .obj _ => r ≠ fontStyles

/-- The same is read of two values. A name counts only if it is one of those that are known. -/
def Alike : Reading → Json → Json → Prop
  | scalar, v, w => v.scalarText? = w.scalarText?
  | filled, v, w => v.nonBlank? = w.nonBlank?
  | fontSize, v, w => v.fontSize? = w.fontSize?
  | pixels, v, w => v.integer? = w.integer?
  | choice names, v, w =>
    v.nonBlank?.filter (normalizedName · ∈ names) = w.nonBlank?.filter (normalizedName · ∈ names)
  | fontStyles, v, w => v.fontStyles = w.fontStyles

/-- A value is read like itself. -/
lemma Alike.refl (r : Reading) (v : Json) : r.Alike v v := by
  cases r <;> rfl

/-- A malformed value is read as a missing one. -/
lemma Malformed.alike {r : Reading} {v : Json} (h : r.Malformed v) : r.Alike v .null := by
  cases v with
  | null => exact .refl r .null
  | bool b =>
    rcases h with rfl | rfl
    · rfl
    · rfl
  | num n =>
    subst h
    rfl
  | str s =>
    cases r with
    | choice names =>
      have unknown : normalizedName s ∉ names := h
      refine Option.filter_eq_none_iff.2 ?_
      intro t ht
      obtain rfl : s = t := Option.some.inj (Option.filter_eq_some_iff.1 ht).1
      simpa using unknown
    | _ => exact h.elim
  | arr items =>
    cases r with
    | fontStyles => exact absurd rfl h
    | _ => rfl
  | obj members =>
    cases r with
    | fontStyles => exact absurd rfl h
    | _ => rfl

/-- Where the same known names are read, so is the same choice. -/
lemma Alike.choice? {α : Type} {ofName? : String → Option α} {names : List String} {v w : Json}
    (alike : (choice names).Alike v w) (known : ∀ s, normalizedName s ∉ names → ofName? s = none) :
    v.choice? ofName? = w.choice? ofName? := by
  have kept (o : Option String) :
      o.bind ofName? = (o.filter (normalizedName · ∈ names)).bind ofName? := by
    cases o with
    | none => rfl
    | some s =>
      by_cases mem : normalizedName s ∈ names
      · rw [Option.filter_some, if_pos (decide_eq_true mem)]
      · rw [Option.filter_some, if_neg (by simpa using mem), Option.bind_some, known s mem]
        rfl
  have same : v.nonBlank?.filter (normalizedName · ∈ names) =
      w.nonBlank?.filter (normalizedName · ∈ names) := alike
  rw [Json.choice?, Json.choice?, kept v.nonBlank?, kept w.nonBlank?, same]

end Reading

namespace Element

/-- The same is read of each field. -/
def ReadAlike (f g : ElementField → Json) : Prop :=
  ∀ k : ElementField, k.reading.Alike (f k) (g k)

variable {f g : ElementField → Json}

namespace ReadAlike
variable {k : ElementField}

/-- Fields that are read as scalars are read alike. -/
lemma scalar (alike : ReadAlike f g) (h : k.reading = .scalar) :
    (f k).scalarText? = (g k).scalarText? := by
  have same := alike k
  rwa [h] at same

/-- Fields that are read as filled texts are read alike. -/
lemma filled (alike : ReadAlike f g) (h : k.reading = .filled) :
    (f k).nonBlank? = (g k).nonBlank? := by
  have same := alike k
  rwa [h] at same

/-- Fields that are read as font sizes are read alike. -/
lemma fontSize (alike : ReadAlike f g) (h : k.reading = .fontSize) :
    (f k).fontSize? = (g k).fontSize? := by
  have same := alike k
  rwa [h] at same

/-- Fields that are read as numbers of pixels are read alike. -/
lemma pixels (alike : ReadAlike f g) (h : k.reading = .pixels) :
    (f k).integer? = (g k).integer? := by
  have same := alike k
  rwa [h] at same

end ReadAlike

/-- Fields that are read alike make up the same frame. -/
lemma frameOf_congr (alike : ReadAlike f g) : frameOf f = frameOf g := by
  have alignment : (f .alignment).choice? Alignment.ofName? =
      (g .alignment).choice? Alignment.ofName? :=
    Reading.Alike.choice? (alike .alignment) fun _ => Alignment.ofName?_eq_none
  have background : (f .backgroundColor).nonBlank? = (g .backgroundColor).nonBlank? :=
    alike.filled rfl
  have common : (f .padding).integer? = (g .padding).integer? := alike.pixels rfl
  have top : (f .paddingTop).integer? = (g .paddingTop).integer? := alike.pixels rfl
  have right : (f .paddingRight).integer? = (g .paddingRight).integer? := alike.pixels rfl
  have bottom : (f .paddingBottom).integer? = (g .paddingBottom).integer? := alike.pixels rfl
  have left : (f .paddingLeft).integer? = (g .paddingLeft).integer? := alike.pixels rfl
  rw [frameOf, frameOf, alignment, background, common, top, right, bottom, left]

/-- Fields that are read alike make up the same kind, whichever kind they name. -/
lemma kindOf_congr (alike : ReadAlike f g) : kindOf f = kindOf g := by
  have name : kindNameOf f = kindNameOf g := by
    rw [kindNameOf, kindNameOf, alike.scalar (k := .kind) rfl]
  have content : (f .content).scalarText? = (g .content).scalarText? := alike.scalar rfl
  have color : (f .color).nonBlank? = (g .color).nonBlank? := alike.filled rfl
  have fontSize : (f .fontSize).fontSize? = (g .fontSize).fontSize? := alike.fontSize rfl
  have fontFamily : (f .fontFamily).nonBlank? = (g .fontFamily).nonBlank? := alike.filled rfl
  rw [kindOf, kindOf, name, content]
  -- each kind looks at its own fields, and at those of the text if it has one
  cases (KindName.ofName? (kindNameOf g)).getD .text with
  | text =>
    have styles : (f .fontStyles).fontStyles = (g .fontStyles).fontStyles := alike .fontStyles
    simp only [fontSize, color, fontFamily, styles]
  | button =>
    have shape : (f .buttonShape).choice? ButtonShape.ofName? =
        (g .buttonShape).choice? ButtonShape.ofName? :=
      Reading.Alike.choice? (alike .buttonShape) fun _ => ButtonShape.ofName?_eq_none
    have fill : (f .buttonColor).nonBlank? = (g .buttonColor).nonBlank? := alike.filled rfl
    have url : (f .buttonUrl).nonBlank? = (g .buttonUrl).nonBlank? := alike.filled rfl
    simp only [fill, shape, url, fontSize, color, fontFamily]
  | image =>
    have width : (f .imageWidth).integer? = (g .imageWidth).integer? := alike.pixels rfl
    have height : (f .imageHeight).integer? = (g .imageHeight).integer? := alike.pixels rfl
    have fit : (f .objectFit).choice? ObjectFit.ofName? =
        (g .objectFit).choice? ObjectFit.ofName? :=
      Reading.Alike.choice? (alike .objectFit) fun _ => ObjectFit.ofName?_eq_none
    have radius : (f .borderRadius).integer? = (g .borderRadius).integer? := alike.pixels rfl
    have alt : (f .alt).nonBlank? = (g .alt).nonBlank? := alike.filled rfl
    have link : (f .linkUrl).nonBlank? = (g .linkUrl).nonBlank? := alike.filled rfl
    simp only [width, height, fit, radius, alt, link]
  | divider =>
    have style : (f .dividerStyle).choice? DividerStyle.ofName? =
        (g .dividerStyle).choice? DividerStyle.ofName? :=
      Reading.Alike.choice? (alike .dividerStyle) fun _ => DividerStyle.ofName?_eq_none
    simp only [style, color]
  | socialIcon =>
    have url : (f .socialUrl).nonBlank? = (g .socialUrl).nonBlank? := alike.filled rfl
    have fill : (f .socialColor).nonBlank? = (g .socialColor).nonBlank? := alike.filled rfl
    have size : (f .socialSize).integer? = (g .socialSize).integer? := alike.pixels rfl
    simp only [url, fill, size]
  | rawMarkup => rfl

/-- What an element is depends on what is read of its fields. -/
lemma ofFields_congr (alike : ReadAlike f g) : ofFields f = ofFields g := by
  have id : (f .id).scalarText? = (g .id).scalarText? := alike.scalar rfl
  rw [ofFields, ofFields, id, frameOf_congr alike, kindOf_congr alike]

/-- A member with a malformed value, and the object without it. -/
lemma readAlike_split {front back : List (String × Json)} {key : String} {value : Json}
    {k : ElementField} (distinct : schema.Distinct (front ++ (key, value) :: back))
    (denoted : schema.field? key = some k) (malformed : k.reading.Malformed value) :
    ReadAlike (schema.valueOf (front ++ (key, value) :: back))
      (schema.valueOf (front ++ back)) := by
  obtain ⟨set, removed, others⟩ := Schema.valueOf_split distinct denoted
  intro other
  by_cases same : other = k
  · subst same
    rw [set, removed]
    exact malformed.alike
  · rw [others other same]
    exact .refl _ _

/-- A key that is no name of a field denotes none. -/
lemma field?_eq_none {key : String} (named : ∀ k : ElementField, key ≠ k.name)
    (spelled : key ≠ "type") : schema.field? key = none := by
  cases field : schema.field? key with
  | none => rfl
  | some k =>
    obtain rfl | ⟨rfl, -⟩ := field?_eq_some field
    · exact absurd rfl (named k)
    · exact absurd rfl spelled

/-- A field that is set to a malformed value is read as if it were removed, unless the object then
has both spellings of the kind; and a member that is no field makes no difference. -/
theorem ofJson?_insertMember {members : List (String × Json)} (ascending : Ascending members)
    (key : String) (value : Json) :
    (∀ k : ElementField, schema.field? key = some k → k.reading.Malformed value →
      ¬Respelled (insertMember key value members) →
      ∃ e, ofJson? (.obj (insertMember key value members)) = .ok e ∧
        ofJson? (.obj (removeMember key members)) = .ok e) ∧
    ((∀ k : ElementField, key ≠ k.name) → key ≠ "type" →
      ofJson? (.obj (insertMember key value members)) = ofJson? (.obj members)) := by
  constructor
  · intro k denoted malformed once
    have distinct := (distinct_iff (ascending.nodup_insertMember key value)).2 once
    obtain ⟨front, back, set, removed⟩ := insertMember_split ascending key value
    rw [set] at distinct ⊢
    rw [removed]
    have alike := readAlike_split distinct denoted malformed
    exact ⟨_, ofJson?_eq_ok_iff.2 ⟨distinct, rfl⟩,
      ofJson?_eq_ok_iff.2 ⟨distinct.of_split, (ofFields_congr alike).symm⟩⟩
  · intro named spelled
    have unknown := field?_eq_none named spelled
    rw [ofJson?, ofJson?, Schema.ofValue, Schema.ofValue,
      Schema.ofMembers_insertMember unknown value members []]

/-- An image with a padding for all sides and another one for the top. -/
def paddedImage : List (String × Json) :=
  [("padding", .num (.int 4)), ("paddingTop", .num (.int 9)), ("type", .str "image")]

/-- A padding that is true is dropped, and so is a field that elements do not have. -/
theorem ofJson?_paddedImage :
    Ascending paddedImage ∧ schema.field? "paddingTop" = some .paddingTop ∧
    ElementField.paddingTop.reading.Malformed (.bool true) ∧
    ¬Respelled (insertMember "paddingTop" (.bool true) paddedImage) ∧
    (∃ e, ofJson? (.obj (insertMember "paddingTop" (.bool true) paddedImage)) = .ok e ∧
      ofJson? (.obj (removeMember "paddingTop" paddedImage)) = .ok e) ∧
    (∀ k : ElementField, "version" ≠ k.name) ∧ "version" ≠ "type" ∧
    ofJson? (.obj (insertMember "version" .null paddedImage)) = ofJson? (.obj paddedImage) := by
  have ascending : Ascending paddedImage := by decide
  have malformed : ElementField.paddingTop.reading.Malformed (.bool true) := .inl rfl
  have once : ¬Respelled (insertMember "paddingTop" (.bool true) paddedImage) := by decide
  have unnamed : ∀ k : ElementField, "version" ≠ k.name := by
    intro k
    cases k <;> decide
  have unspelled : "version" ≠ "type" := by decide
  obtain ⟨absent, -⟩ := ofJson?_insertMember ascending "paddingTop" (.bool true)
  obtain ⟨-, unknown⟩ := ofJson?_insertMember ascending "version" .null
  exact ⟨ascending, rfl, malformed, once, absent .paddingTop rfl malformed once, unnamed, unspelled,
    unknown unnamed unspelled⟩

end Element

end EmailTemplate
