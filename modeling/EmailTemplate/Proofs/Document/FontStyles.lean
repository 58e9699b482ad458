import EmailTemplate.Proofs.Document.SetField
import EmailTemplate.Proofs.Text.Cut

/-!
# Font styles in template files

The font styles of a text are given by their names, in one of three shapes: as a list, as a string
with commas and spaces between the names, or as an object whose members are true for them. All that
counts is which names are given (`adding_congr`), so that the three shapes come to the same element.
The main statement is `fontStyles_any_shape`.
-/

namespace EmailTemplate
open Text

namespace FontStyles
variable {names names' : List String}

/-- The names of each style, without regard to case and surrounding blanks. -/
def boldNames : List String :=
  ["bold", "strong"]

/-- The names of the italic style. -/
def italicNames : List String :=
  ["italic", "em"]

/-- The names of the underlined style. -/
def underlineNames : List String :=
  ["underline"]

/-- Some name is one of those that are known for a style. -/
def named (known names : List String) : Bool :=
  names.any fun name => normalizedName name ∈ known

/-- A style is named if one of its names is among those given, however it is spelled. -/
lemma named_iff {known : List String} :
    named known names = true ↔ ∃ name ∈ names, normalizedName name ∈ known := by
  simp [named]

/-- The styles with those turned on that are named. -/
def adding (styles : FontStyles) (names : List String) : FontStyles where
  bold := styles.bold || named boldNames names
  italic := styles.italic || named italicNames names
  underline := styles.underline || named underlineNames names

/-- No names turn nothing on. -/
lemma adding_nil (styles : FontStyles) : styles.adding [] = styles := by
  simp [adding, named]

/-- The first name turns on its style, and the others theirs. -/
lemma adding_cons (styles : FontStyles) (name : String) (names : List String) :
    styles.adding (name :: names) = (styles.adding [name]).adding names := by
  simp [adding, named, Bool.or_assoc]

/-- One name turns on the style that it is a name of. -/
lemma insert_eq_adding (styles : FontStyles) (name : String) :
    styles.insert name = styles.adding [name] := by
  rw [insert, insert?]
  split <;> simp_all [adding, named, boldNames, italicNames, underlineNames]

/-- Names that are inserted one after another turn on what they name together. -/
lemma foldl_insert (names : List String) (styles : FontStyles) :
    names.foldl insert styles = styles.adding names := by
  induction names generalizing styles with
  | nil => rw [List.foldl_nil, adding_nil]
  | cons name names ih => rw [List.foldl_cons, ih, insert_eq_adding, ← adding_cons]

/-- Two lists have the same names, apart from empty ones. -/
def SameNames (names names' : List String) : Prop :=
  ∀ name, name ≠ "" → (name ∈ names ↔ name ∈ names')

/-- Whether a style is named does not depend on order, repetition and empty names. -/
lemma named_congr (same : SameNames names names') {known : List String}
    (unknown : normalizedName "" ∉ known) : named known names = named known names' := by
  rw [Bool.eq_iff_iff, named_iff, named_iff]
  apply exists_congr
  intro name
  apply and_congr_left
  intro mem
  apply same name
  rintro rfl
  exact unknown mem

/-- Neither the order of the names nor their repetition matters. -/
lemma adding_congr (same : SameNames names names') (styles : FontStyles) :
    styles.adding names = styles.adding names' := by
  rw [adding, named_congr same (by decide), named_congr same (by decide),
    named_congr same (by decide)]
  rfl

end FontStyles

/-- A character that separates names in a string. -/
def isSeparator (c : Char) : Bool :=
  c == ',' || c == ' '

/-- A text lists names, with a run of commas and spaces between neighbours. -/
inductive Listed : List String → List Char → Prop where
  | nil : Listed [] []
  | single (name : String) : Listed [name] name.toList
  | cons {name next names rest} (gap : List Char) :
    gap ≠ [] →
    (∀ c ∈ gap, isSeparator c = true) →
    Listed (next :: names) rest →
    Listed (name :: next :: names) (name.toList ++ (gap ++ rest))

/-- Names that hold no separator themselves are read back from a text that lists them. -/
lemma Listed.cutNonEmpty_eq {names : List String} {text : List Char} (listed : Listed names text)
    (whole : ∀ name ∈ names, ∀ c ∈ name.toList, isSeparator c = false) :
    cutNonEmpty isSeparator text = (names.map String.toList).filter (!·.isEmpty) := by
  induction listed with
  | nil => rfl
  | single name =>
    rw [cutNonEmpty, cut_of_none (whole name List.mem_cons_self)]
    rfl
  | @cons name next names rest gap ne separates _ ih =>
    obtain ⟨first, others⟩ := List.forall_mem_cons.1 whole
    have piece : cutNonEmpty isSeparator name.toList = [name.toList].filter (!·.isEmpty) := by
      rw [cutNonEmpty, cut_of_none first]
    rw [cutNonEmpty_append_gap ne separates, ih others, piece, ← List.filter_append]
    rfl

namespace Json
open FontStyles
variable {names : List String}

/-- The styles of a value are those that its names turn on. -/
lemma fontStyles_eq_adding (value : Json) :
    value.fontStyles = FontStyles.plain.adding value.styleNames :=
  foldl_insert value.styleNames .plain

/-- A list of strings has its items for names. -/
lemma styleNames_arr (names : List String) : (arr (names.map str)).styleNames = names := by
  rw [styleNames, List.filterMap_map]
  exact List.filterMap_some

/-- A text that lists names between separators has the same names. -/
lemma sameNames_str {text : String} (listed : Listed names text.toList)
    (whole : ∀ name ∈ names, ∀ c ∈ name.toList, isSeparator c = false) :
    SameNames (str text).styleNames names := by
  intro name filled
  have cut : (str text).styleNames =
      ((names.map String.toList).filter (!·.isEmpty)).map String.ofList :=
    congrArg _ (listed.cutNonEmpty_eq whole)
  rw [cut]
  constructor
  · intro mem
    obtain ⟨cs, piece, rfl⟩ := List.mem_map.1 mem
    obtain ⟨given, listed, rfl⟩ := List.mem_map.1 (List.mem_filter.1 piece).1
    rwa [String.ofList_toList]
  · intro mem
    apply List.mem_map.2
    refine ⟨name.toList, List.mem_filter.2 ⟨List.mem_map_of_mem mem, ?_⟩, String.ofList_toList⟩
    simpa using filled

/-- An object that flags names has the same names. -/
lemma sameNames_obj {flags : List (String × Json)}
    (flagged : ∀ name, (name, bool true) ∈ flags ↔ name ∈ names) :
    SameNames (obj flags).styleNames names := by
  intro name _
  rw [← flagged name, styleNames, List.mem_filterMap]
  constructor
  · rintro ⟨⟨key, value⟩, mem, given⟩
    split at given
    case h_1 on =>
      cases on
      cases given
      exact mem
    case h_2 => cases given
  · intro mem
    exact ⟨_, mem, rfl⟩

end Json

open Json FontStyles in
/-- Font styles are the same in each of the three shapes that names can be given in, and so is the
element: those styles are on of which some name is given, case and surrounding blanks aside. -/
theorem fontStyles_any_shape {names : List String}
    (whole : ∀ name ∈ names, ∀ c ∈ name.toList, isSeparator c = false) {text : String}
    (listed : Listed names text.toList) {flags : List (String × Json)}
    (flagged : ∀ name, (name, bool true) ∈ flags ↔ name ∈ names) {members : List (String × Json)}
    (ascending : Ascending members) (once : ¬Element.Respelled members) :
    ∃ e : Element,
      (∀ shape ∈ [arr (names.map str), str text, obj flags],
        Element.ofJson? (.obj (insertMember "fontStyles" shape members)) = .ok e) ∧
      ∀ styles ∈ e.fontStyles?,
        (styles.bold = true ↔ ∃ name ∈ names, normalizedName name ∈ boldNames) ∧
        (styles.italic = true ↔ ∃ name ∈ names, normalizedName name ∈ italicNames) ∧
        (styles.underline = true ↔ ∃ name ∈ names, normalizedName name ∈ underlineNames) := by
  -- each shape adds the given names to no styles, in some order and perhaps more than once
  have read : ∀ shape ∈ [arr (names.map str), str text, obj flags],
      shape.fontStyles = FontStyles.plain.adding names := by
    intro shape mem
    simp only [List.mem_cons, List.not_mem_nil, or_false] at mem
    rw [fontStyles_eq_adding]
    rcases mem with rfl | rfl | rfl
    · rw [styleNames_arr]
    · exact adding_congr (sameNames_str listed whole) .plain
    · exact adding_congr (sameNames_obj flagged) .plain
  have given := read (arr (names.map str)) List.mem_cons_self
  have set := Element.ofJson?_setField ascending once (k := .fontStyles) (by decide) (by decide)
  refine ⟨Element.ofFields (Function.update (Element.othersOf .fontStyles members) .fontStyles
    (arr (names.map str))), ?_, ?_⟩
  · intro shape mem
    have alike : ElementField.fontStyles.reading.Alike shape (arr (names.map str)) := by
      show shape.fontStyles = (arr (names.map str)).fontStyles
      rw [read shape mem, given]
    rw [← Element.ofFields_update_congr _ alike]
    exact set shape
  · intro styles mem
    rw [Element.eq_of_mem_fontStyles? _ styles mem, Function.update_self, given]
    exact ⟨named_iff, named_iff, named_iff⟩

/-- Names of font styles, with one that is not known and one that is repeated. -/
def mixedNames : List String :=
  ["\tBold", "blink", "EM", "blink"]

/-- The names in one string, between separators of both kinds. -/
def mixedText : String :=
  "\tBold, blink,EM  blink"

/-- The names as keys that are true, with one that is not, and one that is something else. -/
def mixedFlags : List (String × Json) :=
  [("\tBold", .bool true), ("EM", .bool true), ("blink", .bool true), ("underline", .str "true")]

open Json FontStyles in
/-- Two styles are turned on by each of the three shapes; a name that is not known changes nothing.
-/
theorem fontStyles_mixedNames :
    (∀ name ∈ mixedNames, ∀ c ∈ name.toList, isSeparator c = false) ∧
    Listed mixedNames mixedText.toList ∧
    (∀ name, (name, bool true) ∈ mixedFlags ↔ name ∈ mixedNames) ∧
    Ascending [("content", str "x")] ∧ ¬Element.Respelled [("content", str "x")] ∧
    ∃ e : Element,
      (∀ shape ∈ [arr (mixedNames.map str), str mixedText, obj mixedFlags],
        Element.ofJson? (.obj [("content", str "x"), ("fontStyles", shape)]) = .ok e) ∧
      e.fontStyles? = some ⟨true, true, false⟩ := by
  have whole : ∀ name ∈ mixedNames, ∀ c ∈ name.toList, isSeparator c = false := by decide
  have listed : Listed mixedNames mixedText.toList :=
    .cons [',', ' '] (by decide) (by decide)
      (.cons [','] (by decide) (by decide)
        (.cons [' ', ' '] (by decide) (by decide) (.single "blink")))
  have flagged : ∀ name, (name, bool true) ∈ mixedFlags ↔ name ∈ mixedNames := by
    intro name
    simp [mixedFlags, mixedNames]
    tauto
  have ascending : Ascending [("content", str "x")] := by decide
  have once : ¬Element.Respelled [("content", str "x")] := by decide
  obtain ⟨e, read, -⟩ := fontStyles_any_shape whole listed flagged ascending once
  refine ⟨whole, listed, flagged, ascending, once, e, read, ?_⟩
  obtain ⟨-, rfl⟩ := Element.ofJson?_eq_ok_iff.1 (read _ List.mem_cons_self)
  rfl

end EmailTemplate
