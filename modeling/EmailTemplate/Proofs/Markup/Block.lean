import EmailTemplate.Markup.Sanitize
import EmailTemplate.Proofs.Markup.Pieces
import EmailTemplate.Proofs.Markup.Replaced
import EmailTemplate.Proofs.Markup.Stripping
import EmailTemplate.Proofs.Text.Name

/-!
# Elements that disappear with their contents

A `Block` is a forbidden element as an author writes it, from its start tag to its own end tag.
Three kinds of element are erased one after another, each over the whole markup, and passes are
repeated; a block is nevertheless taken out exactly from its start to its end. The main statement
is `sanitize_block`: what stands in front of the block stays as it is, and what stands behind it is
sanitized as if it stood alone.
-/

namespace EmailTemplate.Markup
open EmailTemplate.Text

/-- The elements that are removed with their contents. -/
def blockNames : List String :=
  ["head", "style", "script"]

/-- No `<` or `</` is directly followed by the name of an element that is removed with its
contents. Names are compared by `foldCase`, as `strip` compares them: letters of either case spell a
name, and a long s counts as an s. -/
def Nameless (cs : List Char) : Prop :=
  ∀ name ∈ blockNames, ∀ rest, '<' :: rest <:+ cs ∨ '<' :: '/' :: rest <:+ cs →
    afterName? name.toList rest = none

instance (cs : List Char) : Decidable (Nameless cs) :=
  decidable_of_iff (∀ name ∈ blockNames, ∀ rest ∈ cs.tails,
      '<' :: rest <:+ cs ∨ '<' :: '/' :: rest <:+ cs → afterName? name.toList rest = none) <| by
    have inside {rest : List Char} (h : '<' :: rest <:+ cs ∨ '<' :: '/' :: rest <:+ cs) :
        rest <:+ cs := by
      rcases h with h | h
      · exact (List.suffix_cons _ _).trans h
      · exact ((List.suffix_cons _ _).trans (List.suffix_cons _ _)).trans h
    constructor
    · intro none name mem rest begins
      exact none name mem rest ((List.mem_tails rest cs).2 (inside begins)) begins
    · intro none name mem rest _
      exact none name mem rest

/-- An element that is removed with its contents, as it is written. Its start tag and its end tag
spell the name in their own ways, each up to `foldCase`, so that a long s counts as an s in both, as
it does in the contents. -/
structure Block where
  name : String
  /-- The name as the start tag spells it. -/
  opener : List Char
  /-- What stands between the name and the bracket of the start tag. -/
  attrs : List Char
  contents : List Char
  /-- The name as the end tag spells it. -/
  closer : List Char
  /-- The blanks between the name and the bracket of the end tag. -/
  gap : List Char
  name_mem : name ∈ blockNames
  opener_spells : opener.map foldCase = name.toList
  attrs_stop : Stops isWordChar attrs
  attrs_plain : '<' ∉ attrs ∧ '>' ∉ attrs
  contents_nameless : Nameless contents
  closer_spells : closer.map foldCase = name.toList
  gap_blank : ∀ c ∈ gap, isBlank c = true

/-- What is nameless stays so when a character is taken off its front. -/
lemma Nameless.of_cons {c : Char} {cs : List Char} (h : Nameless (c :: cs)) : Nameless cs := by
  intro name mem rest begins
  apply h name mem rest
  exact begins.imp (·.trans (List.suffix_cons c cs)) (·.trans (List.suffix_cons c cs))

/-- What spells one of the names spells no other. -/
lemma afterName?_of_spells {name other : String} {spelling : List Char}
    (mem : name ∈ blockNames) (memOther : other ∈ blockNames) (ne : other ≠ name)
    (spells : spelling.map foldCase = name.toList) (rest : List Char) :
    afterName? other.toList (spelling ++ rest) = none := by
  have apart : ∀ a ∈ blockNames, ∀ b ∈ blockNames, a.toList <+: b.toList → a = b := by decide
  rw [Option.eq_none_iff_forall_ne_some]
  intro after found
  obtain ⟨spelling', spells', whole⟩ := afterName?_eq_some_iff.1 found
  have begins : spelling' <+: spelling ++ rest := ⟨after, whole⟩
  rcases List.prefix_or_prefix_of_prefix begins (List.prefix_append spelling rest) with h | h
  · apply ne (apart other memOther name mem _)
    rw [← spells', ← spells]
    exact h.map foldCase
  · apply ne (apart name mem other memOther _).symm
    rw [← spells', ← spells]
    exact h.map foldCase

/-- What spells the name of an element has no `<` in it. -/
lemma tag_notMem_of_spells {name : String} {spelling : List Char} (mem : name ∈ blockNames)
    (spells : spelling.map foldCase = name.toList) : '<' ∉ spelling := by
  have plain : ∀ name ∈ blockNames, '<' ∉ name.toList := by decide
  intro tag
  apply plain name mem
  rw [← spells]
  exact List.mem_map.2 ⟨'<', tag, rfl⟩

/-- An element opens only where its name stands. -/
lemma after?_element_eq_none {name : String} {cs : List Char}
    (none : afterName? name.toList cs = none) : (element name).after? cs = Option.none := by
  change (afterToken? [name.toList] cs).map _ = Option.none
  rw [afterToken?, List.findSome?_cons, none]
  rfl

namespace Block

/-- The start tag of a block, as it is written. -/
def startTag (b : Block) : List Char :=
  '<' :: (b.opener ++ b.attrs ++ ['>'])

/-- The end tag of a block, as it is written. -/
def endTag (b : Block) : List Char :=
  '<' :: '/' :: (b.closer ++ b.gap ++ ['>'])

/-- The characters of a block. -/
def text (b : Block) : List Char :=
  b.startTag ++ (b.contents ++ b.endTag)

variable (b : Block)

/-- Only blanks stand between the name and the bracket of the end tag. -/
lemma gap_notMem {c : Char} (solid : isBlank c = false) : c ∉ b.gap := by
  intro mem
  rw [b.gap_blank c mem] at solid
  cases solid

/-- A name does not reach into the end tag. -/
lemma afterName?_append_endTag {name : String} (mem : name ∈ blockNames) {cs : List Char}
    (none : afterName? name.toList cs = none) (rest : List Char) :
    afterName? name.toList (cs ++ b.endTag ++ rest) = Option.none := by
  have plain : ∀ name ∈ blockNames, '<' ∉ name.toList := by decide
  have text : cs ++ b.endTag ++ rest =
      cs ++ '<' :: ('/' :: (b.closer ++ b.gap ++ ['>']) ++ rest) := by
    rw [List.append_assoc]
    rfl
  rw [Option.eq_none_iff_forall_ne_some, text]
  intro after found
  obtain ⟨after', inside, -⟩ := afterName?_append_cons (plain name mem) rfl _ found
  rw [none] at inside
  cases inside

/-! ### The end of a block -/

/-- The end tag of a block is found where it stands, up to its bracket. -/
lemma afterEndTag?_endTag (rest : List Char) :
    afterEndTag? b.name.toList (b.endTag ++ rest) = some rest := by
  have found : afterName? b.name.toList (b.closer ++ (b.gap ++ '>' :: rest)) =
      some (b.gap ++ '>' :: rest) :=
    afterName?_eq_some_iff.2 ⟨b.closer, b.closer_spells, rfl⟩
  have stop : Stops isBlank ('>' :: rest) := stops_cons.2 rfl
  have text : b.endTag ++ rest = '<' :: '/' :: (b.closer ++ (b.gap ++ '>' :: rest)) := by
    simp [endTag]
  rw [text, afterEndTag?, found, Option.bind_some, dropWhile_append_stops b.gap_blank stop]
  rfl

/-- Within the contents no end tag begins that would end the block. -/
lemma afterEndTag?_contents {c : Char} {cs : List Char} (nameless : Nameless (c :: cs))
    (rest : List Char) : afterEndTag? b.name.toList (c :: (cs ++ b.endTag ++ rest)) = none := by
  unfold afterEndTag?
  split
  case h_1 _ begins =>
    obtain ⟨rfl, second⟩ := List.cons.inj begins
    cases cs with
    | nil => cases second
    | cons d cs =>
      obtain ⟨rfl, rfl⟩ := List.cons.inj second
      have none := nameless b.name b.name_mem cs (.inr List.suffix_rfl)
      exact congrArg (Option.bind · _) (b.afterName?_append_endTag b.name_mem none rest)
  case h_2 => rfl

/-- The contents of a block end with its end tag. -/
lemma afterContents_append {cs : List Char} (nameless : Nameless cs) (rest : List Char) :
    afterContents b.name.toList (cs ++ b.endTag ++ rest) = rest := by
  induction cs with
  | nil =>
    have ended := b.afterEndTag?_endTag rest
    rw [List.nil_append]
    change (afterEndTag? b.name.toList (b.endTag ++ rest)).getD _ = rest
    rw [ended, Option.getD_some]
  | cons c cs ih =>
    rw [List.cons_append, List.cons_append, afterContents, b.afterEndTag?_contents nameless,
      Option.getD_none, ih nameless.of_cons]

/-- An element of its name begins with a block and ends with it. -/
lemma after?_element (rest : List Char) :
    (element b.name).after? (b.opener ++ b.attrs ++ '>' :: (b.contents ++ b.endTag ++ rest)) =
      some rest := by
  have found : afterName? b.name.toList
      (b.opener ++ (b.attrs ++ '>' :: (b.contents ++ b.endTag ++ rest))) =
        some (b.attrs ++ '>' :: (b.contents ++ b.endTag ++ rest)) :=
    afterName?_eq_some_iff.2 ⟨b.opener, b.opener_spells, rfl⟩
  have word : atWordEnd (b.attrs ++ '>' :: (b.contents ++ b.endTag ++ rest)) = true := by
    have stop := b.attrs_stop
    cases h : b.attrs with
    | nil => rfl
    | cons c cs =>
      rw [h, stops_cons] at stop
      simp [atWordEnd, stop]
  change (afterToken? [b.name.toList] _).map _ = _
  rw [List.append_assoc, afterToken?, List.findSome?_cons, found, Option.bind_some, if_pos word,
    afterBracket?_append b.attrs_plain.2]
  exact congrArg some (b.afterContents_append b.contents_nameless rest)

/-! ### Erasing a block -/

/-- An element of another name opens nowhere in a block. -/
lemma noneOpens_text {name : String} (mem : name ∈ blockNames) (ne : name ≠ b.name)
    (rest : List Char) : (element name).NoneOpens b.text rest := by
  have startTag : (element name).NoneOpens b.startTag (b.contents ++ b.endTag ++ rest) := by
    rw [startTag, Construct.noneOpens_cons_iff]
    constructor
    · rintro -
      apply after?_element_eq_none
      rw [List.append_assoc, List.append_assoc]
      exact afterName?_of_spells b.name_mem mem ne b.opener_spells _
    · apply Construct.noneOpens_of_notMem
      have plain := tag_notMem_of_spells b.name_mem b.opener_spells
      simp [plain, b.attrs_plain.1]
  have contents : (element name).NoneOpens b.contents (b.endTag ++ rest) := by
    intro cs suffix
    apply after?_element_eq_none
    rw [← List.append_assoc]
    exact b.afterName?_append_endTag mem (b.contents_nameless name mem cs (.inl suffix)) rest
  have endTag : (element name).NoneOpens b.endTag rest := by
    rw [endTag, Construct.noneOpens_cons_iff]
    constructor
    · rintro -
      apply after?_element_eq_none
      simp only [blockNames, List.mem_cons, List.not_mem_nil, or_false] at mem
      rcases mem with rfl | rfl | rfl
      · rfl
      · rfl
      · rfl
    · apply Construct.noneOpens_of_notMem
      have plain := tag_notMem_of_spells b.name_mem b.closer_spells
      have solid := b.gap_notMem (c := '<') rfl
      simp [plain, solid]
  -- the three stretches of a block, each in front of what follows it
  exact startTag.append (contents.append endTag)

/-- A block is erased with its name's elements, and nothing goes with it. -/
lemma erase_element_text (rest : List Char) :
    (element b.name).erase (b.text ++ rest) = (element b.name).erase rest := by
  have text : b.text ++ rest =
      '<' :: (b.opener ++ b.attrs ++ '>' :: (b.contents ++ b.endTag ++ rest)) := by
    simp [text, startTag]
  rw [text, Construct.erase, Construct.replace_of_some (b.after?_element rest)]
  rfl

end Block

/-- Text without a `<` in front of markup stays out of what is erased. -/
lemma erase_append {front : List Char} (plain : '<' ∉ front) (p : Construct) (rest : List Char) :
    p.erase (front ++ rest) = front ++ p.erase rest :=
  Construct.replace_append (p.noneOpens_of_notMem plain rest)

/-- Text without a `<` stays in front through any number of erasures. -/
lemma foldl_erase_append {front : List Char} (plain : '<' ∉ front) (ps : List Construct)
    (rest : List Char) :
    ps.foldl (fun cs p => p.erase cs) (front ++ rest) =
      front ++ ps.foldl (fun cs p => p.erase cs) rest := by
  induction ps generalizing rest with
  | nil => rfl
  | cons p ps ih => rw [List.foldl_cons, List.foldl_cons, erase_append plain, ih]

/-- Erasing elements by one name after another takes a block out when its name comes. -/
lemma foldl_erase_block (b : Block) {front : List Char} (plain : '<' ∉ front)
    {names : List String} (sub : ∀ name ∈ names, name ∈ blockNames) (mem : b.name ∈ names)
    (rest : List Char) :
    (names.map element).foldl (fun cs p => p.erase cs) (front ++ (b.text ++ rest)) =
      front ++ (names.map element).foldl (fun cs p => p.erase cs) rest := by
  induction names generalizing rest with
  | nil => cases mem
  | cons name names ih =>
    rw [List.map_cons, List.foldl_cons, List.foldl_cons, erase_append plain]
    by_cases same : name = b.name
    · rw [same, b.erase_element_text, foldl_erase_append plain]
    · have other := b.noneOpens_text (sub name List.mem_cons_self) same rest
      have later : b.name ∈ names := (List.mem_cons.1 mem).resolve_left fun e => same e.symm
      rw [Construct.erase, Construct.replace_append other]
      exact ih (fun n hn => sub n (List.mem_cons_of_mem name hn)) later _

/-- A pass takes a block out and goes over the rest. -/
lemma stripPass_block (b : Block) {front : List Char} (plain : '<' ∉ front) (rest : List Char) :
    stripPass (front ++ (b.text ++ rest)) = front ++ stripPass rest := by
  have split : forbidden = blockNames.map element ++ forbidden.drop 3 := rfl
  rw [stripPass, stripPass, split, List.foldl_append, List.foldl_append,
    foldl_erase_block b plain (fun _ => id) b.name_mem, foldl_erase_append plain]

/-- The first pass is one of the passes. -/
lemma strip_stripPass (cs : List Char) : strip (stripPass cs) = strip cs := by
  rw [strip.eq_def cs]
  split
  case isTrue => rfl
  case isFalse long =>
    have same : stripPass cs = cs :=
      (stripPass_sublist cs).eq_of_length_le (Nat.le_of_not_lt long)
    rw [same, strip, if_neg (by rwa [same] at long ⊢), same]

/-- Text without a `<` stays in front through all passes. -/
lemma strip_append {front : List Char} (plain : '<' ∉ front) (rest : List Char) :
    strip (front ++ rest) = front ++ strip rest := by
  have pass (rest : List Char) : stripPass (front ++ rest) = front ++ stripPass rest :=
    foldl_erase_append plain forbidden rest
  fun_induction strip rest with
  | case1 rest shorter ih =>
    rw [strip, pass, if_pos, ih]
    rw [List.length_append, List.length_append]
    exact Nat.add_lt_add_left shorter _
  | case2 rest long =>
    rw [strip, pass, if_neg]
    rw [List.length_append, List.length_append]
    exact fun shorter => long (Nat.lt_of_add_lt_add_left shorter)

/-- Text without a `<` is in no start tag, and filtering leaves it. -/
lemma filterTags_append_plain {front : List Char} (plain : '<' ∉ front) (rest : List Char) :
    filterTags (front ++ rest) = front ++ filterTags rest := by
  induction front with
  | nil => rfl
  | cons c front ih =>
    rw [List.mem_cons, not_or] at plain
    obtain ⟨first, behind⟩ := plain
    have other : (c == '<') = false := beq_eq_false_iff_ne.2 (Ne.symm first)
    rw [List.cons_append, filterTags_char (by rw [other, Bool.false_and]), ih behind]
    rfl

/-- A block disappears from its start tag to its end tag. What stands in front of it without a `<`
is left as it is, and what stands behind it is sanitized as if it stood alone. -/
theorem sanitize_block (block : Block) {a : String} (plain : '<' ∉ a.toList) (b : String) :
    sanitize (a ++ String.ofList block.text ++ b) = a ++ sanitize b := by
  have stripped : strip (a.toList ++ (block.text ++ b.toList)) = a.toList ++ strip b.toList := by
    rw [← strip_stripPass, stripPass_block block plain, strip_append plain, strip_stripPass]
  have chars : (a ++ String.ofList block.text ++ b).toList =
      a.toList ++ (block.text ++ b.toList) := by
    rw [String.toList_append, String.toList_append, String.toList_ofList, List.append_assoc]
  rw [sanitize, sanitizeChars, chars, stripped, filterTags_append_plain plain,
    String.ofList_append, String.ofList_toList]
  rfl

/-- A script in capitals and small letters, with a blank in its end tag, whose text has tags and
brackets in it. -/
def mixedScript : Block where
  name := "script"
  opener := "ScRipt".toList
  attrs := " type=text/javascript".toList
  contents := "if (a</b/.x) write('<p></p><sty')<".toList
  closer := "SCRIPT".toList
  gap := " \n".toList
  name_mem := by decide
  opener_spells := by decide
  attrs_stop := by decide
  attrs_plain := by decide
  contents_nameless := by decide
  closer_spells := by decide
  gap_blank := by decide

/-- The script is gone; of what follows it, the handler and a stray end tag are. -/
theorem sanitize_mixedScript :
    '<' ∉ "2 > é ".toList ∧
    sanitize ("2 > é " ++ String.ofList mixedScript.text ++ "<p onclick=1>x</script>") =
      "2 > é <p>x" := by
  have plain : '<' ∉ "2 > é ".toList := by decide
  have rest : sanitize "<p onclick=1>x</script>" = "<p>x" := by decide +kernel
  have gone := sanitize_block mixedScript plain "<p onclick=1>x</script>"
  rw [rest] at gone
  exact ⟨plain, gone⟩

end EmailTemplate.Markup
