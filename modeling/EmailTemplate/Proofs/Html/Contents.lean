import EmailTemplate.Proofs.Html.Decode
import EmailTemplate.Proofs.Html.Run
import EmailTemplate.Proofs.Html.Skeleton
import Mathlib.Data.List.Induction

/-!
# The contents of markup

What a reader takes from markup are tags with the values of their attributes, and the characters of
the texts between them, references resolved. The main statement, `contents_write`, is that the
contents of written markup are the effects of the steps, however these are ordered; which step has
an effect is told by the steps around it alone (`effects`, `tagPending`), not by a writer.
-/

namespace EmailTemplate.Markup
open EmailTemplate.Html

/-- A part of the contents of markup. -/
inductive Item where
  | char (c : Char)
  | startTag (name : List Char) (attrs : List (List Char × List Char)) (closesItself : Bool)
  | endTag (name : List Char)
  /-- Markup that is no tag of an element, or an end tag with attributes. -/
  | other (t : Token)
  deriving DecidableEq, Repr

/-- The name of an attribute, and the text that its value stands for. -/
def Attribute.pair (a : Attribute) : List Char × List Char :=
  (a.name, decodeRefs (unquoted a.value))

/-- What a reader takes from a start tag. -/
def StartTag.item (t : StartTag) : Item :=
  .startTag t.name (t.attrs.map Attribute.pair) t.closesItself

/-- What a reader takes from a token. -/
def Token.item : Token → Item
  | char c => .char c
  | startTag t => t.item
  | endTag t => if t.attrs.isEmpty then .endTag t.name else .other (endTag t)
  | t => .other t

/-- The contents of tokens behind characters of a text. -/
def contentsBehind (text : List Char) : List Token → List Item
  | [] => (decodeRefs text).map .char
  | .char c :: ts => contentsBehind (text ++ [c]) ts
  | t :: ts => (decodeRefs text).map .char ++ t.item :: contentsBehind [] ts

/-- The contents of markup that was read as tokens. -/
def contents (ts : List Token) : List Item :=
  contentsBehind [] ts

/-- A tag ends the run of characters before it, whose references are resolved. -/
lemma contentsBehind_cons {t : Token} (tag : ∀ c, t ≠ .char c) (text : List Char)
    (ts : List Token) : contentsBehind text (t :: ts) =
      (decodeRefs text).map .char ++ t.item :: contents ts := by
  cases t with
  | char c => exact absurd rfl (tag c)
  | _ => rfl

/-- A tag with no text before it is the first of the contents. -/
lemma contents_cons {t : Token} (tag : ∀ c, t ≠ .char c) (ts : List Token) :
    contents (t :: ts) = t.item :: contents ts := by
  rw [contents, contentsBehind_cons tag, decodeRefs]
  rfl

/-- Markup without tokens has no contents. -/
lemma contents_nil : contents [] = [] := by
  rw [contents, contentsBehind, decodeRefs]
  rfl

/-- Characters are put behind those of the run that they go on with. -/
lemma contentsBehind_chars (text cs : List Char) (ts : List Token) :
    contentsBehind text (cs.map .char ++ ts) = contentsBehind (text ++ cs) ts := by
  induction cs generalizing text with
  | nil => rw [List.map_nil, List.nil_append, List.append_nil]
  | cons c cs ih =>
    rw [List.map_cons, List.cons_append, contentsBehind, ih, List.append_assoc,
      List.singleton_append]

/-- An escaped text in front of a run is read by itself. -/
lemma contentsBehind_escape (s : String) (text : List Char) (ts : List Token) :
    contentsBehind ((escape s).toList ++ text) ts =
      s.toList.map .char ++ contentsBehind text ts := by
  induction ts generalizing text with
  | nil => rw [contentsBehind, contentsBehind, decodeRefs_escape, List.map_append]
  | cons t ts ih =>
    by_cases char : ∃ c, t = .char c
    · obtain ⟨c, rfl⟩ := char
      rw [contentsBehind, contentsBehind, List.append_assoc]
      exact ih (text ++ [c])
    · have tag : ∀ c, t ≠ .char c := fun c e => char ⟨c, e⟩
      rw [contentsBehind_cons tag, contentsBehind_cons tag, decodeRefs_escape, List.map_append,
        List.append_assoc]

/-- Tokens whose contents do not depend on what follows. -/
def Yields (ts : List Token) (items : List Item) : Prop :=
  ∀ next, contents (ts ++ next) = items ++ contents next

namespace Yields

/-- Nothing has no contents. -/
lemma nil : Yields [] [] :=
  fun _ => rfl

/-- Contents are put together like the tokens that they come from. -/
lemma append {a b x y} (ha : Yields a x) (hb : Yields b y) : Yields (a ++ b) (x ++ y) := by
  intro next
  rw [List.append_assoc, ha, hb, List.append_assoc]

/-- What does not depend on what follows does not depend on there being nothing either. -/
lemma contents_eq {ts items} (h : Yields ts items) : contents ts = items := by
  have h := h []
  rwa [List.append_nil, contents_nil, List.append_nil] at h

/-- A tag has its own contents, whatever follows. -/
lemma tag {t : Token} (tag : ∀ c, t ≠ .char c) : Yields [t] [t.item] :=
  fun next => contents_cons tag next

/-- An escaped text has its own characters for contents, whatever follows: no reference in it is
left open. -/
lemma text (s : String) : Yields ((escape s).toList.map .char) (s.toList.map .char) := by
  intro next
  have run := contentsBehind_escape s [] next
  rw [List.append_nil] at run
  rw [contents, contentsBehind_chars, List.nil_append, run]
  rfl

end Yields

end EmailTemplate.Markup

namespace EmailTemplate.Html
open Html.Step Markup

/-- A step that gives a tag attributes, if one is pending. -/
def Step.givesAttr : Step → Bool
  | attr _ _ | style _ => true
  | _ => false

/-- A step that has an effect on a pending tag only. -/
def Step.needsTag : Step → Bool
  | attr _ _ | style _ | finishSelfClosing => true
  | _ => false

/-- The attributes given to a tag that was opened right before some steps. -/
def givenAttrs (steps : List Step) : List (List Char × List Char) :=
  (steps.takeWhile Step.givesAttr).filterMap fun s =>
    s.attr?.map fun (key, value) => (key.toList, value.toList)

/-- Whether a tag that was opened right before some steps is finished as an empty element. -/
def finishedEmpty (steps : List Step) : Bool :=
  (steps.dropWhile Step.givesAttr).head? == some finishSelfClosing

/-- An attribute step comes first among those that the tag is given. -/
lemma givenAttrs_cons {s : Step} (gives : s.givesAttr = true) (steps : List Step) :
    givenAttrs (s :: steps) =
      (s.attr?.map fun (key, value) => (key.toList, value.toList)).toList ++ givenAttrs steps := by
  rw [givenAttrs, List.takeWhile_cons_of_pos gives, List.filterMap_cons]
  cases s.attr? <;> rfl

/-- An attribute does not decide whether the tag is closed as empty. -/
lemma finishedEmpty_cons {s : Step} (gives : s.givesAttr = true) (steps : List Step) :
    finishedEmpty (s :: steps) = finishedEmpty steps := by
  rw [finishedEmpty, List.dropWhile_cons_of_pos gives, finishedEmpty]

/-- What steps have an effect, and which: a tag has the attributes of the steps right behind the one
that opens it, and every other step for an attribute goes without any. -/
def effects : List Step → List Item
  | [] => []
  | startTag name :: steps =>
    .startTag name.toList (givenAttrs steps) (finishedEmpty steps) :: effects steps
  | endTag name :: steps => .endTag name.toList :: effects steps
  | text s :: steps | verbatim s :: steps => s.toList.map .char ++ effects steps
  | attr _ _ :: steps | style _ :: steps | finishTag :: steps | finishSelfClosing :: steps =>
    effects steps

/-- Whether the last step, those for attributes aside, opens a tag. -/
def tagPending (steps : List Step) : Bool :=
  match steps.reverse.dropWhile Step.givesAttr with
  | startTag _ :: _ => true
  | _ => false

/-- A step whose names are made of ASCII letters and digits, with hyphens in the names of
attributes, and that writes no markup as it is but a line break. -/
def Step.Plain : Step → Prop
  | startTag name | endTag name =>
    startsWithLetter name.toList = true ∧ ∀ c ∈ name.toList, c.isAlphanum = true
  | attr key _ =>
    startsWithLetter key.toList = true ∧ ∀ c ∈ key.toList, c.isAlphanum = true ∨ c = '-'
  | verbatim markup => markup = "\n"
  | style _ | finishTag | finishSelfClosing | text _ => True

instance : DecidablePred Step.Plain
  | startTag name | endTag name =>
    inferInstanceAs
      (Decidable (startsWithLetter name.toList = true ∧ ∀ c ∈ name.toList, c.isAlphanum = true))
  | attr key _ =>
    inferInstanceAs (Decidable
      (startsWithLetter key.toList = true ∧ ∀ c ∈ key.toList, c.isAlphanum = true ∨ c = '-'))
  | verbatim markup => inferInstanceAs (Decidable (markup = "\n"))
  | style _ | finishTag | finishSelfClosing | text _ => isTrue trivial

/-- Letters and digits go on with the name of an attribute. -/
lemma isNameChar_of_isAlphanum {c : Char} (h : c.isAlphanum = true) : isNameChar c = true := by
  have ne (d : Char) (hd : d.isAlphanum = false) : c ≠ d := by
    intro e
    rw [e, hd] at h
    exact absurd h Bool.false_ne_true
  simp [isNameChar, isTagSpace, ne ' ' rfl, ne '\t' rfl, ne '\n' rfl, ne '\x0c' rfl, ne '\r' rfl,
    ne '/' rfl, ne '>' rfl, ne '=' rfl]

/-- Names of letters and digits are names for the reader too. -/
lemma Step.Plain.lexical {s : Step} (h : s.Plain) : s.Lexical := by
  have name {cs : List Char} (proper : startsWithLetter cs = true ∧ ∀ c ∈ cs, c.isAlphanum = true) :
      TagName cs := by
    refine ⟨proper.1, fun c hc => ?_⟩
    have inner := isNameChar_of_isAlphanum (proper.2 c hc)
    simp only [isNameChar, Bool.and_eq_true] at inner
    simp only [isTagNameChar, inner, Bool.and_self]
  cases s with
  | startTag _ => exact name h
  | endTag _ => exact name h
  | attr key value =>
    obtain ⟨letter, chars⟩ := h
    show AttrName key.toList
    cases e : key.toList with
    | nil => simp [e, startsWithLetter] at letter
    | cons c cs =>
      rw [e] at letter chars
      have first : isTagNameChar c = true := isTagNameChar_of_isAlpha letter
      simp only [isTagNameChar, Bool.and_eq_true, Bool.not_eq_true', bne_iff_ne] at first
      refine ⟨c, cs, rfl, by simp [isGap, first], first.2, fun d hd => ?_⟩
      rcases chars d (List.mem_cons_of_mem c hd) with alphanum | rfl
      · exact isNameChar_of_isAlphanum alphanum
      · rfl
  | verbatim markup =>
    obtain rfl : markup = "\n" := h
    show ∀ t ∈ tokens "\n".toList, t.Closed
    rw [tokens_of_notMem (by decide)]
    exact closed_chars (by decide)
  | _ => trivial

/-- A quoted attribute is read with the value that was asked for. -/
lemma pair_quoted (key value : String) : (quoted key value).pair = (key.toList, value.toList) := by
  have decoded := decodeRefs_escape value []
  rw [decodeRefs, List.append_nil, List.append_nil] at decoded
  simp [Attribute.pair, quoted, unquoted, isQuote, decoded]

/-- The contents of what steps write behind a draft whose pending tag they go on with. -/
def itemsBehind : Option StartTag → List Step → List Item
  | none, steps => effects steps
  | some t, steps =>
    .startTag t.name (t.attrs.map Attribute.pair ++ givenAttrs steps) (finishedEmpty steps) ::
      effects steps

/-- A pending tag is finished by a step that is not about it. -/
lemma itemsBehind_cons {tag : Option StartTag} (tail : ∀ t ∈ tag, t.tail = []) {s : Step}
    (aside : s.needsTag = false) (steps : List Step) :
    itemsBehind tag (s :: steps) = (tag.map StartTag.item).toList ++ effects (s :: steps) := by
  cases tag with
  | none => rfl
  | some t =>
    have tail : t.closesItself = false := by simp [StartTag.closesItself, tail t rfl]
    have none : givenAttrs (s :: steps) = [] ∧ finishedEmpty (s :: steps) = false := by
      cases s with
      | attr _ _ | style _ | finishSelfClosing => cases aside
      | _ => exact ⟨rfl, rfl⟩
    simp [itemsBehind, none, StartTag.item, tail]

/-- An attribute is given to a pending tag. -/
lemma itemsBehind_putAttr (d : Draft) {s : Step} {key value : String} (gives : s.givesAttr = true)
    (given : s.attr? = some (key, value)) (steps : List Step) :
    itemsBehind (d.putAttr key value).tag steps = itemsBehind d.tag (s :: steps) := by
  have without : effects (s :: steps) = effects steps := by
    cases s with
    | attr _ _ | style _ => rfl
    | _ => cases given
  cases h : d.tag with
  | none => simp [Draft.putAttr, h, itemsBehind, without]
  | some t =>
    simp [Draft.putAttr, h, itemsBehind, without, givenAttrs_cons gives, finishedEmpty_cons gives,
      given, pair_quoted]

/-- The contents of what steps write behind a draft. -/
def Draft.Writes (d : Draft) (steps : List Step) (items : List Item) : Prop :=
  ∃ ts, (d.run steps).finished = d.tokens ++ ts ∧ Yields ts items

/-- A step that finishes the pending tag writes that tag, then what it yields, and the other steps
theirs. -/
lemma Draft.Writes.cons {d : Draft} {s steps ts items rest} (h : (d.step s).Writes steps rest)
    (tail : ∀ t ∈ d.tag, t.tail = []) (aside : s.needsTag = false)
    (tokens : (d.step s).tokens = d.finished ++ ts) (yields : Yields ts items)
    (effect : effects (s :: steps) = items ++ rest) :
    d.Writes (s :: steps) (itemsBehind d.tag (s :: steps)) := by
  obtain ⟨us, run, yieldsRest⟩ := h
  have tag : Yields (d.tag.map Token.startTag).toList (d.tag.map StartTag.item).toList := by
    cases d.tag with
    | none => exact .nil
    | some t => exact .tag (by simp)
  rw [itemsBehind_cons tail aside, effect]
  refine ⟨_, ?_, tag.append (yields.append yieldsRest)⟩
  rw [Draft.run_cons, run, tokens, Draft.finished, List.append_assoc, List.append_assoc]

/-- A style without declarations gives nothing. -/
lemma itemsBehind_style {decls : Style} (none : decls.isEmpty = true) (tag : Option StartTag)
    (steps : List Step) : itemsBehind tag (style decls :: steps) = itemsBehind tag steps := by
  cases tag with
  | none => rfl
  | some t =>
    have given : (style decls).attr? = Option.none := if_pos none
    rw [itemsBehind, itemsBehind, givenAttrs_cons rfl, finishedEmpty_cons rfl, given]
    rfl

/-- Giving a tag an attribute does not close it. -/
lemma tail_putAttr {d : Draft} (tail : ∀ t ∈ d.tag, t.tail = []) (key value : String) :
    ∀ t ∈ (d.putAttr key value).tag, t.tail = [] := by
  intro t ht
  obtain ⟨u, hu, rfl⟩ := Option.map_eq_some_iff.1 ht
  exact tail u hu

/-- Behind every draft, what steps write is read as their effects. -/
lemma Draft.writes {steps : List Step} (breaks : ∀ m, verbatim m ∈ steps → m = "\n") (d : Draft)
    (tail : ∀ t ∈ d.tag, t.tail = []) : d.Writes steps (itemsBehind d.tag steps) := by
  induction steps generalizing d with
  | nil =>
    refine ⟨(d.tag.map Token.startTag).toList, rfl, ?_⟩
    cases h : d.tag with
    | none => exact .nil
    | some t =>
      have item : itemsBehind (some t) [] = [t.item] := by
        simp [itemsBehind, givenAttrs, finishedEmpty, effects, StartTag.item,
          StartTag.closesItself, tail t h]
      rw [item]
      exact .tag (by simp)
  | cons s steps ih =>
    have ih := ih fun m hm => breaks m (List.mem_cons_of_mem s hm)
    cases s with
    | startTag name =>
      have rest := ih (d.step (startTag name)) (by simp [Draft.step])
      exact rest.cons tail rfl (List.append_nil _).symm .nil rfl
    | attr key value =>
      rw [← itemsBehind_putAttr d rfl rfl]
      exact ih (d.putAttr key value) (tail_putAttr tail key value)
    | style decls =>
      cases none : decls.isEmpty with
      | true =>
        rw [itemsBehind_style none, Draft.Writes, Draft.run_cons, Draft.step, if_pos none]
        exact ih d tail
      | false =>
        have given : (style decls).attr? = some ("style", Style.css decls) := by
          rw [Step.attr?, if_neg (by simp [none])]
        rw [← itemsBehind_putAttr d rfl given, Draft.Writes, Draft.run_cons, Draft.step,
          if_neg (by simp [none])]
        exact ih (d.putAttr _ _) (tail_putAttr tail _ _)
    | finishTag =>
      have rest := ih (d.step finishTag) (by simp [Draft.step, Draft.put])
      exact rest.cons tail rfl rfl .nil rfl
    | finishSelfClosing =>
      obtain ⟨us, run, yields⟩ := ih (d.step finishSelfClosing) (by simp [Draft.step])
      refine ⟨_, run.trans (List.append_assoc _ _ _), ?_⟩
      cases d.tag with
      | none => exact yields
      | some t =>
        have item : itemsBehind (some t) (finishSelfClosing :: steps) =
            StartTag.item { t with tail := [' ', '/'] } :: effects steps := by
          simp [itemsBehind, effects, StartTag.item, StartTag.closesItself, givenAttrs,
            finishedEmpty, Step.givesAttr]
        have tag := Yields.tag (t := .startTag { t with tail := [' ', '/'] }) (by simp)
        rw [item]
        exact tag.append yields
    | endTag name =>
      have rest := ih (d.step (endTag name)) (by simp [Draft.step, Draft.put])
      exact rest.cons tail rfl rfl (.tag (by simp)) rfl
    | text content =>
      have rest := ih (d.step (text content)) (by simp [Draft.step, Draft.put])
      exact rest.cons tail rfl rfl (.text content) rfl
    | verbatim markup =>
      obtain rfl : markup = "\n" := breaks markup List.mem_cons_self
      have rest := ih (d.step (verbatim "\n")) (by simp [Draft.step, Draft.put])
      -- a line break is written as it would be as a text
      have same : Markup.tokens "\n".toList = (escape "\n").toList.map .char := by
        rw [tokens_of_notMem (by decide), escape, String.toList_ofList]
        rfl
      have yields := Yields.text "\n"
      rw [← same] at yields
      exact rest.cons tail rfl rfl yields rfl

/-- A writer waits for the rest of a tag where its steps left one pending. -/
lemma tagOpen_run (steps : List Step) :
    (Writer.empty.run steps).tagOpen = tagPending steps := by
  induction steps using List.reverseRecOn with
  | nil => rfl
  | append_singleton steps s ih =>
    have attr (key value : String) :
        ((Writer.empty.run steps).putAttr key value).tagOpen = tagPending steps := by
      rw [Writer.putAttr, ← ih]
      split <;> rfl
    rw [Writer.run_append, Writer.run_cons, Writer.run_nil, tagPending, List.reverse_append,
      List.reverse_singleton, List.singleton_append]
    cases s with
    | attr key value => exact attr key value
    | style decls =>
      rw [Writer.step, List.dropWhile_cons_of_pos rfl]
      split
      case isTrue => exact ih
      case isFalse => exact attr "style" _
    | finishSelfClosing =>
      rw [Writer.step]
      split
      case isTrue => rfl
      case isFalse closed =>
        show (Writer.empty.run steps).tagOpen = false
        simpa using closed
    | _ => rfl

/-- A step that needs a pending tag, and finds none, is as good as none. -/
lemma run_stray {before s after} (needs : Step.needsTag s = true)
    (none : tagPending before = false) :
    Writer.empty.run (before ++ s :: after) = Writer.empty.run (before ++ after) := by
  have closed : (Writer.empty.run before).tagOpen = false := (tagOpen_run before).trans none
  have same : (Writer.empty.run before).step s = Writer.empty.run before := by
    cases s with
    | attr key value => exact if_neg (by simp [closed])
    | style decls =>
      rw [Writer.step]
      split
      case isTrue => rfl
      case isFalse => exact if_neg (by simp [closed])
    | finishSelfClosing => exact if_neg (by simp [closed])
    | _ => cases needs
  rw [Writer.run_append, Writer.run_cons, same, Writer.run_append]

/-- What steps write, in any order, is read as their effects: the tags with the attributes given to
them, and the texts between. A step for a pending tag where none is pending changes nothing. -/
theorem contents_write {steps : List Step} (plain : ∀ s ∈ steps, s.Plain) :
    contents (tokens (write steps).toList) = effects steps ∧
    ∀ before s after, steps = before ++ s :: after → s.needsTag = true →
      tagPending before = false →
        Writer.empty.run steps = Writer.empty.run (before ++ after) := by
  constructor
  · have breaks : ∀ m, verbatim m ∈ steps → m = "\n" := fun m hm => plain _ hm
    obtain ⟨ts, run, yields⟩ := Draft.writes breaks .empty (by simp [Draft.empty])
    rw [tokens_write fun s hs => (plain s hs).lexical, outline, run]
    exact yields.contents_eq
  · intro before s after e needs none
    rw [e]
    exact run_stray needs none

/-- Steps of which the first and the fifth find no pending tag. -/
def straySteps : List Step :=
  [attr "class" "late", startTag "a1", attr "data-x" "\"&lt;'", finishSelfClosing,
    finishSelfClosing, text "1 < 2", newline, text "&amp;", endTag "a1"]

/-- The stray steps leave no trace, and what was escaped is read as it was given. -/
theorem contents_write_straySteps :
    (∀ s ∈ straySteps, s.Plain) ∧
    contents (tokens (write straySteps).toList) =
      .startTag "a1".toList [("data-x".toList, "\"&lt;'".toList)] true ::
        ("1 < 2\n&amp;".toList.map Item.char ++ [.endTag "a1".toList]) ∧
    Writer.empty.run straySteps = Writer.empty.run straySteps.tail := by
  have plain : ∀ s ∈ straySteps, s.Plain := by decide
  refine ⟨plain, (contents_write plain).1, ?_⟩
  exact (contents_write plain).2 [] _ _ rfl rfl rfl

end EmailTemplate.Html
