import EmailTemplate.Html.Writer
import EmailTemplate.Proofs.Html.Escape
import EmailTemplate.Proofs.Markup.Token

/-!
# What is written is read again

A `Draft` is a writer that keeps tokens instead of characters. It takes the same steps, in any
order, and what the writer has written is at every point the text of the draft's tokens
(`Draft.Reads`). The main statement, `tokens_write`, is that a reader of written markup finds the
tokens of the draft, if tags and attributes have proper names and markup that is written as it is
can be read by itself.
-/

namespace EmailTemplate.Html
open Markup Text

/-- Markup in the making, as tokens. -/
structure Draft where
  tokens : List Token
  /-- The tag that still takes attributes. -/
  tag : Option StartTag
  deriving DecidableEq, Repr

/-- An attribute as it is written. -/
def quoted (key value : String) : Attribute :=
  ⟨[' '], key.toList, ['='], '"' :: (escape value).toList ++ ['"']⟩

namespace Draft

/-- The draft before the first step. -/
def empty : Draft :=
  ⟨[], none⟩

/-- The tokens of a draft in which the open tag is closed. -/
def finished (d : Draft) : List Token :=
  d.tokens ++ (d.tag.map Token.startTag).toList

/-- The draft after tokens outside tags. -/
def put (d : Draft) (ts : List Token) : Draft :=
  ⟨d.finished ++ ts, none⟩

/-- The draft after an attribute of the open tag. -/
def putAttr (d : Draft) (key value : String) : Draft :=
  { d with tag := d.tag.map fun t => { t with attrs := t.attrs ++ [quoted key value] } }

/-- The draft after one step. -/
def step (d : Draft) : Step → Draft
  | .startTag name => ⟨d.finished, some ⟨name.toList, [], []⟩⟩
  | .attr key value => d.putAttr key value
  | .style decls => if decls.isEmpty then d else d.putAttr "style" (Style.css decls)
  | .finishTag => d.put []
  | .finishSelfClosing =>
    ⟨d.tokens ++ (d.tag.map fun t => .startTag { t with tail := [' ', '/'] }).toList, none⟩
  | .endTag name => d.put [.endTag ⟨name.toList, [], []⟩]
  | .text content => d.put ((escape content).toList.map .char)
  | .verbatim piece => d.put (Markup.tokens piece.toList)

/-- The draft after a list of steps. -/
def run (d : Draft) (steps : List Step) : Draft :=
  steps.foldl step d

/-- No step changes nothing. -/
@[simp] lemma run_nil {d : Draft} : d.run [] = d := rfl

/-- The first step is taken first. -/
@[simp] lemma run_cons {d : Draft} {s steps} : d.run (s :: steps) = (d.step s).run steps := rfl

/-- Steps are taken one list after the other. -/
@[simp] lemma run_append {d : Draft} {a b} : d.run (a ++ b) = (d.run a).run b := by
  simp [run]

end Draft

/-- The tokens that steps write. -/
def outline (steps : List Step) : List Token :=
  (Draft.empty.run steps).finished

/-- A name of a tag: a letter, and then what goes on with a name. -/
def TagName (name : List Char) : Prop :=
  startsWithLetter name = true ∧ ∀ c ∈ name, isTagNameChar c = true

instance : DecidablePred TagName := fun name =>
  inferInstanceAs (Decidable (startsWithLetter name = true ∧ ∀ c ∈ name, isTagNameChar c = true))

/-- A step whose tokens can be read again: names are names, and markup that is written as it is
leaves nothing open. -/
def Step.Lexical : Step → Prop
  | startTag name => TagName name.toList
  | attr key _ => AttrName key.toList
  | endTag name => TagName name.toList
  | verbatim piece => ∀ t ∈ tokens piece.toList, t.Closed
  | style _ | finishTag | finishSelfClosing | text _ => True

/-- An attribute with a proper name and a value in quotes. -/
def IsQuoted (a : Attribute) : Prop :=
  ∃ key value, AttrName key.toList ∧ a = quoted key value

/-- A tag that a writer leaves open, with the attributes it has been given. -/
structure Pending (t : StartTag) : Prop where
  name : TagName t.name
  attrs : ∀ a ∈ t.attrs, IsQuoted a
  tail : t.tail = []

/-- Quoted attributes are readable, whatever gap ends the tag. -/
lemma readable_quoted {attrs tail} (h : ∀ a ∈ attrs, IsQuoted a)
    (gap : ∀ c ∈ tail, isGap c = true) : ReadableAttrs tail attrs := by
  induction attrs with
  | nil => exact .nil gap
  | cons a attrs ih =>
    obtain ⟨key, value, name, rfl⟩ := h a List.mem_cons_self
    -- the escaped value cannot end its quotes
    have data : '"' ∉ (escape value).toList := fun mem => (isData_escape _ mem).2.2 rfl
    have assigned : Assigned (attrsText attrs tail) ([] ++ '=' :: [])
        ('"' :: (escape value).toList ++ ['"']) := .quoted (by simp) (by simp) rfl data
    exact .cons (by simp [quoted, isGap, isTagSpace]) name assigned
      (ih fun b hb => h b (List.mem_cons_of_mem _ hb))

/-- The name of a tag stops where its attributes begin, or at its end. -/
lemma stops_quoted {attrs tail} (h : ∀ a ∈ attrs, IsQuoted a)
    (gap : ∀ c ∈ tail, isGap c = true) : Stops isTagNameChar (attrsText attrs tail) := by
  cases attrs with
  | nil =>
    cases tail with
    | nil => exact stops_cons.2 rfl
    | cons c tail => exact stops_cons.2 (isInner_isTagNameChar.gap (gap c List.mem_cons_self))
  | cons a attrs =>
    obtain ⟨key, value, -, rfl⟩ := h a List.mem_cons_self
    exact stops_cons.2 rfl

/-- A pending tag can be closed behind any gap. -/
lemma Pending.closed {t : StartTag} (h : Pending t) {tail} (gap : ∀ c ∈ tail, isGap c = true) :
    StartTag.Closed { t with tail := tail } where
  letter := h.name.1
  readable := ⟨h.name.2, stops_quoted h.attrs gap, readable_quoted h.attrs gap⟩

namespace Draft

/-- The characters of the pending tag, without its bracket. -/
def pendingText (d : Draft) : List Char :=
  (d.tag.map fun t => '<' :: (t.name ++ t.attrs.flatMap Attribute.text)).getD []

/-- A draft of what a writer has written, whose tokens can all be read again. -/
structure Reads (d : Draft) (w : Writer) : Prop where
  written : w.written.toList = d.tokens.flatMap Token.text ++ d.pendingText
  tagOpen : w.tagOpen = d.tag.isSome
  closed : ∀ t ∈ d.tokens, t.Closed
  pending : ∀ t ∈ d.tag, Pending t

namespace Reads
variable {d : Draft} {w : Writer}

/-- What is written with the open tag closed is the text of the finished tokens. -/
lemma markup (h : d.Reads w) : w.markup.toList = d.finished.flatMap Token.text := by
  obtain ⟨ts, _ | t⟩ := d
  · have closed : w.tagOpen = false := h.tagOpen
    simpa [Writer.markup, closed, finished, pendingText] using h.written
  · have tagOpen : w.tagOpen = true := h.tagOpen
    have tail : t.tail = [] := (h.pending t rfl).tail
    have written := h.written
    simp [Writer.markup, tagOpen, written, finished, pendingText, Token.text, attrsText, tail]

/-- The finished tokens can be read again. -/
lemma finished (h : d.Reads w) : ∀ t ∈ d.finished, t.Closed := by
  obtain ⟨ts, _ | t⟩ := d
  · simpa [Draft.finished] using h.closed
  · have pending := h.pending t rfl
    have closed : StartTag.Closed { t with tail := [] } := pending.closed (by simp)
    rw [← pending.tail] at closed
    intro u hu
    rcases List.mem_append.1 hu with hu | hu
    · exact h.closed u hu
    · rw [List.mem_singleton.1 hu]
      exact .startTag closed

/-- Tokens that can be read again are put where no tag is open. -/
lemma put (h : d.Reads w) {ts : List Token} {piece : String} (closed : ∀ t ∈ ts, t.Closed)
    (text : ts.flatMap Token.text = piece.toList) : (d.put ts).Reads (w.put piece) where
  written := by
    simp [Writer.put, Draft.put, pendingText, h.markup, text]
  tagOpen := rfl
  closed := by
    intro t ht
    rcases List.mem_append.1 ht with ht | ht
    · exact h.finished t ht
    · exact closed t ht
  pending := by simp [Draft.put]

/-- An attribute is given to the pending tag, if there is one. -/
lemma putAttr (h : d.Reads w) {key value : String} (name : AttrName key.toList) :
    (d.putAttr key value).Reads (w.putAttr key value) := by
  obtain ⟨ts, _ | t⟩ := d
  · have closed : w.tagOpen = false := h.tagOpen
    rw [Writer.putAttr, if_neg (by simp [closed])]
    exact h
  · have tagOpen : w.tagOpen = true := h.tagOpen
    have written := h.written
    have pending := h.pending t rfl
    rw [Writer.putAttr, if_pos tagOpen]
    refine ⟨?_, tagOpen, h.closed, ?_⟩
    · simp [written, Draft.putAttr, pendingText, Attribute.text, quoted]
    · rintro u hu
      obtain rfl : { t with attrs := t.attrs ++ [quoted key value] } = u := Option.some.inj hu
      refine ⟨pending.name, fun a ha => ?_, pending.tail⟩
      rcases List.mem_append.1 ha with ha | ha
      · exact pending.attrs a ha
      · exact ⟨key, value, name, List.mem_singleton.1 ha⟩

/-- A start tag is read with its name as far as it has been written. -/
lemma startTag (h : d.Reads w) {name : String} (proper : TagName name.toList) :
    (d.step (.startTag name)).Reads (w.step (.startTag name)) where
  written := by simp [Writer.step, Draft.step, pendingText, h.markup]
  tagOpen := rfl
  closed := h.finished
  pending := by
    intro u hu
    obtain rfl : ⟨name.toList, [], []⟩ = u := Option.some.inj hu
    exact ⟨proper, by simp, rfl⟩

/-- A tag that is closed as empty is read with its slash. -/
lemma finishSelfClosing (h : d.Reads w) :
    (d.step .finishSelfClosing).Reads (w.step .finishSelfClosing) := by
  obtain ⟨ts, _ | t⟩ := d
  · have closed : w.tagOpen = false := h.tagOpen
    rw [Writer.step, if_neg (by simp [closed])]
    simpa [Draft.step] using h
  · have tagOpen : w.tagOpen = true := h.tagOpen
    have written := h.written
    have closed := (h.pending t rfl).closed (by decide : ∀ c ∈ [' ', '/'], isGap c = true)
    rw [Writer.step, if_pos tagOpen]
    refine ⟨?_, rfl, fun u hu => ?_, by simp [Draft.step]⟩
    · simp [written, Draft.step, pendingText, Token.text, attrsText]
    · rcases List.mem_append.1 hu with hu | hu
      · exact h.closed u hu
      · rw [List.mem_singleton.1 hu]
        exact .startTag closed

/-- A draft keeps track of a writer over a step. -/
lemma step (h : d.Reads w) {s : Step} (lexical : s.Lexical) : (d.step s).Reads (w.step s) := by
  cases s with
  | startTag name => exact h.startTag lexical
  | attr key value => exact h.putAttr lexical
  | style decls =>
    simp only [Draft.step, Writer.step]
    split
    case isTrue => exact h
    case isFalse => exact h.putAttr ⟨'s', _, rfl, rfl, by decide, by decide⟩
  | finishTag =>
    -- closing the open tag is the same as putting no tokens behind it
    have nothing : ([] : List Token).flatMap Token.text = "".toList := rfl
    have h := h.put (by simp) nothing
    simpa [Writer.put, Writer.step, Draft.step] using h
  | finishSelfClosing => exact h.finishSelfClosing
  | endTag name =>
    have pending : Pending ⟨name.toList, [], []⟩ := ⟨lexical, by simp, rfl⟩
    have closed : StartTag.Closed ⟨name.toList, [], []⟩ := pending.closed (by simp)
    refine h.put ?_ ?_
    · simpa using Token.Closed.endTag closed
    · simp [Token.text]
  | text content =>
    exact h.put (closed_chars bracket_notMem_escape) (by simp [List.flatMap_map, Token.text])
  | verbatim piece => exact h.put lexical (flatMap_text_tokens piece.toList)

/-- A draft keeps track of a writer over any steps. -/
lemma run (h : d.Reads w) {steps : List Step} (lexical : ∀ s ∈ steps, s.Lexical) :
    (d.run steps).Reads (w.run steps) := by
  induction steps generalizing d w with
  | nil => exact h
  | cons s steps ih =>
    exact ih (h.step (lexical s List.mem_cons_self)) fun t ht =>
      lexical t (List.mem_cons_of_mem s ht)

end Reads

/-- Nothing has been written, and nothing is read. -/
lemma reads_empty : empty.Reads Writer.empty where
  written := rfl
  tagOpen := rfl
  closed := by simp [empty]
  pending := by simp [empty]

end Draft

/-- The tokens that steps write can be read again. -/
lemma closed_outline {steps : List Step} (lexical : ∀ s ∈ steps, s.Lexical) :
    ∀ t ∈ outline steps, t.Closed :=
  (Draft.reads_empty.run lexical).finished

/-- What steps write is the text of their tokens. -/
lemma toList_write {steps : List Step} (lexical : ∀ s ∈ steps, s.Lexical) :
    (write steps).toList = (outline steps).flatMap Token.text :=
  (Draft.reads_empty.run lexical).markup

/-- What steps write, in any order, is read as the tokens that they wrote. -/
theorem tokens_write {steps : List Step} (lexical : ∀ s ∈ steps, s.Lexical) :
    tokens (write steps).toList = outline steps := by
  have read := tokens_flatMap_text (closed_outline lexical) []
  rwa [← toList_write lexical, List.append_nil, tokens, List.append_nil] at read

end EmailTemplate.Html
