import EmailTemplate.Markup.Tag
import EmailTemplate.Proofs.Text.Span
import Mathlib.Data.List.TakeWhile

/-!
# Readable start tags

Not every `StartTag` is what a reader makes of its own text: a name may run on into what follows it,
a value may begin in front of a stray equals sign. `StartTag.Readable` says of the pieces of a tag
that a reader finds them again. The main statement, `StartTag.read?_eq_some_iff`, is that reading
gives exactly the readable tags whose text the input starts with. The conditions look at neighbours
only: whether an attribute is delimited rightly depends on what is assigned to it and on the text
`next` that follows it.
-/

namespace EmailTemplate.Markup
open EmailTemplate.Text

/-- The characters of a start tag behind its name. -/
def attrsText (attrs : List Attribute) (tail : List Char) : List Char :=
  attrs.flatMap Attribute.text ++ tail ++ ['>']

/-- A start tag without attributes goes on with its tail and the bracket. -/
@[simp] lemma attrsText_nil {tail} : attrsText [] tail = tail ++ ['>'] := rfl

/-- The first attribute comes first. -/
@[simp] lemma attrsText_cons {a attrs tail} :
    attrsText (a :: attrs) tail = a.text ++ attrsText attrs tail := by
  simp [attrsText]

/-- At least the bracket stands behind the name of a tag. -/
lemma attrsText_ne_nil (attrs : List Attribute) (tail : List Char) : attrsText attrs tail ≠ [] := by
  simp [attrsText]

/-- What may stand between an attribute name and the text `next`: an equals sign with white space
around it and a value, or nothing. -/
inductive Assigned (next : List Char) : (assign value : List Char) → Prop where
  /-- Nothing is assigned, so `next` must neither go on with the name nor assign anything. -/
  | nothing :
    Stops isNameChar next →
    Stops (· == '=') (next.dropWhile isTagSpace) →
    Assigned next [] []
  /-- A value in quotes ends by itself. -/
  | quoted {before after body q} :
    (∀ c ∈ before, isTagSpace c = true) →
    (∀ c ∈ after, isTagSpace c = true) →
    isQuote q = true →
    q ∉ body →
    Assigned next (before ++ '=' :: after) (q :: body ++ [q])
  /-- A value without quotes ends where `next` stops it. -/
  | unquoted {before after value c} :
    (∀ c ∈ before, isTagSpace c = true) →
    (∀ c ∈ after, isTagSpace c = true) →
    isQuote c = false →
    (∀ d ∈ c :: value, isValueChar d = true) →
    Stops isValueChar next →
    Assigned next (before ++ '=' :: after) (c :: value)
  /-- No value stands between the equals sign and the end of the tag. -/
  | empty {before after} :
    (∀ c ∈ before, isTagSpace c = true) →
    (∀ c ∈ after, isTagSpace c = true) →
    next.head? = some '>' →
    Assigned next (before ++ '=' :: after) []

/-- A value without the quotes around it. -/
def unquoted : List Char → List Char
  | [] => []
  | q :: body => if isQuote q then body.dropLast else q :: body

/-- A value without quotes ends at white space and at the bracket, and nowhere else. -/
lemma isValueChar_iff {c} : isValueChar c = true ↔ isTagSpace c = false ∧ c ≠ '>' := by
  simp [isValueChar]

/-- No quote is white space. -/
lemma isTagSpace_of_isQuote {q} (h : isQuote q = true) : isTagSpace q = false := by
  simp only [isQuote, Bool.or_eq_true, beq_iff_eq] at h
  rcases h with rfl | rfl <;> rfl

/-- What the reader takes for assigned is assigned, and no character is lost. -/
lemma assigned_of_readAssigned? {cs assign value rest} (stop : Stops isNameChar cs)
    (h : readAssigned? cs = some (assign, value, rest)) : Assigned rest assign value := by
  unfold readAssigned? at h
  split at h
  case h_1 r hr =>
    have before : ∀ c ∈ cs.takeWhile isTagSpace, isTagSpace c = true :=
      fun c hc => List.mem_takeWhile_imp hc
    have after : ∀ c ∈ r.takeWhile isTagSpace, isTagSpace c = true :=
      fun c hc => List.mem_takeWhile_imp hc
    split at h
    case h_1 => simp at h
    case h_2 q body hq =>
      -- the first character of a value is no white space, since all of it was read before
      have space : isTagSpace q = false := by
        have := stops_dropWhile (p := isTagSpace) r
        rwa [hq, stops_cons] at this
      split at h
      case isTrue quote =>
        split at h
        case h_1 => simp at h
        case h_2 d rest' hd =>
          cases h
          refine .quoted before after quote fun mem => ?_
          simpa using List.mem_takeWhile_imp mem
      case isFalse quote =>
        split at h
        case isTrue bracket =>
          cases h
          exact .empty before after (by simpa using bracket)
        case isFalse bracket =>
          cases h
          have first : isValueChar q = true :=
            isValueChar_iff.2 ⟨space, by simpa using bracket⟩
          rw [List.takeWhile_cons_of_pos first, List.dropWhile_cons_of_pos first]
          refine .unquoted before after (by simpa using quote) ?_ (stops_dropWhile body)
          rintro d (_ | ⟨_, mem⟩)
          · exact first
          · exact List.mem_takeWhile_imp mem
  case h_2 none =>
    cases h
    refine .nothing stop fun c hc => ?_
    cases hd : cs.dropWhile isTagSpace with
    | nil => simp [hd] at hc
    | cons d r =>
      have : d ≠ '=' := fun e => none r (by rw [hd, e])
      simp only [hd, List.head?_cons, Option.mem_def, Option.some.injEq] at hc
      simpa [← hc] using this

/-- Past an equals sign with white space around it, the next character decides what is read. -/
lemma readAssigned?_equals {before after c} (hb : ∀ d ∈ before, isTagSpace d = true)
    (ha : ∀ d ∈ after, isTagSpace d = true) (space : isTagSpace c = false) (body : List Char) :
    readAssigned? (before ++ '=' :: (after ++ c :: body)) =
      if isQuote c then
        match body.dropWhile (· != c) with
        | [] => none
        | _ :: rest => some (before ++ '=' :: after, c :: body.takeWhile (· != c) ++ [c], rest)
      else if c == '>' then some (before ++ '=' :: after, [], c :: body)
      else some (before ++ '=' :: after, (c :: body).takeWhile isValueChar,
        (c :: body).dropWhile isValueChar) := by
  have equals : Stops isTagSpace ('=' :: (after ++ c :: body)) := stops_cons.2 rfl
  have first : Stops isTagSpace (c :: body) := stops_cons.2 space
  unfold readAssigned?
  rw [dropWhile_append_stops hb equals, takeWhile_append_stops hb equals]
  split
  case h_1 r hr =>
    obtain rfl : after ++ c :: body = r := (List.cons.inj hr).2
    rewrite [dropWhile_append_stops ha first, takeWhile_append_stops ha first]
    rfl
  case h_2 none => exact absurd rfl (none _)

/-- What is assigned is read as assigned, and no more of the text. -/
lemma readAssigned?_of_assigned {assign value rest} (h : Assigned rest assign value) :
    readAssigned? (assign ++ value ++ rest) = some (assign, value, rest) := by
  cases h with
  | nothing stop none =>
    simp only [List.append_nil, List.nil_append]
    unfold readAssigned?
    split
    case h_1 r hr => simp [hr] at none
    case h_2 => rfl
  | @quoted before after body q hb ha quote mem =>
    have stop : Stops (· != q) (q :: rest) := stops_cons.2 (by simp)
    have inside : ∀ c ∈ body, (c != q) = true := fun c hc => by
      simpa using fun e : c = q => mem (e ▸ hc)
    have h := readAssigned?_equals hb ha (isTagSpace_of_isQuote quote) (body ++ q :: rest)
    rw [dropWhile_append_stops inside stop, takeWhile_append_stops inside stop] at h
    simpa [quote] using h
  | @unquoted before after value c hb ha quote chars stop =>
    obtain ⟨space, bracket⟩ := isValueChar_iff.1 (chars c List.mem_cons_self)
    have h := readAssigned?_equals hb ha space (value ++ rest)
    rw [show c :: (value ++ rest) = (c :: value) ++ rest from rfl,
      dropWhile_append_stops chars stop, takeWhile_append_stops chars stop] at h
    simpa [quote, bracket] using h
  | @empty before after hb ha bracket =>
    -- the bracket that ends the tag is looked at, and left
    obtain ⟨r, rfl⟩ : ∃ r, rest = '>' :: r := by
      cases rest with
      | nil => simp at bracket
      | cons c r => exact ⟨r, by rw [Option.some.inj bracket]⟩
    have h := readAssigned?_equals (c := '>') hb ha (by decide) r
    simpa [isQuote] using h

/-- What follows a bracket does not matter for what is assigned in front of it. -/
lemma assigned_append_iff {next assign value} (bracket : '>' ∈ next) (rest : List Char) :
    Assigned (next ++ rest) assign value ↔ Assigned next assign value := by
  have ne : next ≠ [] := List.ne_nil_of_mem bracket
  -- the white space that is left out ends in front of the bracket, if not before
  have left : next.dropWhile isTagSpace ≠ [] := fun e => by
    simpa [isTagSpace] using List.dropWhile_eq_nil_iff.1 e '>' bracket
  have drop : (next ++ rest).dropWhile isTagSpace = next.dropWhile isTagSpace ++ rest := by
    rw [List.dropWhile_append]
    simp [left]
  have head : (next ++ rest).head? = next.head? := by
    rw [List.head?_append, List.head?_eq_some_head ne, Option.some_or]
  constructor
  · rintro (⟨h₁, h₂⟩ | ⟨hb, ha, quote, mem⟩ | ⟨hb, ha, quote, chars, stop⟩ | ⟨hb, ha, h⟩)
    · rw [drop] at h₂
      exact .nothing h₁.of_append h₂.of_append
    · exact .quoted hb ha quote mem
    · exact .unquoted hb ha quote chars stop.of_append
    · exact .empty hb ha (head ▸ h)
  · rintro (⟨h₁, h₂⟩ | ⟨hb, ha, quote, mem⟩ | ⟨hb, ha, quote, chars, stop⟩ | ⟨hb, ha, h⟩)
    · refine .nothing ((stops_append_iff ne rest).2 h₁) ?_
      rw [drop]
      exact (stops_append_iff left rest).2 h₂
    · exact .quoted hb ha quote mem
    · exact .unquoted hb ha quote chars ((stops_append_iff ne rest).2 stop)
    · exact .empty hb ha (head ▸ h)

/-- An attribute name: any character but a gap or the bracket, and then name characters. -/
def AttrName (name : List Char) : Prop :=
  ∃ c cs, name = c :: cs ∧ isGap c = false ∧ c ≠ '>' ∧ ∀ d ∈ cs, isNameChar d = true

instance : DecidablePred AttrName
  | [] => isFalse fun ⟨_, _, e, _⟩ => by cases e
  | c :: cs =>
    decidable_of_iff (isGap c = false ∧ c ≠ '>' ∧ ∀ d ∈ cs, isNameChar d = true)
      ⟨fun h => ⟨c, cs, rfl, h⟩, fun ⟨_, _, e, h⟩ => by cases e; exact h⟩

/-- The name of an attribute has a character. -/
lemma AttrName.ne_nil {name} (h : AttrName name) : name ≠ [] := by
  obtain ⟨c, cs, rfl, -⟩ := h
  simp

/-- Attributes that a reader finds again in their text, if `tail` and the bracket follow them. -/
inductive ReadableAttrs (tail : List Char) : List Attribute → Prop where
  | nil :
    (∀ c ∈ tail, isGap c = true) →
    ReadableAttrs tail []
  | cons {a attrs} :
    (∀ c ∈ a.gap, isGap c = true) →
    AttrName a.name →
    Assigned (attrsText attrs tail) a.assign a.value →
    ReadableAttrs tail attrs →
    ReadableAttrs tail (a :: attrs)

/-- The bracket closes the tag. -/
lemma bracket_mem_attrsText (attrs : List Attribute) (tail : List Char) :
    '>' ∈ attrsText attrs tail := by
  simp [attrsText]

/-- What follows an attribute name does not go on with it. -/
lemma Assigned.stops_name {next assign value} (h : Assigned next assign value) :
    Stops isNameChar (assign ++ value ++ next) := by
  have equals {before after : List Char} (hb : ∀ c ∈ before, isTagSpace c = true) :
      Stops isNameChar (before ++ '=' :: after) := by
    cases before with
    | nil => exact stops_cons.2 rfl
    | cons c before => exact stops_cons.2 (by simp [isNameChar, hb c List.mem_cons_self])
  cases h with
  | nothing stop => exact stop
  | quoted hb => simpa using equals hb
  | unquoted hb => simpa using equals hb
  | empty hb => simpa using equals hb

/-- In front of an equals sign something is assigned. -/
lemma Assigned.stops_equals {next assign value} (h : Assigned next assign value)
    (none : assign = []) : Stops (· == '=') (next.dropWhile isTagSpace) := by
  cases h with
  | nothing _ stop => exact stop
  | quoted => simp at none
  | unquoted => simp at none
  | empty => simp at none

/-- What follows a value without quotes does not go on with it. -/
lemma Assigned.stops_value {next assign c value} (h : Assigned next assign (c :: value))
    (quote : isQuote c = false) : Stops isValueChar next := by
  generalize e : c :: value = v at h
  cases h with
  | nothing => cases e
  | quoted _ _ quote' =>
    cases e
    simp [quote] at quote'
  | unquoted _ _ _ _ stop => exact stop
  | empty => cases e

/-- Attributes that have been read are read again from their own text. -/
lemma readable_of_readAttributes? {cs attrs tail rest}
    (h : readAttributes? cs = some (attrs, tail, rest)) : ReadableAttrs tail attrs := by
  fun_induction readAttributes? cs generalizing attrs tail rest with
  | case1 => simp at h
  | case2 cs c body hc bracket =>
    cases h
    exact .nil fun c hc => List.mem_takeWhile_imp hc
  | case3 => simp at h
  | case4 => simp at h
  | case5 cs c body hc bracket assign value rest₁ ha attrs₁ tail₁ rest₂ hr ih =>
    cases h
    have gap : isGap c = false := by
      have := stops_dropWhile (p := isGap) cs
      rwa [hc, stops_cons] at this
    refine .cons (fun c hc => List.mem_takeWhile_imp hc) ?_ ?_ (ih hr)
    · exact ⟨c, _, rfl, gap, by simpa using bracket, fun c hc => List.mem_takeWhile_imp hc⟩
    · -- the reader saw the whole input; the attributes and the bracket are all that counts of it
      have h := assigned_of_readAssigned? (stops_dropWhile _) ha
      rw [← append_of_readAttributes? hr] at h
      refine (assigned_append_iff (bracket_mem_attrsText _ _) rest₂).1 ?_
      simpa [attrsText] using h

/-- At the bracket there is no attribute to read, and what stood before it is the tail. -/
lemma readAttributes?_bracket {gap : List Char} (hgap : ∀ c ∈ gap, isGap c = true)
    (rest : List Char) : readAttributes? (gap ++ '>' :: rest) = some ([], gap, rest) := by
  have stop : Stops isGap ('>' :: rest) := stops_cons.2 rfl
  rw [readAttributes?]
  split
  case h_1 h =>
    rw [dropWhile_append_stops hgap stop] at h
    cases h
  case h_2 h =>
    rw [dropWhile_append_stops hgap stop] at h
    cases h
    rw [takeWhile_append_stops hgap stop]
    rfl

/-- A gap in front of a name begins an attribute. -/
lemma readAttributes?_name {gap name body} (hgap : ∀ c ∈ gap, isGap c = true)
    (hname : AttrName name) (stop : Stops isNameChar body) :
    readAttributes? (gap ++ name ++ body) =
      (readAssigned? body).bind fun (assign, value, rest) =>
        (readAttributes? rest).map fun (attrs, tail, rest) =>
          (⟨gap, name, assign, value⟩ :: attrs, tail, rest) := by
  obtain ⟨c, chars, rfl, first, bracket, hchars⟩ := hname
  have hc : Stops isGap (c :: chars ++ body) := stops_cons.2 first
  rw [List.append_assoc, readAttributes?]
  split
  case h_1 h =>
    rw [dropWhile_append_stops hgap hc] at h
    cases h
  case h_2 h =>
    rw [dropWhile_append_stops hgap hc, List.cons_append, List.cons.injEq] at h
    obtain ⟨rfl, rfl⟩ := h
    rw [takeWhile_append_stops hgap hc, takeWhile_append_stops hchars stop,
      dropWhile_append_stops hchars stop, if_neg (by simpa using bracket)]
    split
    case h_1 h => simp [h]
    case h_2 h =>
      rw [h]
      split
      case h_1 h => simp [h]
      case h_2 h => simp [h]

/-- Readable attributes are read from their text, whatever follows the bracket. -/
lemma readAttributes?_of_readable {attrs tail} (h : ReadableAttrs tail attrs) (rest : List Char) :
    readAttributes? (attrsText attrs tail ++ rest) = some (attrs, tail, rest) := by
  induction h with
  | nil gap =>
    have h := readAttributes?_bracket gap rest
    simpa using h
  | @cons a attrs gap name assigned _ ih =>
    have next := (assigned_append_iff (bracket_mem_attrsText attrs tail) rest).2 assigned
    have h := readAttributes?_name gap name next.stops_name
    rw [readAssigned?_of_assigned next] at h
    simpa [Attribute.text, ih] using h

/-- What `StartTag.read?` asks of a tag to find it again in its own text. -/
structure StartTag.Readable (t : StartTag) : Prop where
  name : ∀ c ∈ t.name, isTagNameChar c = true
  /-- The name does not run on into the attributes. -/
  stop : Stops isTagNameChar (attrsText t.attrs t.tail)
  attrs : ReadableAttrs t.tail t.attrs

/-- The text of a tag is its bracket, its name and what follows the name. -/
lemma StartTag.text_eq (t : StartTag) : t.text = '<' :: (t.name ++ attrsText t.attrs t.tail) := by
  simp [StartTag.text, attrsText]

/-- A start tag that has been read is read again from its own text. -/
lemma StartTag.readable_of_read? {cs t rest} (h : StartTag.read? cs = some (t, rest)) :
    t.Readable := by
  simp only [StartTag.read?, Option.map_eq_some_iff, Prod.mk.injEq, Prod.exists] at h
  obtain ⟨attrs, tail, rest, h, rfl, rfl⟩ := h
  refine ⟨fun c hc => List.mem_takeWhile_imp hc, ?_, readable_of_readAttributes? h⟩
  have text : attrsText attrs tail ++ rest = cs.dropWhile isTagNameChar := by
    simpa [attrsText] using append_of_readAttributes? h
  have stop := stops_dropWhile (p := isTagNameChar) cs
  rw [← text] at stop
  exact stop.of_append

/-- A readable tag is read from its text, whatever follows it. -/
lemma StartTag.Readable.read? {t : StartTag} (h : t.Readable) (rest : List Char) :
    StartTag.read? (t.name ++ attrsText t.attrs t.tail ++ rest) = some (t, rest) := by
  have stop := (stops_append_iff (attrsText_ne_nil _ _) rest).2 h.stop
  rw [StartTag.read?, List.append_assoc, dropWhile_append_stops h.name stop,
    takeWhile_append_stops h.name stop, readAttributes?_of_readable h.attrs]
  rfl

/-- Reading gives exactly the readable tags that the input starts with. -/
theorem StartTag.read?_eq_some_iff {cs t rest} :
    StartTag.read? cs = some (t, rest) ↔ t.Readable ∧ t.text ++ rest = '<' :: cs := by
  constructor
  · intro h
    exact ⟨readable_of_read? h, text_of_read? h⟩
  · rintro ⟨h, text⟩
    rw [StartTag.text_eq, List.cons_append] at text
    cases text
    exact h.read? rest

end EmailTemplate.Markup
