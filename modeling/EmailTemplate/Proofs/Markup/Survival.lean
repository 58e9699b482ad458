import EmailTemplate.Proofs.Markup.Fusion

/-!
# Attributes that survive

The attributes that filtering keeps are meant to be the attributes of the filtered tag, when it is
read again. Its text settles them once their names and values are known (`SpelledAttrs.unique`), so
that they survive exactly if the tag does not fuse (`survives_iff`).
-/

namespace EmailTemplate.Markup
open EmailTemplate.Text

/-- The name and the value of an attribute, as they are written. -/
def Attribute.raw (a : Attribute) : List Char × List Char :=
  (a.name, a.value)

/-- The attributes that filtering keeps, a script address replaced. -/
def StartTag.keptAttrs (t : StartTag) : List (List Char × List Char) :=
  (t.attrs.filter (!·.isHandler)).map fun a =>
    (a.name, if a.runsScript then "\"#\"".toList else a.value)

/-- When the filtered tag is read again, in front of any text, it ends where it was written to end,
and has its name and the attributes that filtering keeps. -/
def StartTag.Survives (t : StartTag) (next : List Char) : Prop :=
  ∃ t', StartTag.read? (t.filtered.text.tail ++ next) = some (t', next) ∧ t'.name = t.name ∧
    t'.attrs.map Attribute.raw = t.keptAttrs

/-- Filtering writes the names and values of the attributes that it keeps. -/
lemma map_raw_filterAttrs (dropped : Bool) (attrs : List Attribute) :
    (filterAttrs dropped attrs).map Attribute.raw =
      (attrs.filter (!·.isHandler)).map fun a =>
        (a.name, if a.runsScript then "\"#\"".toList else a.value) := by
  induction attrs generalizing dropped with
  | nil => rfl
  | cons a attrs ih =>
    cases handler : a.isHandler with
    | true =>
      rw [filterAttrs_handler handler, List.filter_cons_of_neg (by simp [handler])]
      exact ih true
    | false =>
      rw [filterAttrs_kept handler, List.filter_cons_of_pos (by simp [handler]), List.map_cons,
        List.map_cons, ih false, Attribute.raw, Attribute.name_kept]
      rcases a.kept_cases dropped with ⟨runs, _, value⟩ | ⟨runs, _, value⟩
      · rw [runs, value]
        rfl
      · rw [runs, value]
        rfl

/-- An assignment as it may be written in front of `next`, whether or not a reader delimits it so:
`Assigned` without its conditions on where a name and a value stop. -/
inductive Spelled (next : List Char) : (assign value : List Char) → Prop where
  | nothing :
    Spelled next [] []
  | given {before after value} :
    (∀ c ∈ before, isTagSpace c = true) →
    (∀ c ∈ after, isTagSpace c = true) →
    Stops isTagSpace (value ++ next) →
    (value = [] → next.head? = some '>') →
    Spelled next (before ++ '=' :: after) value

/-- Attributes as they may be written in front of `tail` and the bracket. -/
inductive SpelledAttrs (tail : List Char) : List Attribute → Prop where
  | nil :
    (∀ c ∈ tail, isGap c = true) →
    SpelledAttrs tail []
  | cons {a attrs} :
    (∀ c ∈ a.gap, isGap c = true) →
    AttrName a.name →
    Spelled (attrsText attrs tail) a.assign a.value →
    SpelledAttrs tail attrs →
    SpelledAttrs tail (a :: attrs)

/-- What is read as assigned may be written in front of another text as well, unless nothing but the
end of the tag delimits it. -/
lemma Assigned.spelled {next next' assign value} (h : Assigned next assign value)
    (bracket : next.head? = some '>' → next'.head? = some '>') : Spelled next' assign value := by
  cases h with
  | nothing => exact .nothing
  | quoted hb ha quote =>
    refine .given hb ha ?_ nofun
    exact stops_cons.2 (isTagSpace_of_isQuote quote)
  | @unquoted before after value c hb ha _ chars =>
    refine .given hb ha ?_ nofun
    exact stops_cons.2 (isValueChar_iff.1 (chars c List.mem_cons_self)).1
  | empty hb ha head =>
    refine .given hb ha ?_ fun _ => bracket head
    intro c hc
    rw [List.nil_append, bracket head, Option.mem_def, Option.some.injEq] at hc
    rw [← hc]
    rfl

/-- Attributes that a reader delimits are attributes as they may be written. -/
lemma spelled_of_readable {tail attrs} (h : ReadableAttrs tail attrs) :
    SpelledAttrs tail attrs := by
  induction h with
  | nil gap => exact .nil gap
  | cons gap name assigned _ ih => exact .cons gap name (assigned.spelled id) ih

/-- Filtered attributes are still attributes as they may be written. -/
lemma spelled_filterAttrs {tail attrs} (h : ReadableAttrs tail attrs) (dropped : Bool) :
    SpelledAttrs tail (filterAttrs dropped attrs) := by
  induction h generalizing dropped with
  | nil gap => exact .nil gap
  | @cons a attrs gap name assigned rest ih =>
    cases handler : a.isHandler with
    | true =>
      rw [filterAttrs_handler handler]
      exact ih true
    | false =>
      rw [filterAttrs_kept handler]
      refine .cons (Attribute.gap_kept gap) (by simpa using name) ?_ (ih false)
      rcases a.kept_cases dropped with ⟨_, assign, value⟩ | ⟨_, assign, value⟩
      · rw [assign, value]
        exact assigned.spelled (head?_filterAttrs_bracket rest)
      · rw [assign, value]
        show Spelled _ ([] ++ '=' :: []) ['"', '#', '"']
        exact .given nofun nofun (stops_cons.2 rfl) nofun

/-- Values that are the same are assigned in the same way, in the same text. -/
lemma Spelled.unique {next next' assign assign' value} (h : Spelled next assign value)
    (h' : Spelled next' assign' value)
    (text : assign ++ (value ++ next) = assign' ++ (value ++ next'))
    (bracket : next.head? = some '>' → '=' ∉ next')
    (bracket' : next'.head? = some '>' → '=' ∉ next) : assign = assign' ∧ next = next' := by
  cases h with
  | nothing =>
    cases h' with
    | nothing => exact ⟨rfl, text⟩
    | given _ _ _ empty =>
      have mem : '=' ∈ next := by
        simp only [List.nil_append] at text
        simp [text]
      exact absurd mem (bracket' (empty rfl))
  | @given before after _ hb ha stop empty =>
    cases h' with
    | nothing =>
      have mem : '=' ∈ next' := by
        simp only [List.nil_append] at text
        simp [← text]
      exact absurd mem (bracket (empty rfl))
    | @given before' after' _ hb' ha' stop' _ =>
      rw [List.append_assoc, List.append_assoc, List.cons_append, List.cons_append] at text
      have equals (cs : List Char) : Stops isTagSpace ('=' :: cs) := stops_cons.2 rfl
      obtain ⟨sameBefore, behind⟩ := append_inj_of_stops hb (equals _) hb' (equals _) text
      obtain ⟨sameAfter, rest⟩ := append_inj_of_stops ha stop ha' stop' (List.cons.inj behind).2
      rw [sameBefore, sameAfter]
      exact ⟨rfl, List.append_cancel_left rest⟩

/-- A gap ends where a name begins. -/
lemma AttrName.stops_gap {name} (h : AttrName name) (next : List Char) :
    Stops isGap (name ++ next) := by
  obtain ⟨c, cs, rfl, first, -⟩ := h
  exact stops_cons.2 first

namespace SpelledAttrs
variable {tail tail' : List Char} {attrs attrs' : List Attribute}

/-- Where the bracket comes first, there is no attribute. -/
lemma eq_nil_of_bracket (h : SpelledAttrs tail attrs)
    (bracket : (attrsText attrs tail).head? = some '>') : attrs = [] := by
  cases h with
  | nil => rfl
  | cons gap name _ _ =>
    rw [attrsText_cons] at bracket
    have head := (Attribute.stops_bracket gap name _) '>' (Option.mem_def.2 bracket)
    simp at head

/-- Where one spelling ends the tag behind a name, another one assigns nothing to it. -/
lemma equals_notMem (h : SpelledAttrs tail attrs) (h' : SpelledAttrs tail' attrs')
    (raw : attrs.map Attribute.raw = attrs'.map Attribute.raw)
    (bracket : (attrsText attrs' tail').head? = some '>') : '=' ∉ attrsText attrs tail := by
  rw [h'.eq_nil_of_bracket bracket, List.map_nil, List.map_eq_nil_iff] at raw
  rw [raw] at h
  rw [raw, attrsText_nil]
  cases h with
  | nil gap =>
    intro mem
    rcases List.mem_append.1 mem with mem | mem
    · exact absurd (gap '=' mem) (by decide)
    · exact absurd (List.mem_singleton.1 mem) (by decide)

/-- A text has one spelling with the same names and values. -/
theorem unique (h : SpelledAttrs tail attrs) (h' : SpelledAttrs tail' attrs')
    (raw : attrs.map Attribute.raw = attrs'.map Attribute.raw)
    (text : attrsText attrs tail = attrsText attrs' tail') : attrs = attrs' ∧ tail = tail' := by
  induction h generalizing attrs' with
  | nil gap =>
    rw [List.map_nil, eq_comm, List.map_eq_nil_iff] at raw
    rw [raw, attrsText_nil, attrsText_nil] at text
    exact ⟨raw.symm, List.append_cancel_right text⟩
  | @cons a attrs gap name spelled rest ih =>
    cases h' with
    | nil => simp at raw
    | @cons a' attrs' gap' name' spelled' rest' =>
      obtain ⟨same, raw⟩ := List.cons.inj raw
      obtain ⟨names, values⟩ := Prod.mk.inj same
      have ends := equals_notMem rest rest' raw
      have ends' := equals_notMem rest' rest raw.symm
      simp only [attrsText_cons, Attribute.text, List.append_assoc] at text
      -- the gap ends where the name begins, and the assignment where the next attribute does
      obtain ⟨gaps, text⟩ :=
        append_inj_of_stops gap (name.stops_gap _) gap' (name'.stops_gap _) text
      rw [← names] at text
      rw [← values] at text spelled'
      obtain ⟨assigns, text⟩ :=
        spelled.unique spelled' (List.append_cancel_left text) ends' ends
      obtain ⟨rfl, rfl⟩ := ih rest' raw text
      refine ⟨congrArg (· :: attrs) ?_, rfl⟩
      rw [Attribute.mk.injEq]
      exact ⟨gaps, names, assigns, values⟩

end SpelledAttrs

/-- The attributes that filtering keeps survive exactly if the filtered tag is read as written. -/
lemma StartTag.Readable.survives_iff_filtered {t : StartTag} (h : t.Readable) (next : List Char) :
    t.Survives next ↔ t.filtered.Readable := by
  have written : t.filtered.text.tail ++ next =
      t.filtered.name ++ attrsText t.filtered.attrs t.filtered.tail ++ next := by
    rw [StartTag.text_eq, List.tail_cons]
  have kept : t.filtered.attrs.map Attribute.raw = t.keptAttrs := map_raw_filterAttrs false t.attrs
  constructor
  · rintro ⟨t', read, name, attrs⟩
    have readable := StartTag.readable_of_read? read
    have text := StartTag.text_of_read? read
    rw [StartTag.text_eq, List.cons_append, written] at text
    have text := List.append_cancel_right (List.cons.inj text).2
    rw [name] at text
    obtain ⟨sameAttrs, sameTail⟩ := (spelled_of_readable readable.attrs).unique
      (spelled_filterAttrs h.attrs false) (attrs.trans kept.symm) (List.append_cancel_left text)
    have same : t' = t.filtered := by
      rw [StartTag.mk.injEq]
      exact ⟨name, sameAttrs, sameTail⟩
    rwa [← same]
  · intro readable
    refine ⟨t.filtered, ?_, rfl, kept⟩
    rw [written]
    exact readable.read? next

/-- The attributes of a start tag that filtering keeps survive exactly if they do not fuse. -/
theorem survives_iff {cs t rest} (h : StartTag.read? cs = some (t, rest)) (next : List Char) :
    t.Survives next ↔ t.fuses = false := by
  have readable := StartTag.readable_of_read? h
  exact (readable.survives_iff_filtered next).trans (StartTag.readable_filtered_iff readable)

/-- A handler with no gap around it, and a link with a script address behind it. -/
def gluedLink : StartTag where
  name := "a".toList
  attrs :=
    [⟨" ".toList, "id".toList, "=".toList, "\"i\"".toList⟩,
      ⟨[], "onclick".toList, "=".toList, "\"1\"".toList⟩,
      ⟨[], "href".toList, " = ".toList, "'javascript:0'".toList⟩]
  tail := []

/-- A space is put in the handler's place. -/
theorem survives_gluedLink :
    StartTag.read? "a id=\"i\"onclick=\"1\"href = 'javascript:0'>b".toList =
      some (gluedLink, ['b']) ∧ gluedLink.Survives ['b'] := by
  have read : StartTag.read? "a id=\"i\"onclick=\"1\"href = 'javascript:0'>b".toList =
      some (gluedLink, ['b']) := by cbv
  exact ⟨read, (survives_iff read ['b']).2 (by decide +kernel)⟩

/-- An image with a handler between its source and the slash that ends the tag. -/
def slashedImage : StartTag where
  name := "img".toList
  attrs :=
    [⟨" ".toList, "src".toList, "=".toList, "x".toList⟩,
      ⟨" ".toList, "onerror".toList, "=".toList, "\"1\"".toList⟩]
  tail := "/".toList

/-- Without the handler, the slash becomes a part of the source. -/
theorem not_survives_slashedImage :
    StartTag.read? "img src=x onerror=\"1\"/>".toList = some (slashedImage, []) ∧
      ¬slashedImage.Survives [] := by
  have read : StartTag.read? "img src=x onerror=\"1\"/>".toList = some (slashedImage, []) := by
    cbv
  have readable := StartTag.readable_of_read? read
  have fuses : slashedImage.fuses = true := by decide +kernel
  refine ⟨read, fun survives => ?_⟩
  have apart := (StartTag.readable_filtered_iff readable).1
    ((readable.survives_iff_filtered []).1 survives)
  rw [fuses] at apart
  cases apart

end EmailTemplate.Markup
