import EmailTemplate.Markup.Filter
import EmailTemplate.Proofs.Markup.Readable

/-!
# Attributes that fuse

Leaving an attribute out makes neighbours of the attributes on its two sides, and a reader of the
filtered tag may then delimit them in another way: an attribute without a value takes in an equals
sign that was the first character of a name, and a value without quotes takes in a slash. Such a tag
fuses (`StartTag.fuses`). The main statement, `StartTag.readable_filtered_iff`, is that a filtered
tag is read again as it was written exactly if it does not fuse.
-/

namespace EmailTemplate.Markup
open EmailTemplate.Text

/-- Whether an attribute takes in what `next` begins with. -/
def Attribute.fusesWith (a : Attribute) (next : List Char) : Bool :=
  if a.value.isEmpty then a.assign.isEmpty && (next.dropWhile isTagSpace).head? == some '='
  else !a.value.head?.any isQuote && next.head? == some '/'

/-- Whether one of the attributes takes in what follows it. -/
def fusesIn (tail : List Char) : List Attribute → Bool
  | [] => false
  | a :: attrs => a.fusesWith (attrsText attrs tail) || fusesIn tail attrs

/-- Whether attributes of a start tag fuse when it is filtered. -/
def StartTag.fuses (t : StartTag) : Bool :=
  fusesIn t.tail t.filtered.attrs

/-- A class of characters that neither gaps nor the bracket belong to. -/
structure IsInner (p : Char → Bool) : Prop where
  gap : ∀ {c}, isGap c = true → p c = false
  bracket : p '>' = false

/-- The name of an attribute ends at a gap and at the bracket. -/
lemma isInner_isNameChar : IsInner isNameChar where
  gap h := by
    simp only [isGap, Bool.or_eq_true, beq_iff_eq] at h
    rcases h with h | rfl
    · simp [isNameChar, h]
    · rfl
  bracket := rfl

/-- The name of a tag ends at a gap and at the bracket. -/
lemma isInner_isTagNameChar : IsInner isTagNameChar where
  gap h := by
    simp only [isGap, Bool.or_eq_true, beq_iff_eq] at h
    rcases h with h | rfl
    · simp [isTagNameChar, h]
    · rfl
  bracket := rfl

/-- A gap can go on with a value without quotes, but only with a slash. -/
lemma isInner_isValueChar : IsInner fun c => isValueChar c && c != '/' where
  gap h := by
    simp only [isGap, Bool.or_eq_true, beq_iff_eq] at h
    rcases h with h | rfl
    · simp [isValueChar, h]
    · rfl
  bracket := rfl

/-- No value is no address. -/
lemma isScriptUri_nil : isScriptUri [] = false := by
  simp [isScriptUri, address, trimWhere, Html.decodeRefs, scriptSchemes]

/-- Replacing a script address keeps the gap in front of the attribute. -/
@[simp] lemma Attribute.gap_disarmed (a : Attribute) : a.disarmed.gap = a.gap := by
  unfold disarmed
  split <;> rfl

/-- Replacing a script address keeps the name of the attribute. -/
@[simp] lemma Attribute.name_disarmed (a : Attribute) : a.disarmed.name = a.name := by
  unfold disarmed
  split <;> rfl

/-- Setting an attribute apart keeps its name. -/
@[simp] lemma Attribute.name_setApart (a : Attribute) : a.setApart.name = a.name := by
  unfold setApart
  split <;> rfl

/-- An attribute that is set apart has a gap, and nothing but a gap, in front of it. -/
lemma Attribute.gap_setApart {a : Attribute} (h : ∀ c ∈ a.gap, isGap c = true) :
    a.setApart.gap ≠ [] ∧ ∀ c ∈ a.setApart.gap, isGap c = true := by
  unfold setApart
  split
  case isTrue => simp [isGap, isTagSpace]
  case isFalse ne => exact ⟨by simpa using ne, h⟩

/-- The gap and the name decide what the text of an attribute starts with. -/
lemma Attribute.stops_text_iff {p} {a : Attribute} (name : AttrName a.name) (next : List Char) :
    Stops p (a.text ++ next) ↔ Stops p (a.gap ++ a.name) := by
  have ne : a.gap ++ a.name ≠ [] := by simp [name.ne_nil]
  rw [Attribute.text, List.append_assoc, List.append_assoc, stops_append_iff ne]

/-- An attribute does not start with the bracket. -/
lemma Attribute.stops_bracket {a : Attribute} (gap : ∀ c ∈ a.gap, isGap c = true)
    (name : AttrName a.name) (next : List Char) : Stops (· == '>') (a.text ++ next) := by
  rw [Attribute.stops_text_iff name]
  obtain ⟨c, cs, e, _, ne, _⟩ := name
  cases hg : a.gap with
  | nil => simpa [e] using ne
  | cons d ds =>
    have hd := gap d (by simp [hg])
    simp only [List.cons_append, stops_cons, beq_eq_false_iff_ne]
    rintro rfl
    exact absurd hd (by decide)

/-- Behind a dropped attribute stands a gap or the bracket. -/
lemma stops_filterAttrs_true {p tail attrs} (inner : IsInner p) (h : ReadableAttrs tail attrs) :
    Stops p (attrsText (filterAttrs true attrs) tail) := by
  induction h with
  | nil gap =>
    cases tail with
    | nil => exact stops_cons.2 inner.bracket
    | cons c tail => exact stops_cons.2 (inner.gap (gap c List.mem_cons_self))
  | @cons a attrs gap name _ _ ih =>
    rw [filterAttrs]
    split
    case isTrue => exact ih
    case isFalse =>
      obtain ⟨ne, gap⟩ := Attribute.gap_setApart gap
      rw [if_pos rfl, attrsText_cons, Attribute.stops_text_iff (by simpa using name)]
      obtain ⟨c, cs, e⟩ := List.exists_cons_of_ne_nil ne
      simp [e, inner.gap (gap c (by simp [e]))]

/-- Where attributes are not dropped, they start as before. -/
lemma stops_filterAttrs_false {p tail attrs} (inner : IsInner p) (h : ReadableAttrs tail attrs)
    (stop : Stops p (attrsText attrs tail)) :
    Stops p (attrsText (filterAttrs false attrs) tail) := by
  cases h with
  | nil => exact stop
  | @cons a attrs gap name _ rest =>
    rw [filterAttrs]
    split
    case isTrue => exact stops_filterAttrs_true inner rest
    case isFalse =>
      rw [attrsText_cons, Attribute.stops_text_iff name] at stop
      rw [attrsText_cons, Attribute.stops_text_iff (by simpa using name)]
      simpa using stop

/-- Only the end of the tag starts with the bracket, and it stays as it is. -/
lemma head?_filterAttrs_bracket {tail attrs} (h : ReadableAttrs tail attrs)
    (bracket : (attrsText attrs tail).head? = some '>') :
    (attrsText (filterAttrs false attrs) tail).head? = some '>' := by
  cases h with
  | nil => exact bracket
  | @cons a attrs gap name _ _ =>
    rw [attrsText_cons] at bracket
    have h := (Attribute.stops_bracket gap name _) '>' (Option.mem_def.2 bracket)
    simp at h

/-- An attribute stays delimited as it was exactly if it takes in nothing of what follows it once
the attributes behind it are filtered. -/
lemma assigned_filterAttrs_iff {a : Attribute} {attrs tail} (rest : ReadableAttrs tail attrs)
    (h : Assigned (attrsText attrs tail) a.assign a.value) :
    Assigned (attrsText (filterAttrs false attrs) tail) a.assign a.value ↔
      a.fusesWith (attrsText (filterAttrs false attrs) tail) = false := by
  obtain ⟨_, _, assign, value⟩ := a
  cases h with
  | nothing stop _ =>
    have stop := stops_filterAttrs_false isInner_isNameChar rest stop
    have equals (cs : List Char) : Stops (· == '=') cs ↔ (cs.head? == some '=') = false := by
      cases cs <;> simp
    simp only [Attribute.fusesWith, List.isEmpty_nil, if_true, Bool.true_and, ← equals]
    exact ⟨fun h => h.stops_equals rfl, .nothing stop⟩
  | quoted hb ha quote mem =>
    exact iff_of_true (.quoted hb ha quote mem) (by simp [Attribute.fusesWith, quote])
  | unquoted hb ha quote chars stop =>
    have inner := stops_filterAttrs_false isInner_isValueChar rest
      fun c hc => by simp only [stop c hc, Bool.false_and]
    simp only [Attribute.fusesWith, List.isEmpty_cons, Bool.false_eq_true, if_false,
      List.head?_cons, Option.any_some, quote, Bool.not_false, Bool.true_and]
    -- a gap or the bracket comes next, and of these only a slash goes on with a value
    constructor
    · intro h
      have stop := h.stops_value quote
      simpa using fun e => by simpa [isValueChar, isTagSpace] using stop '/' e
    · intro slash
      refine .unquoted hb ha quote chars fun c hc => ?_
      have := inner c hc
      simp only [Bool.and_eq_false_iff, bne_eq_false_iff_eq] at this
      rcases this with h | rfl
      · exact h
      · simp [Option.mem_def.1 hc] at slash
  | empty hb ha bracket =>
    exact iff_of_true (.empty hb ha (head?_filterAttrs_bracket rest bracket))
      (by simp [Attribute.fusesWith])

/-- What the filter writes for an attribute that stays. -/
def Attribute.kept (afterDropped : Bool) (a : Attribute) : Attribute :=
  (if afterDropped then a.setApart else a).disarmed

/-- An attribute that is no handler is written, and the next one has it as its neighbour. -/
lemma filterAttrs_kept {dropped a attrs} (h : a.isHandler = false) :
    filterAttrs dropped (a :: attrs) = a.kept dropped :: filterAttrs false attrs := by
  rw [filterAttrs, if_neg (by simp [h]), Attribute.kept]

/-- A handler is left out, and the next attribute is written behind a dropped one. -/
lemma filterAttrs_handler {dropped a attrs} (h : a.isHandler = true) :
    filterAttrs dropped (a :: attrs) = filterAttrs true attrs := by
  rw [filterAttrs, if_pos h]

/-- What is written for an attribute has its name. -/
@[simp] lemma Attribute.name_kept (dropped : Bool) (a : Attribute) :
    (a.kept dropped).name = a.name := by
  cases dropped <;> simp [kept]

/-- What is written for an attribute has nothing but a gap in front of it. -/
lemma Attribute.gap_kept {dropped} {a : Attribute} (h : ∀ c ∈ a.gap, isGap c = true) :
    ∀ c ∈ (a.kept dropped).gap, isGap c = true := by
  cases dropped with
  | false => simpa [kept] using h
  | true => simpa [kept] using (gap_setApart h).2

/-- Setting an attribute apart changes nothing behind its name; a script address is replaced. -/
lemma Attribute.kept_cases (dropped : Bool) (a : Attribute) :
    (a.runsScript = false ∧ (a.kept dropped).assign = a.assign ∧
      (a.kept dropped).value = a.value) ∨
    (a.runsScript = true ∧ (a.kept dropped).assign = ['='] ∧
      (a.kept dropped).value = ['"', '#', '"']) := by
  have apart : a.setApart.assign = a.assign ∧ a.setApart.value = a.value := by
    unfold setApart
    split <;> exact ⟨rfl, rfl⟩
  have runs : a.setApart.runsScript = a.runsScript := by
    rw [runsScript, runsScript, name_setApart, apart.2]
  cases dropped <;> cases h : a.runsScript <;> simp [kept, disarmed, runs, h, apart]

/-- Whether an address is replaced does not depend on the gap. -/
lemma Attribute.disarmed_withGap (a : Attribute) (gap : List Char) :
    { a with gap }.disarmed = { a.disarmed with gap } := by
  have runs : { a with gap }.runsScript = a.runsScript := rfl
  rw [disarmed, disarmed, runs]
  split <;> rfl

/-- What is written for an attribute that stays, with the space that sets it apart. -/
lemma Attribute.text_kept (dropped : Bool) (a : Attribute) :
    (a.kept dropped).text =
      (if dropped && a.gap.isEmpty then [' '] else []) ++ a.disarmed.text := by
  cases dropped with
  | false => rfl
  | true =>
    by_cases none : a.gap = []
    · have apart : a.setApart = { a with gap := [' '] } := by simp [setApart, none]
      rw [kept, if_pos rfl, apart, disarmed_withGap]
      simp [Attribute.text, none]
    · simp [kept, setApart, none]

/-- Filtered attributes are read again as they were written exactly if none fuses. -/
lemma readable_filterAttrs_iff {tail attrs} (h : ReadableAttrs tail attrs) (dropped : Bool) :
    ReadableAttrs tail (filterAttrs dropped attrs) ↔
      fusesIn tail (filterAttrs dropped attrs) = false := by
  induction h generalizing dropped with
  | nil gap => exact iff_of_true (.nil gap) rfl
  | @cons a attrs gap name assigned rest ih =>
    cases handler : a.isHandler with
    | true =>
      rw [filterAttrs_handler handler]
      exact ih true
    | false =>
      -- a script address that was replaced stands in quotes, so that it takes in nothing
      have here : Assigned (attrsText (filterAttrs false attrs) tail)
            (a.kept dropped).assign (a.kept dropped).value ↔
          (a.kept dropped).fusesWith (attrsText (filterAttrs false attrs) tail) = false := by
        rcases a.kept_cases dropped with ⟨_, e₁, e₂⟩ | ⟨_, e₁, e₂⟩
        · rw [Attribute.fusesWith, e₁, e₂]
          exact assigned_filterAttrs_iff rest assigned
        · rw [Attribute.fusesWith, e₁, e₂]
          refine iff_of_true ?_ (by simp [isQuote])
          change Assigned _ ([] ++ '=' :: []) ('"' :: ['#'] ++ ['"'])
          exact .quoted (by simp) (by simp) rfl (by simp)
      rw [filterAttrs_kept handler, fusesIn, Bool.or_eq_false_iff, ← here, ← ih false]
      constructor
      · rintro (_ | ⟨_, _, h, rest⟩)
        exact ⟨h, rest⟩
      · rintro ⟨h, rest⟩
        exact .cons (Attribute.gap_kept gap) (by simpa using name) h rest

/-- A filtered tag is read again as it was written exactly if it does not fuse. -/
theorem StartTag.readable_filtered_iff {t : StartTag} (h : t.Readable) :
    t.filtered.Readable ↔ t.fuses = false := by
  rw [StartTag.fuses, StartTag.filtered, ← readable_filterAttrs_iff h.attrs false]
  constructor
  · exact fun h => h.attrs
  · exact fun attrs =>
      ⟨h.name, stops_filterAttrs_false isInner_isTagNameChar h.attrs h.stop, attrs⟩

end EmailTemplate.Markup
