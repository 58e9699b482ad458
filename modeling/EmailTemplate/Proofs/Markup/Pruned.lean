import EmailTemplate.Proofs.Markup.Pieces
import EmailTemplate.Text.Fold
import EmailTemplate.Text.WordChar

/-!
# Pruned markup

Filtering takes text out of start tags and puts a little in, but it never joins two texts so that a
name comes about that did not stand in the markup. `Pruned` relates a text to what is left of it: it
follows both at once, and lets them part only where both go on with a delimiter, or right behind
one. The main statement is `pruned_filterTags`; what a `<` opens in filtered markup, it opened in
the markup (`Pruned.exists_source`, `Pruned.afterName?`).
-/

namespace EmailTemplate.Markup
open EmailTemplate.Text

/-- A character that sets names apart inside a tag. -/
def isDelim (c : Char) : Bool :=
  isGap c || c == '>' || c == '=' || isQuote c || c == '#'

/-- A text that is left of another one. While `free` holds, the character before was a delimiter,
and no name can span the place. -/
inductive Pruned : (free : Bool) → (source pruned : List Char) → Prop where
  /-- Nothing more is left. -/
  | done {free source} :
    (free = false → atWordEnd source = true) →
    Pruned free source []
  /-- A character is left; a `<` that opens a start tag only if the tag can be closed. -/
  | keep {free c source pruned} :
    (c = '<' → startsWithLetter source = true → '>' ∈ source) →
    Pruned (isDelim c) source pruned →
    Pruned free (c :: source) (c :: pruned)
  /-- Where both texts go on with a delimiter, a name ends in both. -/
  | release {source pruned} :
    Stops (!isDelim ·) source →
    Stops (!isDelim ·) pruned →
    Pruned true source pruned →
    Pruned false source pruned
  /-- A character is taken out. -/
  | skip {c source pruned} :
    Pruned true source pruned →
    Pruned true (c :: source) pruned
  /-- A delimiter is put in. -/
  | insert {c source pruned} :
    isDelim c = true →
    c ≠ '>' →
    Pruned true source pruned →
    Pruned true source (c :: pruned)

/-- The delimiters, one by one. -/
def delimiters : List Char :=
  [' ', '\t', '\n', '\x0c', '\r', '/', '>', '=', '"', '\'', '#']

/-- The list of the delimiters is complete. -/
lemma mem_delimiters {c} (h : isDelim c = true) : c ∈ delimiters := by
  simpa [delimiters, isDelim, isGap, isTagSpace, isQuote, or_assoc] using h

/-- No delimiter belongs to a word. -/
lemma isWordChar_of_isDelim {c} (h : isDelim c = true) : isWordChar c = false := by
  have all : ∀ c ∈ delimiters, isWordChar c = false := by decide
  exact all c (mem_delimiters h)

/-- A delimiter has no case to fold. -/
lemma foldCase_of_isDelim {c} (h : isDelim c = true) : foldCase c = c := by
  have all : ∀ c ∈ delimiters, foldCase c = c := by decide
  exact all c (mem_delimiters h)

/-- No delimiter is a letter. -/
lemma isAlpha_of_isDelim {c} (h : isDelim c = true) : c.isAlpha = false := by
  have all : ∀ c ∈ delimiters, c.isAlpha = false := by decide
  exact all c (mem_delimiters h)

namespace Pruned

/-- Behind a delimiter less is asked of what is left. -/
lemma free {b source pruned} (h : Pruned b source pruned) : Pruned true source pruned := by
  cases h with
  | done => exact .done nofun
  | keep open? rest => exact .keep open? rest
  | release _ _ h => exact h
  | skip h => exact .skip h
  | insert delim ne h => exact .insert delim ne h

/-- With more freedom a text may still be left as it was. -/
lemma ofFalse {b source pruned} (h : Pruned false source pruned) : Pruned b source pruned := by
  cases b with
  | false => exact h
  | true => exact h.free

/-- A `<` that is left stood in the source, and if it opens a start tag there, a bracket follows. -/
lemma exists_source {b source pruned rest} (h : Pruned b source pruned)
    (mem : ('<' :: rest) <:+ pruned) :
    ∃ rest', ('<' :: rest') <:+ source ∧ Pruned false rest' rest ∧
      (startsWithLetter rest' = true → '>' ∈ rest') := by
  induction h with
  | done => simp at mem
  | @keep b c source pruned open? h ih =>
    rcases List.suffix_cons_iff.1 mem with e | mem
    · cases e
      exact ⟨source, List.suffix_refl _, h, open? rfl⟩
    · obtain ⟨rest', suffix, h⟩ := ih mem
      exact ⟨rest', suffix.trans (List.suffix_cons c source), h⟩
  | release _ _ _ ih => exact ih mem
  | @skip c source _ _ ih =>
    obtain ⟨rest', suffix, h⟩ := ih mem
    exact ⟨rest', suffix.trans (List.suffix_cons c source), h⟩
  | insert delim _ _ ih =>
    rcases List.suffix_cons_iff.1 mem with e | mem
    · cases e
      exact absurd delim (by decide)
    · exact ih mem

/-- A name that stands in what is left stood in the source. -/
lemma afterName? {name source pruned u} (plain : ∀ n ∈ name, isDelim n = false)
    (h : Pruned false source pruned) (hu : Text.afterName? name pruned = some u) :
    ∃ u', Text.afterName? name source = some u' ∧ Pruned false u' u := by
  induction name generalizing source pruned with
  | nil =>
    cases hu
    exact ⟨source, rfl, h⟩
  | cons n name ih =>
    cases pruned with
    | nil => simp [Text.afterName?] at hu
    | cons c pruned =>
      rw [Text.afterName?] at hu
      split at hu
      case isFalse => simp at hu
      case isTrue hn =>
        -- a character of a name is no delimiter, so that it was not put in
        have hc : isDelim c = false := by
          by_contra delim
          have delim : isDelim c = true := by simpa using delim
          have e : c = n := by simpa [foldCase_of_isDelim delim] using hn
          simp [← e, delim] at plain
        cases h with
        | @keep _ _ source _ _ h =>
          rw [hc] at h
          obtain ⟨u', hu', h⟩ := ih (fun m hm => plain m (List.mem_cons_of_mem n hm)) h hu
          exact ⟨u', by rw [Text.afterName?, if_pos hn, hu'], h⟩
        | release _ stop _ => simp [hc] at stop

/-- Where a word ends in what is left, it ended in the source. -/
lemma atWordEnd {source pruned} (h : Pruned false source pruned)
    (word : Text.atWordEnd pruned = true) : Text.atWordEnd source = true := by
  cases h with
  | done wordEnd => exact wordEnd rfl
  | keep => exact word
  | release stop _ _ =>
    cases source with
    | nil => rfl
    | cons c source =>
      have delim : isDelim c = true := by simpa using stop
      simp [Text.atWordEnd, isWordChar_of_isDelim delim]

/-- A bracket that is left stood in the source. -/
lemma bracket_mem {b source pruned} (h : Pruned b source pruned) (mem : '>' ∈ pruned) :
    '>' ∈ source := by
  induction h with
  | done => simp at mem
  | keep _ _ ih =>
    rcases List.mem_cons.1 mem with rfl | mem
    · exact List.mem_cons_self
    · exact List.mem_cons_of_mem _ (ih mem)
  | release _ _ _ ih => exact ih mem
  | skip _ ih => exact List.mem_cons_of_mem _ (ih mem)
  | insert _ ne _ ih =>
    rcases List.mem_cons.1 mem with rfl | mem
    · exact absurd rfl ne
    · exact ih mem

/-- A text that is left as a whole. -/
lemma append {source pruned} (bracket : '>' ∈ source) (h : Pruned false source pruned) :
    ∀ {b} (cs : List Char), Pruned b (cs ++ source) (cs ++ pruned)
  | _, [] => h.ofFalse
  | _, _ :: cs =>
    .keep (fun _ _ => List.mem_append_right cs bracket) (append bracket h cs)

/-- A text that is left as a whole and ends with a delimiter. -/
lemma append_delim {source pruned q} (bracket : '>' ∈ q :: source) (delim : isDelim q = true)
    (h : Pruned true source pruned) :
    ∀ {b} (cs : List Char), Pruned b (cs ++ q :: source) (cs ++ q :: pruned)
  | _, [] => .keep (fun e => absurd delim (by rw [e]; decide)) (by rwa [delim])
  | _, _ :: cs =>
    .keep (fun _ _ => List.mem_append_right cs bracket) (append_delim bracket delim h cs)

/-- Behind a delimiter the freedom lasts as long as delimiters are kept. -/
lemma append_delims {source pruned} (h : Pruned true source pruned) :
    ∀ {cs : List Char}, (∀ c ∈ cs, isDelim c = true) → Pruned true (cs ++ source) (cs ++ pruned)
  | [], _ => h
  | c :: cs, delims => by
    have delim := delims c List.mem_cons_self
    refine .keep (fun e => absurd delim (by rw [e]; decide)) ?_
    rw [delim]
    exact append_delims h fun d hd => delims d (List.mem_cons_of_mem c hd)

/-- Where a name cannot span the place, any stretch may be taken out. -/
lemma skip_append {source pruned} (h : Pruned true source pruned) :
    ∀ cs : List Char, Pruned true (cs ++ source) pruned
  | [] => h
  | _ :: cs => .skip (skip_append h cs)

end Pruned

/-- What stands in the gap between attributes is a delimiter. -/
lemma isDelim_of_isGap {c} (h : isGap c = true) : isDelim c = true := by
  simp [isDelim, h]

/-- Characters that are no delimiters belong neither to gaps nor to the bracket. -/
lemma isInner_notDelim : IsInner (!isDelim ·) where
  gap h := by simp [isDelim_of_isGap h]
  bracket := rfl

/-- What does not go on with an attribute name goes on with a delimiter. -/
lemma isDelim_of_not_isNameChar {c} (h : isNameChar c = false) : isDelim c = true := by
  simp only [isNameChar, Bool.and_eq_false_iff, Bool.not_eq_false', bne_eq_false_iff_eq] at h
  rcases h with ((h | rfl) | rfl) | rfl
  · simp [isDelim, isGap, h]
  all_goals rfl

/-- The name of a tag ends at a delimiter. -/
lemma isDelim_of_not_isTagNameChar {c} (h : isTagNameChar c = false) : isDelim c = true := by
  refine isDelim_of_not_isNameChar ?_
  simp only [isTagNameChar, isNameChar] at h ⊢
  rw [h, Bool.false_and]

/-- A value without quotes ends at a delimiter. -/
lemma isDelim_of_not_isValueChar {c} (h : isValueChar c = false) : isDelim c = true := by
  simp only [isValueChar, Bool.and_eq_false_iff, Bool.not_eq_false', bne_eq_false_iff_eq] at h
  rcases h with h | rfl
  · simp [isDelim, isGap, h]
  · rfl

/-- Attributes that start with a delimiter are pruned of their handlers without touching what stands
before them. -/
lemma pruned_release {tail attrs rest pruned} (h : ReadableAttrs tail attrs)
    (stop : Stops (!isDelim ·) (attrsText attrs tail))
    (free : Pruned true (attrsText attrs tail ++ rest)
      (attrsText (filterAttrs false attrs) tail ++ pruned)) :
    Pruned false (attrsText attrs tail ++ rest)
      (attrsText (filterAttrs false attrs) tail ++ pruned) := by
  have stop' := stops_filterAttrs_false isInner_notDelim h stop
  exact .release ((stops_append_iff (attrsText_ne_nil _ _) rest).2 stop)
    ((stops_append_iff (attrsText_ne_nil _ _) pruned).2 stop') free

/-- Behind an attribute a delimiter stands, unless its last character is one. -/
lemma Assigned.ends {next assign value} (h : Assigned next assign value) :
    Stops (!isDelim ·) next ∨ ∃ cs q, assign ++ value = cs ++ [q] ∧ isDelim q = true := by
  cases h with
  | nothing stop _ =>
    exact .inl fun c hc => by simp [isDelim_of_not_isNameChar (stop c hc)]
  | @quoted before after body q _ _ quote _ =>
    exact .inr ⟨before ++ '=' :: after ++ q :: body, q, by simp, by simp [isDelim, quote]⟩
  | unquoted _ _ _ _ stop =>
    exact .inl fun c hc => by simp [isDelim_of_not_isValueChar (stop c hc)]
  | empty _ _ bracket =>
    refine .inl fun c hc => ?_
    rw [bracket, Option.mem_def, Option.some.injEq] at hc
    rw [← hc]
    rfl

/-- The gap of an attribute that stays is left, or a space is put in its place. -/
lemma pruned_gap {a : Attribute} {dropped source pruned} (gap : ∀ c ∈ a.gap, isGap c = true)
    (h : Pruned true source pruned) :
    Pruned true (a.gap ++ source) ((a.kept dropped).gap ++ pruned) := by
  have left := h.append_delims fun c hc => isDelim_of_isGap (gap c hc)
  cases dropped with
  | false => simpa [Attribute.kept] using left
  | true =>
    cases e : a.gap with
    | nil =>
      have put : Pruned true source (' ' :: pruned) := .insert rfl (by decide) h
      simpa [Attribute.kept, Attribute.setApart, e] using put
    | cons c cs => simpa [Attribute.kept, Attribute.setApart, e] using left

/-- An attribute that stays is pruned of a script address at most. -/
lemma pruned_kept {a : Attribute} {dropped tail attrs rest pruned}
    (gap : ∀ c ∈ a.gap, isGap c = true)
    (assigned : Assigned (attrsText attrs tail) a.assign a.value)
    (readable : ReadableAttrs tail attrs)
    (h : Pruned true (attrsText attrs tail ++ rest)
      (attrsText (filterAttrs false attrs) tail ++ pruned)) :
    Pruned true (a.text ++ (attrsText attrs tail ++ rest))
      ((a.kept dropped).text ++ (attrsText (filterAttrs false attrs) tail ++ pruned)) := by
  have bracket : '>' ∈ attrsText attrs tail ++ rest :=
    List.mem_append_left rest (bracket_mem_attrsText attrs tail)
  simp only [Attribute.text, List.append_assoc, Attribute.name_kept]
  refine pruned_gap gap ?_
  rcases a.kept_cases dropped with ⟨_, e₁, e₂⟩ | ⟨_, e₁, e₂⟩
  · rw [e₁, e₂]
    rcases assigned.ends with stop | ⟨cs, q, e, delim⟩
    · -- what follows ends the attribute in both texts
      have h := (pruned_release readable stop h).append (b := true) bracket
        (a.name ++ (a.assign ++ a.value))
      simpa using h
    · -- the attribute ends by itself
      have h := h.append_delim (b := true) (List.mem_cons_of_mem q bracket) delim (a.name ++ cs)
      have e' (next : List Char) : a.assign ++ (a.value ++ next) = cs ++ q :: next := by
        rw [← List.append_assoc, e, List.append_assoc, List.singleton_append]
      simpa [e'] using h
  · -- the address is taken out behind the name, where the source goes on with a delimiter
    rw [e₁, e₂]
    have stop : Stops (!isDelim ·) (a.assign ++ (a.value ++ (attrsText attrs tail ++ rest))) := by
      have next := (assigned_append_iff (bracket_mem_attrsText attrs tail) rest).2 assigned
      intro c hc
      simp [isDelim_of_not_isNameChar (next.stops_name c (by simpa using hc))]
    have out := (h.skip_append a.value).skip_append a.assign
    have hash : Pruned true (a.assign ++ (a.value ++ (attrsText attrs tail ++ rest)))
        ('=' :: '"' :: '#' :: '"' :: (attrsText (filterAttrs false attrs) tail ++ pruned)) :=
      .insert rfl (by decide) <| .insert rfl (by decide) <| .insert rfl (by decide) <|
        .insert rfl (by decide) out
    have h : Pruned false _ _ := .release stop (stops_cons.2 rfl) hash
    refine h.append ?_ a.name
    simp [bracket]

/-- Behind a delimiter, attributes are pruned by filtering them. -/
lemma pruned_filterAttrs {tail attrs rest pruned} (h : ReadableAttrs tail attrs)
    (next : Pruned true rest pruned) (dropped : Bool) :
    Pruned true (attrsText attrs tail ++ rest)
      (attrsText (filterAttrs dropped attrs) tail ++ pruned) := by
  induction h generalizing dropped with
  | nil =>
    have h := next.append_delim (b := true) List.mem_cons_self rfl tail
    simpa [filterAttrs] using h
  | @cons a attrs gap name assigned readable ih =>
    cases handler : a.isHandler with
    | true =>
      rw [filterAttrs_handler handler, attrsText_cons, List.append_assoc]
      exact (ih true).skip_append a.text
    | false =>
      rw [filterAttrs_kept handler, attrsText_cons, attrsText_cons, List.append_assoc,
        List.append_assoc]
      exact pruned_kept gap assigned readable (ih false)

/-- A start tag is pruned by filtering it. -/
lemma pruned_filtered {t : StartTag} {rest pruned} (h : t.Readable)
    (next : Pruned true rest pruned) :
    Pruned false (t.text ++ rest) (t.filtered.text ++ pruned) := by
  have stop : Stops (!isDelim ·) (attrsText t.attrs t.tail) := fun c hc => by
    simp [isDelim_of_not_isTagNameChar (h.stop c hc)]
  have free := pruned_filterAttrs h.attrs next false
  have bracket : '>' ∈ attrsText t.attrs t.tail ++ rest :=
    List.mem_append_left rest (bracket_mem_attrsText t.attrs t.tail)
  have h := (pruned_release h.attrs stop free).append (b := false) bracket ('<' :: t.name)
  simpa [StartTag.text_eq, StartTag.filtered] using h

/-- Filtered markup is what is left of the markup after pruning it. -/
theorem pruned_filterTags (cs : List Char) : Pruned false cs (filterTags cs) := by
  induction cs using pieces_induction with
  | nil =>
    rw [filterTags_nil]
    exact .done fun _ => rfl
  | char c cs h ih =>
    rw [filterTags_char h]
    refine .keep (fun e letter => ?_) ih.ofFalse
    rw [e, letter] at h
    cases h
  | tag t rest readable letter ih =>
    -- behind the bracket of the tag the texts may part, as behind any delimiter
    rw [filterTags_text readable letter]
    exact pruned_filtered readable ih.free
  | unclosed cs letter h =>
    -- nothing is left from a `<` on that is still open at the end
    rw [filterTags_unclosed letter h]
    exact .done fun _ => rfl

end EmailTemplate.Markup
