import EmailTemplate.Proofs.Markup.Harmless
import EmailTemplate.Proofs.Markup.Openers
import EmailTemplate.Proofs.Markup.Shrinking
import EmailTemplate.Proofs.Text.Name

/-!
# Sanitizing twice

Sanitized markup is left as it is when it is sanitized again, with two exceptions, which both come
from attributes that became neighbours when a handler between them was left out: a start tag may
fuse, so that it is read in another way the second time, and what is left of it may hold the end tag
of a forbidden element, which stripping then takes for a stray one. The main statement,
`sanitize_sanitize_iff`, is that nothing else makes a difference.
-/

namespace EmailTemplate.Markup
open EmailTemplate.Text

/-- The end tags that raw markup must not hold. -/
def endTagNames : List String :=
  ["/head", "/style", "/script", "/html", "/body", "/meta", "/title"]

/-- An end tag that raw markup must not hold. -/
def strayEndTag : Construct :=
  token endTagNames

/-- A text that begins with one of the names at a word's end, and has a bracket behind it. -/
def BeginsToken (names : List String) (cs : List Char) : Prop :=
  ∃ name ∈ names, ∃ after, afterName? name.toList cs = some after ∧ atWordEnd after = true ∧
    '>' ∈ after

/-- A bracket that is passed over stands in the text. -/
lemma bracket_mem_of_afterBracket? {cs rest : List Char} (h : afterBracket? cs = some rest) :
    '>' ∈ cs := by
  rw [← eq_of_afterBracket? h]
  exact List.mem_append_right _ List.mem_cons_self

/-- A token is found exactly where one of the names begins it. -/
lemma isSome_afterToken?_iff {names : List String} {cs : List Char} :
    (afterToken? (names.map String.toList) cs).isSome = true ↔ BeginsToken names cs := by
  constructor
  · intro h
    obtain ⟨rest, h⟩ := Option.isSome_iff_exists.1 h
    obtain ⟨_, inside, h⟩ := List.exists_of_findSome?_eq_some h
    obtain ⟨name, mem, rfl⟩ := List.mem_map.1 inside
    obtain ⟨after, found, h⟩ := Option.bind_eq_some_iff.1 h
    split at h
    case isTrue word => exact ⟨name, mem, after, found, word, bracket_mem_of_afterBracket? h⟩
    case isFalse => simp at h
  · rintro ⟨name, mem, after, found, word, bracket⟩
    exact isSome_afterToken? (List.mem_map_of_mem mem) found word bracket

/-- A token construct opens exactly where one of its names begins it. -/
lemma opens_token_iff {names cs} :
    (token names).opens ('<' :: cs) = true ↔ BeginsToken names cs := by
  rw [← isSome_afterToken?_iff]
  exact Iff.rfl

/-- An element opens exactly where its name begins a token. -/
lemma opens_element_iff {name cs} :
    (element name).opens ('<' :: cs) = true ↔ BeginsToken [name] cs := by
  rw [← isSome_afterToken?_iff]
  show ((afterToken? _ cs).map _).isSome = true ↔ _
  rw [Option.isSome_map]
  exact Iff.rfl

/-- With more names, more texts begin a token. -/
lemma BeginsToken.mono {names names' cs} (h : BeginsToken names cs)
    (sub : ∀ name ∈ names, name ∈ names') : BeginsToken names' cs := by
  obtain ⟨name, mem, h⟩ := h
  exact ⟨name, sub name mem, h⟩

/-- A construct that is present opens at some `<`. -/
lemma Construct.not_absent_iff {p : Construct} {cs : List Char} :
    ¬p.Absent cs ↔ ∃ rest, ('<' :: rest) <:+ cs ∧ p.opens ('<' :: rest) = true := by
  constructor
  · intro h
    simp only [Construct.Absent, not_forall] at h
    obtain ⟨t, suffix, opens⟩ := h
    cases t with
    | nil => simp [Construct.opens] at opens
    | cons c rest =>
      have first : c = '<' := by
        simp only [Construct.opens, Bool.not_eq_false, Bool.and_eq_true, beq_iff_eq] at opens
        exact opens.1
      rw [first] at suffix opens
      exact ⟨rest, suffix, by simpa using opens⟩
  · rintro ⟨rest, suffix, opens⟩ absent
    rw [absent _ suffix] at opens
    exact absurd opens Bool.false_ne_true

/-- A forbidden construct begins with the name of an element, of a declaration or of an end tag. -/
lemma beginsToken_of_opens {p rest} (mem : p ∈ forbidden) (opens : p.opens ('<' :: rest) = true) :
    BeginsToken ((elementNames ++ declarationNames) ++ endTagNames) rest := by
  simp only [forbidden, List.mem_cons, List.not_mem_nil, or_false] at mem
  rcases mem with rfl | rfl | rfl | rfl | rfl
  · exact (opens_element_iff.1 opens).mono (by decide)
  · exact (opens_element_iff.1 opens).mono (by decide)
  · exact (opens_element_iff.1 opens).mono (by decide)
  · exact (opens_token_iff.1 opens).mono (by decide)
  · exact (opens_token_iff.1 opens).mono (by decide)

/-- An end tag is forbidden on its own or together with the tags of the document. -/
lemma exists_opens_of_endTag {rest} (h : BeginsToken endTagNames rest) :
    ∃ p ∈ forbidden, p.opens ('<' :: rest) = true := by
  have either : ∀ name ∈ endTagNames, name ∈ ["/head", "/style", "/script"] ∨
      name ∈ ["!doctype", "?xml", "html", "/html", "body", "/body", "meta", "/meta", "title",
        "/title"] := by
    decide
  obtain ⟨name, mem, h⟩ := h
  rcases either name mem with mem | mem
  · exact ⟨_, by simp [forbidden], opens_token_iff.2 ⟨name, mem, h⟩⟩
  · exact ⟨_, by simp [forbidden], opens_token_iff.2 ⟨name, mem, h⟩⟩

/-- Markup without forbidden constructs has no stray end tags either. -/
lemma absent_strayEndTag {cs : List Char} (h : ∀ p ∈ forbidden, p.Absent cs) :
    strayEndTag.Absent cs := by
  by_contra present
  obtain ⟨rest, suffix, opens⟩ := Construct.not_absent_iff.1 present
  obtain ⟨p, mem, opens⟩ := exists_opens_of_endTag (opens_token_iff.1 opens)
  rw [h p mem _ suffix] at opens
  exact absurd opens Bool.false_ne_true

/-- Filtering stripped markup brings back no forbidden construct but end tags. -/
lemma absent_filterTags_strip_iff (cs : List Char) :
    (∀ p ∈ forbidden, p.Absent (filterTags (strip cs))) ↔
      strayEndTag.Absent (filterTags (strip cs)) := by
  constructor
  · exact absent_strayEndTag
  · intro h p mem
    by_contra present
    obtain ⟨rest, suffix, opens⟩ := Construct.not_absent_iff.1 present
    obtain ⟨name, mem, after, found, word, bracket⟩ := beginsToken_of_opens mem opens
    rcases List.mem_append.1 mem with mem | mem
    · have opening :
          Opening (elementNames ++ declarationNames) (filterTags (strip cs)) rest after :=
        ⟨suffix, name, mem, found, word⟩
      obtain ⟨-, -, -, none⟩ := exists_opening_strip (fun _ => id) opening
      exact none bracket
    · have opens : strayEndTag.opens ('<' :: rest) = true :=
        opens_token_iff.2 ⟨name, mem, after, found, word, bracket⟩
      rw [h _ suffix] at opens
      exact absurd opens Bool.false_ne_true

/-- No end tag's name goes beyond a bracket. -/
lemma bracket_notMem_endTagNames : ∀ name ∈ endTagNames, '>' ∉ name.toList := by
  decide

/-- In front of a bracket, what stands behind it does not matter for an end tag. -/
lemma beginsToken_append_bracket_iff {cs : List Char} (next : List Char) :
    BeginsToken endTagNames (cs ++ '>' :: next) ↔
      ∃ name ∈ endTagNames, ∃ after, afterName? name.toList cs = some after ∧
        atWordEnd after = true := by
  have word (after : List Char) : atWordEnd (after ++ '>' :: next) = atWordEnd after := by
    cases after with
    | nil => rfl
    | cons => rfl
  constructor
  · rintro ⟨name, mem, _, found, atEnd, -⟩
    obtain ⟨after, inside, rfl⟩ :=
      afterName?_append_cons (bracket_notMem_endTagNames name mem) rfl next found
    exact ⟨name, mem, after, inside, (word after).symm.trans atEnd⟩
  · rintro ⟨name, mem, after, found, atEnd⟩
    exact ⟨name, mem, after ++ '>' :: next, afterName?_append found _, (word after).trans atEnd,
      by simp⟩

/-- An end tag in front of a bracket and one behind it do not see each other. -/
lemma absent_append_bracket_iff (cs next : List Char) :
    strayEndTag.Absent (cs ++ '>' :: next) ↔
      strayEndTag.Absent (cs ++ ['>']) ∧ strayEndTag.Absent next := by
  induction cs with
  | nil =>
    rw [List.nil_append, List.nil_append, Construct.absent_cons_iff, Construct.absent_cons_iff]
    exact ⟨fun h => ⟨⟨rfl, strayEndTag.absent_nil⟩, h.2⟩, fun h => ⟨rfl, h.2⟩⟩
  | cons c cs ih =>
    have same : strayEndTag.opens (c :: (cs ++ '>' :: next)) =
        strayEndTag.opens (c :: (cs ++ ['>'])) := by
      by_cases first : c = '<'
      · rw [first, Bool.eq_iff_iff, strayEndTag, opens_token_iff, opens_token_iff,
          beginsToken_append_bracket_iff, beginsToken_append_bracket_iff]
      · have first : (c == '<') = false := by simpa using first
        rw [Construct.opens, Construct.opens, first]
        rfl
    rw [List.cons_append, List.cons_append, Construct.absent_cons_iff, Construct.absent_cons_iff,
      ih, same, and_assoc]

/-- A name without a `<` stands at the start of filtered markup only where it stood before. -/
lemma afterName?_filterTags {name cs after : List Char} (plain : '<' ∉ name)
    (h : afterName? name (filterTags cs) = some after) :
    ∃ after', afterName? name cs = some after' ∧ after = filterTags after' := by
  induction name generalizing cs with
  | nil =>
    cases h
    exact ⟨cs, rfl, rfl⟩
  | cons n name ih =>
    cases cs with
    | nil => simp [filterTags, pieces, afterName?] at h
    | cons c cs =>
      cases tag : c == '<' && startsWithLetter cs with
      | true =>
        -- a tag starts with its `<`, and the name does not
        have head := head?_filterTags c cs
        rw [Bool.and_eq_true, beq_iff_eq] at tag
        cases e : filterTags (c :: cs) with
        | nil => simp [e, afterName?] at h
        | cons d ds =>
          rw [e] at head h
          rw [head d rfl, tag.1, afterName?] at h
          split at h
          case isTrue same =>
            have same : '<' = n := by simpa [show foldCase '<' = '<' from rfl] using same
            exact absurd (same ▸ List.mem_cons_self) plain
          case isFalse => simp at h
      | false =>
        rw [filterTags_char tag, afterName?] at h
        split at h
        case isTrue same =>
          obtain ⟨after', found, rfl⟩ := ih (fun mem => plain (List.mem_cons_of_mem n mem)) h
          exact ⟨after', by rw [afterName?, if_pos same, found], rfl⟩
        case isFalse => simp at h

/-- Where a word ends in filtered markup, it ended before. -/
lemma atWordEnd_filterTags {cs : List Char} (h : atWordEnd (filterTags cs) = true) :
    atWordEnd cs = true := by
  cases cs with
  | nil => rfl
  | cons c cs =>
    cases tag : c == '<' && startsWithLetter cs with
    | true =>
      rw [Bool.and_eq_true, beq_iff_eq] at tag
      rw [tag.1]
      rfl
    | false =>
      rw [filterTags_char tag] at h
      exact h

/-- Outside start tags, filtering brings no end tag about. -/
lemma beginsToken_of_filterTags {cs : List Char}
    (h : BeginsToken endTagNames (filterTags cs)) : BeginsToken endTagNames cs := by
  obtain ⟨name, mem, _, found, word, bracket⟩ := h
  have plain : ∀ name ∈ endTagNames, '<' ∉ name.toList := by decide
  obtain ⟨after, inside, rfl⟩ := afterName?_filterTags (plain name mem) found
  exact ⟨name, mem, after, inside, atWordEnd_filterTags word,
    (pruned_filterTags after).bracket_mem bracket⟩

/-- Filtering brings a stray end tag about only within what it writes for a start tag. -/
lemma absent_filterTags_iff {cs : List Char} (h : strayEndTag.Absent cs) :
    strayEndTag.Absent (filterTags cs) ↔
      ∀ t ∈ startTags cs, strayEndTag.Absent t.filtered.text := by
  rw [startTags_eq]
  induction cs using pieces_induction with
  | nil =>
    rw [filterTags_nil, pieces]
    exact iff_of_true strayEndTag.absent_nil (by simp)
  | char c cs plain ih =>
    obtain ⟨head, behind⟩ := Construct.absent_cons_iff.1 h
    have stays : strayEndTag.opens (c :: filterTags cs) = false := by
      rw [Bool.eq_false_iff] at head ⊢
      intro opens
      apply head
      have first : c = '<' := by
        rw [Construct.opens, Bool.and_eq_true, beq_iff_eq] at opens
        exact opens.1
      rw [first] at opens ⊢
      exact opens_token_iff.2 (beginsToken_of_filterTags (opens_token_iff.1 opens))
    rw [filterTags_char plain, pieces_char plain, List.filterMap_cons_none rfl, ← ih behind]
    exact Construct.absent_cons_iff.trans (and_iff_right stays)
  | tag t rest readable letter ih =>
    -- what is written for the tag ends with its bracket, which no end tag's name goes beyond
    have behind : strayEndTag.Absent rest := fun s hs => h s (hs.trans ⟨t.text, rfl⟩)
    have tags : (Piece.tag t :: pieces rest).filterMap Piece.tag? =
        t :: (pieces rest).filterMap Piece.tag? := rfl
    have text : t.filtered.text ++ filterTags rest = '<' :: t.filtered.name ++
        t.filtered.attrs.flatMap Attribute.text ++ t.filtered.tail ++ '>' :: filterTags rest := by
      rw [StartTag.text, List.append_assoc]
      rfl
    rw [filterTags_text readable letter, text, absent_append_bracket_iff, ih behind,
      pieces_text readable letter, tags, List.forall_mem_cons]
    exact Iff.rfl
  | unclosed cs letter unread =>
    rw [filterTags_unclosed letter unread, pieces_unclosed letter unread]
    exact iff_of_true strayEndTag.absent_nil (by simp [Piece.tag?])

/-- Attributes that run no script are written as they were. -/
lemma filterAttrs_of_harmless {attrs : List Attribute}
    (h : ∀ a ∈ attrs, isEventHandler a.name = false ∧ ¬(isLinkName a.name ∧ isScriptUri a.value)) :
    filterAttrs false attrs = attrs := by
  induction attrs with
  | nil => rfl
  | cons a attrs ih =>
    obtain ⟨handler, script⟩ := h a List.mem_cons_self
    have runs : a.runsScript = false := by simpa [Attribute.runsScript] using script
    have same : a.kept false = a := by simp [Attribute.kept, Attribute.disarmed, runs]
    rw [filterAttrs_kept handler, same, ih fun b hb => h b (List.mem_cons_of_mem a hb)]

/-- A start tag that has been filtered is left as it is. -/
lemma StartTag.filtered_filtered (t : StartTag) : t.filtered.filtered = t.filtered := by
  have same : filterAttrs false t.filtered.attrs = t.filtered.attrs :=
    filterAttrs_of_harmless t.harmless_filtered
  rw [StartTag.filtered, same]

/-- Filtered markup is left as it is by filtering it again exactly if what is written from the first
start tag on that fuses is. -/
lemma filterTags_filterTags_iff (cs : List Char) :
    filterTags (filterTags cs) = filterTags cs ↔
      filterTags (rewritten (fromFusion (pieces cs))) = rewritten (fromFusion (pieces cs)) := by
  have kept : ∀ ps : List Piece, rewritten (ps.filterMap Piece.kept?) = rewritten ps := by
    intro ps
    induction ps with
    | nil => rfl
    | cons p ps ih =>
      cases p with
      | char c => exact congrArg (c :: ·) ih
      | tag t =>
        show t.filtered.filtered.text ++ _ = t.filtered.text ++ _
        rw [t.filtered_filtered]
        exact congrArg (t.filtered.text ++ ·) ih
      | unclosed u => exact ih
  have split : filterTags cs =
      rewritten (beforeFusion (pieces cs)) ++ rewritten (fromFusion (pieces cs)) := by
    rw [rewritten, rewritten, ← List.flatMap_append, beforeFusion, fromFusion,
      List.takeWhile_append_dropWhile, filterTags]
  have again : filterTags (filterTags cs) = rewritten (beforeFusion (pieces cs)) ++
      filterTags (rewritten (fromFusion (pieces cs))) := by
    rw [filterTags, pieces_filterTags, List.flatMap_append, ← filterTags]
    exact congrArg (· ++ _) (kept _)
  rw [again, split]
  exact List.append_right_inj _

/-- Sanitized markup is left as it is by sanitizing it again exactly if no start tag of the stripped
markup is written with a stray end tag in it, and what is written from the first start tag on that
fuses is left as it is by filtering. Where no start tag has such an end tag and none fuses, it is
left as it is. -/
theorem sanitize_sanitize_iff (m : String) :
    (sanitize (sanitize m) = sanitize m ↔
      (∀ t ∈ startTags (strip m.toList), strayEndTag.Absent t.filtered.text) ∧
        filterTags (rewritten (fromFusion (pieces (strip m.toList)))) =
          rewritten (fromFusion (pieces (strip m.toList)))) ∧
    ((∀ t ∈ startTags (strip m.toList),
        strayEndTag.Absent t.filtered.text ∧ t.fuses = false) →
      sanitize (sanitize m) = sanitize m) := by
  have chars : sanitize (sanitize m) = sanitize m ↔
      sanitizeChars (sanitizeChars m.toList) = sanitizeChars m.toList := by
    rw [sanitize, sanitize, String.toList_ofList, String.ofList_inj]
  have stray : strayEndTag.Absent (strip m.toList) := absent_strayEndTag (absent_strip m.toList)
  have iff : sanitize (sanitize m) = sanitize m ↔
      (∀ t ∈ startTags (strip m.toList), strayEndTag.Absent t.filtered.text) ∧
        filterTags (rewritten (fromFusion (pieces (strip m.toList)))) =
          rewritten (fromFusion (pieces (strip m.toList))) := by
    rw [chars, sanitizeChars_eq_self_iff, strip_eq_self_iff, sanitizeChars,
      absent_filterTags_strip_iff, absent_filterTags_iff stray, filterTags_filterTags_iff]
  refine ⟨iff, fun separate => iff.2 ⟨fun t mem => (separate t mem).1, ?_⟩⟩
  rw [fromFusion_eq_nil fun t mem => (separate t mem).2, rewritten, List.flatMap_nil, filterTags,
    pieces, List.flatMap_nil]

/-- A handler behind a name without a value, in front of a stray end tag. -/
theorem sanitize_sanitize_separate :
    (∀ t ∈ startTags (strip "<a href onclick=1>x</script>".toList),
      strayEndTag.Absent t.filtered.text ∧ t.fuses = false) ∧
    sanitize (sanitize "<a href onclick=1>x</script>") =
      sanitize "<a href onclick=1>x</script>" := by
  have separate : ∀ t ∈ startTags (strip "<a href onclick=1>x</script>".toList),
      strayEndTag.Absent t.filtered.text ∧ t.fuses = false := by
    decide +kernel
  exact ⟨separate, (sanitize_sanitize_iff _).2 separate⟩

/-- Without the handler, the name that is a `<`, the slash behind it and the name behind that are
taken for an end tag; without the end tag, nothing is left. -/
theorem sanitize_sanitize_ne :
    sanitize "<a < onclick=\"1\"/script>" = "<a </script>" ∧
    sanitize (sanitize "<a < onclick=\"1\"/script>") ≠
      sanitize "<a < onclick=\"1\"/script>" := by
  have once : sanitize "<a < onclick=\"1\"/script>" = "<a </script>" := by decide +kernel
  have twice : sanitize "<a </script>" = "" := by decide +kernel
  refine ⟨once, ?_⟩
  rw [once, twice]
  decide

end EmailTemplate.Markup
