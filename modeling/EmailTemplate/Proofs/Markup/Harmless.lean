import EmailTemplate.Markup.Sanitize
import EmailTemplate.Proofs.Markup.Pieces
import EmailTemplate.Proofs.Markup.Stripping

/-!
# Harmless start tags

A filtered start tag has no event handlers and no script addresses. What is written is however read
again by somebody else, and reading finds the filtered tags only as far as no tag fuses: from the
first one that does, attributes that nobody has checked may come out of the text. The main
statement, `harmless_sanitize_iff`, says exactly when sanitized markup reads harmless.
-/

namespace EmailTemplate.Markup
open EmailTemplate.Text

/-- A start tag that runs no script: no attribute is an event handler, and none is a link or a
source with a script address. -/
def StartTag.Harmless (t : StartTag) : Prop :=
  ∀ a ∈ t.attrs, isEventHandler a.name = false ∧ ¬(isLinkName a.name ∧ isScriptUri a.value)

/-- What is put in place of a script address is none. -/
lemma isScriptUri_hash : isScriptUri ['"', '#', '"'] = false := by
  have h : address ['"', '#', '"'] = ['#'] := by
    simp [address, Text.trimWhere, isQuote, Html.decodeRefs, isBlank, isControl]
  rw [isScriptUri, h]
  rfl

/-- Filtered attributes are no event handlers and have no script addresses. -/
lemma harmless_filterAttrs (dropped : Bool) (attrs : List Attribute) :
    ∀ a ∈ filterAttrs dropped attrs,
      isEventHandler a.name = false ∧ ¬(isLinkName a.name ∧ isScriptUri a.value) := by
  induction attrs generalizing dropped with
  | nil => simp [filterAttrs]
  | cons a attrs ih =>
    cases handler : a.isHandler with
    | true =>
      rw [filterAttrs_handler handler]
      exact ih true
    | false =>
      rw [filterAttrs_kept handler]
      rintro b (_ | ⟨_, hb⟩)
      · refine ⟨by simpa [Attribute.isHandler] using handler, ?_⟩
        rcases a.kept_cases dropped with ⟨runs, _, e⟩ | ⟨_, _, e⟩
        · simpa [e, Attribute.runsScript] using runs
        · simp [e, isScriptUri_hash]
      · exact ih false b hb

/-- No filtered start tag runs script, whatever it was before. -/
lemma StartTag.harmless_filtered (t : StartTag) : t.filtered.Harmless :=
  harmless_filterAttrs false t.attrs

/-- Up to the first fusion, filtered markup has the filtered start tags. -/
lemma startTags_filterTags (cs : List Char) :
    startTags (filterTags cs) =
      ((beforeFusion (pieces cs)).filterMap Piece.tag?).map StartTag.filtered ++
        startTags (rewritten (fromFusion (pieces cs))) := by
  have kept (p : Piece) : p.kept?.bind Piece.tag? = p.tag?.map StartTag.filtered := by
    cases p <;> rfl
  rw [startTags_eq, startTags_eq, pieces_filterTags, List.filterMap_append,
    List.filterMap_filterMap, List.map_filterMap]
  simp only [kept]

/-- Where no start tag fuses, everything stands in front of the first fusion. -/
lemma fromFusion_eq_nil {cs : List Char} (h : ∀ t ∈ startTags cs, t.fuses = false) :
    fromFusion (pieces cs) = [] := by
  refine List.dropWhile_eq_nil_iff.2 fun p hp => ?_
  cases p with
  | char => rfl
  | unclosed => rfl
  | tag t =>
    have := h t (List.mem_filterMap.2 ⟨.tag t, hp, rfl⟩)
    simp [Piece.fuses, this]

/-- Sanitized markup reads harmless exactly if what is written from the first start tag on that
fuses reads harmless by itself. Where no start tag of the stripped markup fuses, it does. -/
theorem harmless_sanitize_iff (m : String) :
    ((∀ t ∈ startTags (sanitize m).toList, t.Harmless) ↔
      ∀ t ∈ startTags (rewritten (fromFusion (pieces (strip m.toList)))), t.Harmless) ∧
    ((∀ t ∈ startTags (strip m.toList), t.fuses = false) →
      ∀ t ∈ startTags (sanitize m).toList, t.Harmless) := by
  have iff : (∀ t ∈ startTags (sanitize m).toList, t.Harmless) ↔
      ∀ t ∈ startTags (rewritten (fromFusion (pieces (strip m.toList)))), t.Harmless := by
    rw [sanitize, String.toList_ofList, sanitizeChars, startTags_filterTags]
    constructor
    · exact fun h t ht => h t (List.mem_append_right _ ht)
    · intro h t ht
      -- the tags in front of the first fusion are filtered ones, and so harmless in any case
      rcases List.mem_append.1 ht with ht | ht
      · obtain ⟨t, -, rfl⟩ := List.mem_map.1 ht
        exact t.harmless_filtered
      · exact h t ht
  refine ⟨iff, fun apart => iff.2 ?_⟩
  rw [fromFusion_eq_nil apart, rewritten, List.flatMap_nil, startTags, pieces]
  exact List.forall_mem_nil _

/-- A handler behind a name without a value, and a script address behind a name with one. -/
theorem harmless_sanitize_separate :
    (∀ t ∈ startTags (strip "<a href onclick=1>x</a><a href=javascript:1>y".toList),
      t.fuses = false) ∧
    ∀ t ∈ startTags (sanitize "<a href onclick=1>x</a><a href=javascript:1>y").toList,
      t.Harmless := by
  have apart : ∀ t ∈ startTags (strip "<a href onclick=1>x</a><a href=javascript:1>y".toList),
      t.fuses = false := by
    decide +kernel
  exact ⟨apart, (harmless_sanitize_iff _).2 apart⟩

/-- A link without an address, an event handler, and a name that begins with an equals sign. -/
def spacedLink : StartTag where
  name := "a".toList
  attrs :=
    [⟨" ".toList, "href".toList, [], []⟩,
      ⟨" ".toList, "onclick".toList, "=".toList, "1".toList⟩,
      ⟨" ".toList, "=javascript:alert(1)".toList, [], []⟩]
  tail := []

/-- A link with a script address. -/
def scriptLink : StartTag where
  name := "a".toList
  attrs := [⟨" ".toList, "href".toList, " =".toList, "javascript:alert(1)".toList⟩]
  tail := []

/-- The link with the handler is read back from its text. -/
lemma readable_spacedLink : spacedLink.Readable where
  name := by decide
  stop := by decide
  attrs := by
    have value : Assigned " =javascript:alert(1)>".toList ([] ++ '=' :: []) ['1'] :=
      .unquoted (by decide) (by decide) rfl (by decide) (by decide)
    refine .cons (by decide) ⟨_, _, rfl, rfl, by decide, by decide⟩ ?_ ?_
    · exact .nothing (by decide) (by decide)
    refine .cons (by decide) ⟨_, _, rfl, rfl, by decide, by decide⟩ value ?_
    refine .cons (by decide) ⟨_, _, rfl, rfl, by decide, by decide⟩ ?_ ?_
    · exact .nothing (by decide) (by decide)
    exact .nil (by decide)

/-- The link with the script address is read back from its text. -/
lemma readable_scriptLink : scriptLink.Readable where
  name := by decide
  stop := by decide
  attrs := by
    have value : Assigned ">".toList ([' '] ++ '=' :: []) "javascript:alert(1)".toList :=
      .unquoted (by decide) (by decide) rfl (by decide) (by decide)
    exact .cons (by decide) ⟨_, _, rfl, rfl, by decide, by decide⟩ value (.nil (by decide))

/-- Without the handler the name is the address of the link. -/
lemma text_filtered_spacedLink : spacedLink.filtered.text = scriptLink.text := by
  have link : (Attribute.mk " ".toList "href".toList [] []).kept false =
      ⟨" ".toList, "href".toList, [], []⟩ := by
    simp [Attribute.kept, Attribute.disarmed, Attribute.runsScript, isScriptUri_nil]
  have name : (Attribute.mk " ".toList "=javascript:alert(1)".toList [] []).kept true =
      ⟨" ".toList, "=javascript:alert(1)".toList, [], []⟩ := rfl
  have attrs : spacedLink.filtered.attrs =
      [⟨" ".toList, "href".toList, [], []⟩,
        ⟨" ".toList, "=javascript:alert(1)".toList, [], []⟩] := by
    change filterAttrs false spacedLink.attrs = _
    rw [spacedLink, filterAttrs_kept rfl, filterAttrs_handler (by decide), filterAttrs_kept rfl,
      filterAttrs, link, name]
  rw [StartTag.text, attrs]
  rfl

/-- A handler between a link and a name that begins with an equals sign is all that keeps the name
from being the address: without it, the link runs script. -/
theorem harmful_sanitize_spacedLink :
    ¬∀ t ∈ startTags (sanitize "<a href onclick=1 =javascript:alert(1)>").toList, t.Harmless := by
  have markup : "<a href onclick=1 =javascript:alert(1)>".toList = spacedLink.text ++ [] := rfl
  have stripped : strip (spacedLink.text ++ []) = spacedLink.text ++ [] :=
    strip_eq_self_iff.2 (by decide)
  have output : filterTags (spacedLink.text ++ []) = scriptLink.text ++ [] := by
    rw [filterTags, pieces_text readable_spacedLink rfl, pieces]
    simp [Piece.filtered, text_filtered_spacedLink]
  have runs : isScriptUri "javascript:alert(1)".toList = true := by
    simp [isScriptUri, address, Text.trimWhere, Html.decodeRefs, isQuote, isBlank, isControl,
      scriptSchemes]
  intro h
  rw [sanitize, String.toList_ofList, sanitizeChars, markup, stripped, output, startTags_eq,
    pieces_text readable_scriptLink rfl] at h
  exact (h scriptLink (by simp [Piece.tag?]) _ List.mem_cons_self).2 ⟨by decide, runs⟩

end EmailTemplate.Markup
