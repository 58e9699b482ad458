import EmailTemplate.Markup.Sanitize
import EmailTemplate.Proofs.Html.Decode
import EmailTemplate.Proofs.Markup.Pieces
import EmailTemplate.Proofs.Text.ByteLength

/-!
# Sanitizing shrinks markup

Sanitizing takes text out, and what it puts in is outweighed: a space stands for a handler that was
longer, and the harmless address for one with a scheme in it. So markup stays as it is or takes
fewer bytes (`shrinks_sanitizeChars`), and nothing is undone by a later change: sanitized markup is
the markup it was made from exactly if stripping and filtering leave it alone, each by itself
(`sanitizeChars_eq_self_iff`).
-/

namespace EmailTemplate.Markup
open EmailTemplate.Text EmailTemplate.Html

/-- Trimming makes a text no longer. -/
lemma length_trimWhere_le (p : Char → Bool) (cs : List Char) :
    (trimWhere p cs).length ≤ cs.length := by
  have front := (List.dropWhile_suffix p (l := cs)).length_le
  have back := (List.dropWhile_suffix p (l := (cs.dropWhile p).reverse)).length_le
  rw [List.length_reverse] at back
  rw [trimWhere, List.length_reverse]
  exact Nat.le_trans back front

/-- The address in a value is no longer than the value. -/
lemma length_address_le (value : List Char) : (address value).length ≤ value.length := by
  rw [address, List.length_map]
  calc (List.filter _ (decodeRefs (trimWhere isQuote value))).length
      ≤ (decodeRefs (trimWhere isQuote value)).length := List.length_filter_le _ _
    _ ≤ (trimWhere isQuote value).length := length_decodeRefs_le _
    _ ≤ value.length := length_trimWhere_le _ _

/-- A script address is as long as the shortest scheme at least. -/
lemma length_of_isScriptUri {value : List Char} (h : isScriptUri value = true) :
    "vbscript:".length ≤ value.length := by
  obtain ⟨scheme, mem, front⟩ := List.any_eq_true.1 h
  have inside := (List.isPrefixOf_iff_prefix.1 front).length_le
  have short : ∀ scheme ∈ scriptSchemes, "vbscript:".length ≤ scheme.length := by decide
  exact Nat.le_trans (short scheme mem) (Nat.le_trans inside (length_address_le value))

/-- An event handler's name is longer than the space that may be put in its place. -/
lemma length_of_isEventHandler {name : List Char} (h : isEventHandler name = true) :
    2 ≤ name.length := by
  unfold isEventHandler at h
  split at h
  case h_1 o n word => exact Nat.le_add_left 2 word.length
  case h_2 => exact absurd h Bool.false_ne_true

namespace Attribute

/-- An attribute takes the bytes of its parts. -/
lemma byteLength_text (a : Attribute) :
    byteLength a.text =
      byteLength a.gap + byteLength a.name + byteLength a.assign + byteLength a.value := by
  rw [text, byteLength_append, byteLength_append, byteLength_append]

/-- The harmless address is shorter than any that runs script. -/
lemma byteLength_disarmed_lt {a : Attribute} (runs : a.runsScript = true) :
    byteLength a.disarmed.text < byteLength a.text := by
  have script : isScriptUri a.value = true := by
    rw [runsScript, Bool.and_eq_true] at runs
    exact runs.2
  have long := Nat.le_trans (length_of_isScriptUri script) (length_le_byteLength a.value)
  have scheme : "vbscript:".length = 9 := rfl
  have hash : byteLength ['"', '#', '"'] = 3 ∧ byteLength ['='] = 1 := by decide
  rw [byteLength_text, byteLength_text, disarmed, if_pos runs]
  show byteLength a.gap + byteLength a.name + byteLength ['='] + byteLength ['"', '#', '"'] < _
  omega

/-- Replacing a script address makes an attribute shorter, and otherwise changes nothing. -/
lemma shrinks_disarmed (a : Attribute) : Shrinks a.disarmed.text a.text := by
  cases runs : a.runsScript with
  | false =>
    rw [disarmed, if_neg (by simp [runs])]
    exact .refl _
  | true => exact .inr (byteLength_disarmed_lt runs)

/-- Setting an attribute apart costs one byte at most. -/
lemma byteLength_setApart_le (a : Attribute) :
    byteLength a.setApart.text ≤ byteLength a.text + 1 := by
  have space : byteLength [' '] = 1 := by decide
  rw [byteLength_text, byteLength_text]
  unfold setApart
  split
  case isTrue =>
    show byteLength [' '] + byteLength a.name + byteLength a.assign + byteLength a.value ≤ _
    omega
  case isFalse => omega

/-- A handler takes two bytes at least. -/
lemma byteLength_of_isHandler {a : Attribute} (h : a.isHandler = true) : 2 ≤ byteLength a.text := by
  have long := Nat.le_trans (length_of_isEventHandler h) (length_le_byteLength a.name)
  rw [byteLength_text]
  omega

end Attribute

/-- Filtered attributes shrink; behind one that was dropped, a space may have been put in. -/
lemma shrinks_filterAttrs (attrs : List Attribute) :
    Shrinks ((filterAttrs false attrs).flatMap Attribute.text) (attrs.flatMap Attribute.text) ∧
    byteLength ((filterAttrs true attrs).flatMap Attribute.text) ≤
      byteLength (attrs.flatMap Attribute.text) + 1 := by
  induction attrs with
  | nil => exact ⟨.refl _, Nat.le_add_right _ 1⟩
  | cons a attrs ih =>
    obtain ⟨ihFalse, ihTrue⟩ := ih
    cases handler : a.isHandler with
    | true =>
      -- a handler is longer than the space that may come in for it
      have long := Attribute.byteLength_of_isHandler handler
      rw [filterAttrs_handler handler, filterAttrs_handler handler, List.flatMap_cons]
      constructor
      · refine .inr ?_
        rw [byteLength_append]
        omega
      · rw [byteLength_append]
        omega
    | false =>
      rw [filterAttrs_kept handler, filterAttrs_kept handler, List.flatMap_cons, List.flatMap_cons,
        List.flatMap_cons]
      constructor
      · exact a.shrinks_disarmed.append ihFalse
      · have apart := a.setApart.shrinks_disarmed.le
        have space := a.byteLength_setApart_le
        have rest := ihFalse.le
        rw [byteLength_append, byteLength_append]
        show byteLength a.setApart.disarmed.text + _ ≤ _
        omega

/-- A filtered start tag is as it was or shorter. -/
lemma StartTag.shrinks_filtered (t : StartTag) : Shrinks t.filtered.text t.text := by
  have attrs := (shrinks_filterAttrs t.attrs).1
  exact (((Shrinks.refl ('<' :: t.name)).append attrs).append (.refl t.tail)).append (.refl ['>'])

/-- A filtered piece is as it was or shorter. -/
lemma Piece.shrinks_filtered (p : Piece) : Shrinks p.filtered p.text := by
  cases p with
  | char c => exact .refl [c]
  | tag t => exact t.shrinks_filtered
  | unclosed cs => exact .of_sublist (List.nil_sublist cs)

/-- Filtered markup shrinks. -/
lemma shrinks_filterTags (cs : List Char) : Shrinks (filterTags cs) cs := by
  have pieces : ∀ ps : List Piece, Shrinks (rewritten ps) (ps.flatMap Piece.text) := by
    intro ps
    induction ps with
    | nil => exact .refl []
    | cons p ps ih => exact p.shrinks_filtered.append ih
  have h := pieces (Markup.pieces cs)
  rwa [flatMap_text_pieces] at h

/-- Stripped markup shrinks. -/
lemma shrinks_strip (cs : List Char) : Shrinks (strip cs) cs := by
  fun_induction strip cs with
  | case1 cs _ ih => exact ih.trans (.of_sublist (stripPass_sublist cs))
  | case2 cs _ => exact .of_sublist (stripPass_sublist cs)

/-- Sanitized markup shrinks. -/
theorem shrinks_sanitizeChars (cs : List Char) : Shrinks (sanitizeChars cs) cs :=
  (shrinks_filterTags (strip cs)).trans (shrinks_strip cs)

/-- Markup is left as it is by sanitizing exactly if stripping and filtering leave it alone. -/
theorem sanitizeChars_eq_self_iff {cs : List Char} :
    sanitizeChars cs = cs ↔ strip cs = cs ∧ filterTags cs = cs := by
  constructor
  · intro h
    have filtered := (shrinks_filterTags (strip cs)).le
    rw [show filterTags (strip cs) = cs from h] at filtered
    have stripped : strip cs = cs := (shrinks_strip cs).eq_of_le filtered
    rw [sanitizeChars, stripped] at h
    exact ⟨stripped, h⟩
  · rintro ⟨stripped, filtered⟩
    rw [sanitizeChars, stripped, filtered]

/-- Whether a notice reports that markup was removed. -/
def reportsRemoval : Notice → Bool
  | .markupRemoved _ => true
  | _ => false

/-- The bytes of sanitized markup are counted as those of its characters. -/
lemma byteLength_sanitizeChars (m : String) :
    byteLength (sanitizeChars m.toList) = (sanitize m).utf8ByteSize := by
  rw [← byteLength_toList, sanitize, String.toList_ofList]

/-- Removal is reported exactly if the lengths differ, whatever else is reported. -/
lemma filter_sanitizeNotices (m : String) :
    (sanitizeNotices m).filter reportsRemoval =
      if (sanitize m).utf8ByteSize = m.utf8ByteSize then []
      else [.markupRemoved (m.utf8ByteSize - (sanitize m).utf8ByteSize)] := by
  have other : ((openTagOffset? (strip m.toList)).map Notice.unterminatedTag).toList.filter
      reportsRemoval = [] := by
    cases openTagOffset? (strip m.toList) with
    | none => rfl
    | some offset => rfl
  rw [sanitizeNotices, List.filter_append, other, List.nil_append, byteLength_sanitizeChars,
    byteLength_toList]
  simp only [beq_iff_eq]
  split
  case isTrue => rfl
  case isFalse => rfl

/-- Sanitizing never makes markup longer, and the lengths in bytes are the same exactly if the
markup was left as it is. That bytes were removed is reported exactly if the markup was changed,
once, and with the difference of the lengths. -/
theorem sanitize_shrinks (m : String) :
    (sanitize m).utf8ByteSize ≤ m.utf8ByteSize ∧
    ((sanitize m).utf8ByteSize = m.utf8ByteSize ↔ sanitize m = m) ∧
    (sanitizeNotices m).filter reportsRemoval =
      if sanitize m = m then []
      else [.markupRemoved (m.utf8ByteSize - (sanitize m).utf8ByteSize)] := by
  have shrinks := shrinks_sanitizeChars m.toList
  have same : (sanitize m).utf8ByteSize = m.utf8ByteSize ↔ sanitize m = m := by
    constructor
    · intro size
      rw [← byteLength_sanitizeChars, ← byteLength_toList] at size
      rw [sanitize, shrinks.eq_of_le size.ge, String.ofList_toList]
    · intro unchanged
      rw [unchanged]
  refine ⟨?_, same, ?_⟩
  · rw [← byteLength_sanitizeChars, ← byteLength_toList]
    exact shrinks.le
  · rw [filter_sanitizeNotices]
    simp only [same]

end EmailTemplate.Markup
