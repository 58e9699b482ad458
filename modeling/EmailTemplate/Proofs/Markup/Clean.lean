import EmailTemplate.Proofs.Markup.Idempotent
import EmailTemplate.Proofs.Markup.InStep

/-!
# Clean markup

Markup in which there is nothing to strip, no start tag is left open and none runs script comes out
of sanitizing as it went in, character by character. No other markup does: whatever else is stripped
or filtered makes it shorter. The main statement is `sanitize_eq_self_iff`.
-/

namespace EmailTemplate.Markup
open EmailTemplate.Text

/-- An address is written as it was exactly if it runs no script. -/
lemma Attribute.text_disarmed_iff {a : Attribute} :
    a.disarmed.text = a.text ↔ a.runsScript = false := by
  constructor
  · intro same
    by_contra runs
    have runs : a.runsScript = true := by simpa using runs
    have shorter := byteLength_disarmed_lt runs
    rw [same] at shorter
    exact absurd shorter (Nat.lt_irrefl _)
  · intro runs
    rw [disarmed, if_neg (by simp [runs])]

/-- Attributes are written as they were exactly if none is an event handler or a script address. -/
lemma text_filterAttrs_iff {attrs : List Attribute} :
    (filterAttrs false attrs).flatMap Attribute.text = attrs.flatMap Attribute.text ↔
      ∀ a ∈ attrs, isEventHandler a.name = false ∧
        ¬(isLinkName a.name ∧ isScriptUri a.value) := by
  constructor
  · intro same
    induction attrs with
    | nil => simp
    | cons a attrs ih =>
      cases handler : a.isHandler with
      | true =>
        -- the space that may be put in is shorter than the handler that was left out
        have long := Attribute.byteLength_of_isHandler handler
        have rest := (shrinks_filterAttrs attrs).2
        have same := congrArg byteLength same
        rw [filterAttrs_handler handler, List.flatMap_cons, byteLength_append] at same
        omega
      | false =>
        have kept : a.kept false = a.disarmed := rfl
        rw [filterAttrs_kept handler, List.flatMap_cons, List.flatMap_cons, kept,
          a.shrinks_disarmed.append_eq_iff (shrinks_filterAttrs attrs).1] at same
        obtain ⟨here, behind⟩ := same
        rw [List.forall_mem_cons]
        refine ⟨⟨by simpa [Attribute.isHandler] using handler, ?_⟩, ih behind⟩
        simpa [Attribute.runsScript] using Attribute.text_disarmed_iff.1 here
  · intro harmless
    rw [filterAttrs_of_harmless harmless]

/-- A start tag is written as it was exactly if it runs no script. -/
lemma StartTag.text_filtered_iff {t : StartTag} : t.filtered.text = t.text ↔ t.Harmless := by
  rw [StartTag.text, StartTag.text, List.append_cancel_right_eq, filtered,
    List.append_cancel_right_eq, List.append_right_inj]
  exact text_filterAttrs_iff

/-- Filtering leaves markup as it is exactly if no start tag is left open and each is harmless. -/
lemma filterTags_eq_self_iff {cs : List Char} :
    filterTags cs = cs ↔ Settled cs ∧ ∀ t ∈ startTags cs, t.Harmless := by
  rw [startTags_eq]
  induction cs using pieces_induction with
  | nil =>
    rw [filterTags_nil, pieces]
    exact iff_of_true rfl ⟨settled_nil, by simp⟩
  | char c cs plain ih =>
    rw [filterTags_char plain, settled_cons_iff plain, pieces_char plain,
      List.filterMap_cons_none rfl, List.cons.injEq, ← ih]
    exact and_iff_right rfl
  | tag t rest readable letter ih =>
    have tags : (Piece.tag t :: pieces rest).filterMap Piece.tag? =
        t :: (pieces rest).filterMap Piece.tag? := rfl
    rw [filterTags_text readable letter, settled_text_append_iff readable letter,
      pieces_text readable letter, tags, List.forall_mem_cons,
      t.shrinks_filtered.append_eq_iff (shrinks_filterTags rest), ih, StartTag.text_filtered_iff,
      and_left_comm]
  | unclosed cs letter unread =>
    rw [filterTags_unclosed letter unread]
    exact iff_of_false (List.cons_ne_nil _ _).symm
      fun clean => not_settled_unclosed letter unread clean.1

/-- Sanitizing leaves markup as it is exactly if no forbidden construct occurs in it, no start tag
is left open and each start tag is harmless. -/
theorem sanitize_eq_self_iff (m : String) :
    sanitize m = m ↔ (∀ p ∈ forbidden, p.Absent m.toList) ∧ Settled m.toList ∧
      ∀ t ∈ startTags m.toList, t.Harmless := by
  have chars : sanitize m = m ↔ sanitizeChars m.toList = m.toList := by
    rw [sanitize, ← String.toList_inj, String.toList_ofList]
  rw [chars, sanitizeChars_eq_self_iff, strip_eq_self_iff, filterTags_eq_self_iff]

end EmailTemplate.Markup
