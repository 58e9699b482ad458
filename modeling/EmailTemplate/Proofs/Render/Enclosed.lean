import EmailTemplate.Proofs.Html.Run
import EmailTemplate.Proofs.Markup.Sealed
import EmailTemplate.Render.Element

/-!
# Raw markup in its cell

Sanitized markup is written into the cell of its element as it is, and the end tags of the cell
stand right behind it. A browser reads them as these end tags exactly if the markup is sealed
(`sealed_sanitize_iff`). Sanitizing drops a start tag that is left open, but leaves comments,
declarations and end tags open, and where it deletes an attribute it can open something that was
closed (`not_sealed_sanitize`).
-/

namespace EmailTemplate.Markup
open Html Html.Step

/-- What stands behind the markup in the cell of an element. -/
def frameEnd : List Char :=
  "</td></tr></table>".toList

/-- The end tags of an element's cell. -/
def frameEndTags : List Token :=
  [.endTag ⟨"td".toList, [], []⟩, .endTag ⟨"tr".toList, [], []⟩, .endTag ⟨"table".toList, [], []⟩]

/-- A browser reads the end of a cell behind markup as the end tags that were written. -/
def ReadsFrameEnd (cs : List Char) : Prop :=
  ∃ ts, tokens (cs ++ frameEnd) = ts ++ frameEndTags ∧ ts.flatMap Token.text = cs

/-- By itself the end of a cell is read as the end tags that were written. -/
lemma tokens_frameEnd : tokens frameEnd = frameEndTags := by
  decide +kernel

/-- The end of a cell is what its steps write. -/
lemma toList_write_frameEnd :
    (write [endTag "td", endTag "tr", endTag "table"]).toList = frameEnd := by
  decide +kernel

/-- Raw markup stands sanitized in its cell, with the end of the cell behind it. -/
lemma exists_render_rawMarkup (d : RenderDefaults) (id : Option String) (frame : Frame) :
    ∃ opening, ∀ m, (Element.render d ⟨id, frame, .rawMarkup m⟩).toList =
      opening ++ ((sanitize m).toList ++ frameEnd) := by
  let opening := presentationTable "100%" ++
    [style [css "border-collapse" "collapse"], finishTag, startTag "tr", finishTag, startTag "td",
      attr "align" frame.alignment.name, style (frame.declarations d), finishTag]
  have closing : Closing opening := fun _ _ => rfl
  refine ⟨(write opening).toList, ?_⟩
  intro m
  have steps : Element.steps d ⟨id, frame, .rawMarkup m⟩ =
      opening ++ (verbatim (sanitize m) :: [endTag "td", endTag "tr", endTag "table"]) := by
    simp [opening, Element.steps, ElementKind.steps, layoutTable, around]
  rw [Element.render, steps, write_append closing, write_verbatim, String.toList_append,
    String.toList_append, toList_write_frameEnd]

/-- The end of a cell is read as it was written exactly if nothing in front is left open. -/
lemma readsFrameEnd_iff (cs : List Char) : ReadsFrameEnd cs ↔ Sealed cs := by
  constructor
  · rintro ⟨ts, read, rfl⟩
    exact sealed_front read
  · intro closed
    have apart : opensMarkup frameEnd = false := by decide +kernel
    refine ⟨tokens cs, ?_, flatMap_text_tokens cs⟩
    rw [tokens_append closed fun _ => apart, tokens_frameEnd]

/-- Behind sanitized markup, the end of its cell is read as the end tags that were written exactly
if the markup is sealed; and so it is if each token of the stripped markup stays so by itself. -/
theorem sealed_sanitize_iff (m : String) :
    (∀ d id frame, ∃ opening, (Element.render d ⟨id, frame, .rawMarkup m⟩).toList =
      opening ++ ((sanitize m).toList ++ frameEnd)) ∧
    (ReadsFrameEnd (sanitize m).toList ↔ Sealed (sanitize m).toList) ∧
    ((∀ t ∈ tokens (strip m.toList), t.StaysSealed) → Sealed (sanitize m).toList) := by
  refine ⟨?_, readsFrameEnd_iff _, ?_⟩
  · intro d id frame
    obtain ⟨opening, render⟩ := exists_render_rawMarkup d id frame
    exact ⟨opening, render m⟩
  · intro stays
    rw [sanitize, String.toList_ofList]
    exact sealed_filterTags stays

/-- A link in a comment, an end tag, a line break with a handler, and a tag that is never closed. -/
def unfinishedMarkup : String :=
  "<!-- <a title='>'> --></p ><br onclick=1 ><b c='"

/-- The comment closes its own start tag, and the tag that is left open is dropped. -/
theorem sealed_unfinishedMarkup :
    (∀ t ∈ tokens (strip unfinishedMarkup.toList), t.StaysSealed) ∧
      Sealed (sanitize unfinishedMarkup).toList := by
  have stays : ∀ t ∈ tokens (strip unfinishedMarkup.toList), t.StaysSealed := by
    decide +kernel
  exact ⟨stays, (sealed_sanitize_iff unfinishedMarkup).2.2 stays⟩

/-- The comment of the first markup is closed, and its end is deleted as the value of a handler; the
comment of the second is never closed; and in the third, the alternative text takes in the name that
stood behind a handler, which is a quote that is never closed. -/
theorem not_sealed_sanitize :
    ¬ReadsFrameEnd (sanitize "<!--<a onclick=1-->").toList ∧
      ¬ReadsFrameEnd (sanitize "<p>ok</p><!-- open").toList ∧
      ¬ReadsFrameEnd (sanitize "<img alt onerror=1 =\"x>").toList := by
  rw [readsFrameEnd_iff, readsFrameEnd_iff, readsFrameEnd_iff]
  decide +kernel

end EmailTemplate.Markup
