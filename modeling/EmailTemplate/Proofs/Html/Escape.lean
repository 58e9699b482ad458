import EmailTemplate.Html.Escape
import EmailTemplate.Proofs.Text.Span

/-!
# What escaping leaves out

Escaped text has no brackets and no double quotes (`isData_escape`), so that it ends neither a text
nor a value between double quotes, and opens nothing.
-/

namespace EmailTemplate.Html

/-- A character that is data both in a text and between double quotes. -/
def IsData (c : Char) : Prop :=
  c ≠ '<' ∧ c ≠ '>' ∧ c ≠ '"'

instance : DecidablePred IsData := fun c =>
  inferInstanceAs (Decidable (c ≠ '<' ∧ c ≠ '>' ∧ c ≠ '"'))

/-- What is written for one character is data. -/
lemma isData_escapeChar (c : Char) : ∀ d ∈ escapeChar c, IsData d := by
  unfold escapeChar
  split
  case h_1 => decide
  case h_2 => decide
  case h_3 => decide
  case h_4 => decide
  case h_5 amp lt gt quote =>
    intro d hd
    rw [List.mem_singleton.1 hd]
    exact ⟨lt, gt, quote⟩

/-- What is written for a text is data. -/
lemma isData_escape {s : String} : ∀ c ∈ (escape s).toList, IsData c := by
  intro c hc
  rw [escape, String.toList_ofList] at hc
  obtain ⟨d, -, hd⟩ := List.mem_flatMap.1 hc
  exact isData_escapeChar d c hd

/-- Escaped text opens no tag. -/
lemma bracket_notMem_escape {s : String} : '<' ∉ (escape s).toList :=
  fun mem => (isData_escape _ mem).1 rfl

end EmailTemplate.Html
