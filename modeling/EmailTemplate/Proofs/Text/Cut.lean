import EmailTemplate.Text.Blank
import Mathlib.Tactic.Lemma

/-!
# Cutting at separators

A text is cut into pieces at each character of a class. A run of separators, however long, sets the
non-empty pieces in front of it apart from those behind it, and does nothing else
(`cutNonEmpty_append_gap`).
-/

namespace EmailTemplate.Text

variable {p : Char → Bool} {c : Char} {cs ds gap : List Char}

/-- Without a separator a text is one piece. -/
lemma cut_of_none (none : ∀ c ∈ cs, p c = false) : cut p cs = [cs] := by
  induction cs with
  | nil => rfl
  | cons c cs ih =>
    obtain ⟨first, others⟩ := List.forall_mem_cons.1 none
    rw [cut, ih others]
    simp only [first, Bool.false_eq_true, if_false]

/-- A separator ends the last piece in front of it. -/
lemma cut_append_cons (separates : p c = true) :
    cut p (cs ++ c :: ds) = cut p cs ++ cut p ds := by
  induction cs with
  | nil =>
    obtain ⟨piece, pieces, eq⟩ := List.exists_cons_of_ne_nil (cut_ne_nil p ds)
    show cut p (c :: ds) = [] :: cut p ds
    rw [cut, eq]
    exact if_pos separates
  | cons d cs ih =>
    obtain ⟨piece, pieces, eq⟩ := List.exists_cons_of_ne_nil (cut_ne_nil p cs)
    rw [List.cons_append, cut, ih, cut, eq]
    simp only [List.cons_append]
    split <;> rfl

/-- A separator sets the pieces on its two sides apart. -/
lemma cutNonEmpty_append_cons (separates : p c = true) :
    cutNonEmpty p (cs ++ c :: ds) = cutNonEmpty p cs ++ cutNonEmpty p ds := by
  rw [cutNonEmpty, cut_append_cons separates, List.filter_append]
  rfl

/-- Where a run of separators stands, nothing but the pieces on either side is left. -/
lemma cutNonEmpty_append_gap (ne : gap ≠ []) (separates : ∀ c ∈ gap, p c = true)
    (cs ds : List Char) :
    cutNonEmpty p (cs ++ (gap ++ ds)) = cutNonEmpty p cs ++ cutNonEmpty p ds := by
  induction gap generalizing cs with
  | nil => exact absurd rfl ne
  | cons c gap ih =>
    obtain ⟨first, others⟩ := List.forall_mem_cons.1 separates
    rw [List.cons_append, cutNonEmpty_append_cons first]
    cases gap with
    | nil => rfl
    | cons d gap =>
      have inner := ih (List.cons_ne_nil d gap) others []
      rw [List.nil_append] at inner
      rw [inner]
      rfl

end EmailTemplate.Text
