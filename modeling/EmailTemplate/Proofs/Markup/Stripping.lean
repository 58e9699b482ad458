import EmailTemplate.Markup.Strip
import EmailTemplate.Proofs.Text.Span
import Mathlib.Data.List.Infix

/-!
# Stripped markup holds no forbidden construct

Erasing changes a markup exactly if the construct occurs in it (`erase_eq_self_iff`). The passes of
`strip` end with one that changes nothing, although each of them erases one construct after another;
so each of the constructs is absent from the result (`absent_strip`), and markup from which all of
them are absent is left as it is (`strip_eq_self_iff`).
-/

namespace EmailTemplate.Markup
open EmailTemplate.Text

namespace Construct

/-- A construct that occurs nowhere in a markup. -/
def Absent (p : Construct) (cs : List Char) : Prop :=
  ∀ t, t <:+ cs → p.opens t = false

instance (p : Construct) (cs : List Char) : Decidable (p.Absent cs) :=
  decidable_of_iff (∀ t ∈ cs.tails, p.opens t = false) (by simp [Absent])

/-- Nothing occurs in an empty markup. -/
lemma absent_nil (p : Construct) : p.Absent [] := by
  intro t h
  rw [List.suffix_nil.1 h]
  rfl

/-- A construct is absent if it opens neither at the first character nor behind it. -/
lemma absent_cons_iff {p : Construct} {c cs} :
    p.Absent (c :: cs) ↔ p.opens (c :: cs) = false ∧ p.Absent cs := by
  constructor
  · intro h
    exact ⟨h _ (List.suffix_refl _), fun t ht => h t (ht.trans (List.suffix_cons c cs))⟩
  · rintro ⟨head, rest⟩ t ht
    rcases List.suffix_cons_iff.1 ht with rfl | ht
    · exact head
    · exact rest t ht

/-- What is erased makes the markup shorter. -/
lemma erase_length_lt {p : Construct} {cs rest : List Char} (h : p.after? cs = some rest)
    (c : Char) : (p.erase rest).length < (c :: cs).length := by
  have h₁ := (p.erase_sublist rest).length_le
  have h₂ := (p.suffix_of_after? h).length_le
  simp only [List.length_cons]
  omega

/-- Erasing leaves a markup as it is exactly if the construct is absent from it. -/
theorem erase_eq_self_iff {p : Construct} {cs : List Char} : p.erase cs = cs ↔ p.Absent cs := by
  unfold erase
  fun_induction replace p [] cs with
  | case1 => exact iff_of_true rfl p.absent_nil
  | case2 c cs hc rest h ih =>
    have lt := erase_length_lt h c
    refine iff_of_false (fun e => ?_) fun absent => ?_
    · rw [List.nil_append, ← erase] at e
      rw [e] at lt
      exact absurd lt (Nat.lt_irrefl _)
    · have := (absent_cons_iff.1 absent).1
      simp [opens, hc, h] at this
  | case3 c cs hc h ih => simp [absent_cons_iff, opens, h, ih]
  | case4 c cs hc ih => simp [absent_cons_iff, opens, hc, ih]

end Construct

/-- Erasing constructs in turn leaves a markup as it is only if all of them are absent. -/
lemma absent_of_foldl_erase {ps : List Construct} {cs : List Char}
    (h : ps.foldl (fun cs p => p.erase cs) cs = cs) : ∀ p ∈ ps, p.Absent cs := by
  induction ps with
  | nil => simp
  | cons p ps ih =>
    -- the first erasure loses nothing, since the later ones bring nothing back
    have first : p.erase cs = cs := by
      have sub := foldl_erase_sublist ps (p.erase cs)
      rw [List.foldl_cons] at h
      rw [h] at sub
      exact (p.erase_sublist cs).eq_of_length_le sub.length_le
    rw [List.foldl_cons, first] at h
    rintro q (_ | ⟨_, hq⟩)
    · exact Construct.erase_eq_self_iff.1 first
    · exact ih h q hq

/-- A pass leaves markup without its constructs as it is. -/
lemma foldl_erase_of_absent {ps : List Construct} {cs : List Char}
    (h : ∀ p ∈ ps, p.Absent cs) : ps.foldl (fun cs p => p.erase cs) cs = cs := by
  induction ps with
  | nil => rfl
  | cons p ps ih =>
    rw [List.foldl_cons, Construct.erase_eq_self_iff.2 (h p List.mem_cons_self)]
    exact ih fun q hq => h q (List.mem_cons_of_mem p hq)

/-- No forbidden construct occurs in stripped markup. -/
theorem absent_strip (cs : List Char) : ∀ p ∈ forbidden, p.Absent (strip cs) :=
  absent_of_foldl_erase (stripPass_strip cs)

/-- Markup without forbidden constructs, and no other, is stripped of nothing. -/
theorem strip_eq_self_iff {cs : List Char} :
    strip cs = cs ↔ ∀ p ∈ forbidden, p.Absent cs := by
  constructor
  · intro h
    rw [← h]
    exact absent_strip cs
  · intro h
    have pass : stripPass cs = cs := foldl_erase_of_absent h
    rw [strip, if_neg (by rw [pass]; exact Nat.lt_irrefl _), pass]

end EmailTemplate.Markup
