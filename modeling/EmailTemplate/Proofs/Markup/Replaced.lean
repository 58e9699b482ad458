import EmailTemplate.Markup.Construct
import EmailTemplate.Proofs.Text.Span

/-!
# Replacing constructs, character by character

What `Construct.replace` does at each character of a markup. A stretch in which the construct opens
nowhere is left as it is, and what follows it is replaced as if it stood alone (`replace_append`).
-/

namespace EmailTemplate.Markup
open EmailTemplate.Text

namespace Construct

variable {p : Construct} {instead front rest : List Char}

/-- A construct opens only at a `<`, so another character stays. -/
lemma replace_cons {c} (other : c ≠ '<') (cs : List Char) :
    p.replace instead (c :: cs) = c :: p.replace instead cs := by
  rw [replace, if_neg]
  simpa using other

/-- Where a construct is found, it gives way, and replacing goes on behind it. -/
lemma replace_of_some {cs rest} (h : p.after? cs = some rest) :
    p.replace instead ('<' :: cs) = instead ++ p.replace instead rest := by
  rw [replace, if_pos (beq_self_eq_true '<')]
  split
  case h_1 rest' h' =>
    rw [h] at h'
    cases h'
    rfl
  case h_2 h' =>
    rw [h] at h'
    cases h'

/-- A `<` at which no construct is found stays. -/
lemma replace_of_none {cs} (h : p.after? cs = none) :
    p.replace instead ('<' :: cs) = '<' :: p.replace instead cs := by
  rw [replace, if_pos (beq_self_eq_true '<')]
  split
  case h_1 h' =>
    rw [h] at h'
    cases h'
  case h_2 => rfl

/-- A construct opens nowhere in `front`, with `rest` behind it. -/
def NoneOpens (p : Construct) (front rest : List Char) : Prop :=
  ∀ cs, '<' :: cs <:+ front → p.after? (cs ++ rest) = none

/-- Whether a construct opens in a stretch is decided character by character. -/
lemma noneOpens_cons_iff {c} :
    p.NoneOpens (c :: front) rest ↔
      (c = '<' → p.after? (front ++ rest) = none) ∧ p.NoneOpens front rest := by
  constructor
  · intro none
    constructor
    · rintro rfl
      exact none front List.suffix_rfl
    · intro cs suffix
      exact none cs (suffix.trans (List.suffix_cons c front))
  · rintro ⟨here, behind⟩ cs suffix
    rcases List.suffix_cons_iff.1 suffix with e | suffix
    · obtain ⟨rfl, rfl⟩ := List.cons.inj e
      exact here rfl
    · exact behind cs suffix

/-- Nothing opens in a stretch without a `<`. -/
lemma noneOpens_of_notMem (p : Construct) (plain : '<' ∉ front) (rest : List Char) :
    p.NoneOpens front rest :=
  fun _ suffix => absurd (suffix.mem List.mem_cons_self) plain

/-- Stretches in which nothing opens can be put together. -/
lemma NoneOpens.append {front' : List Char} (here : p.NoneOpens front (front' ++ rest))
    (behind : p.NoneOpens front' rest) : p.NoneOpens (front ++ front') rest := by
  induction front with
  | nil => exact behind
  | cons c front ih =>
    obtain ⟨first, here⟩ := noneOpens_cons_iff.1 here
    rw [List.cons_append, noneOpens_cons_iff, List.append_assoc]
    exact ⟨first, ih here⟩

/-- Where a construct opens nowhere, nothing is replaced. -/
lemma replace_append (none : p.NoneOpens front rest) :
    p.replace instead (front ++ rest) = front ++ p.replace instead rest := by
  induction front with
  | nil => rfl
  | cons c front ih =>
    obtain ⟨first, behind⟩ := noneOpens_cons_iff.1 none
    rw [List.cons_append, List.cons_append, ← ih behind]
    by_cases opens : c = '<'
    · subst opens
      exact replace_of_none (first rfl)
    · exact replace_cons opens _

end Construct

/-- The first bracket is the one that is found. -/
lemma afterBracket?_append {body : List Char} (plain : '>' ∉ body) (rest : List Char) :
    afterBracket? (body ++ '>' :: rest) = some rest := by
  have run : ∀ c ∈ body, (c != '>') = true := by
    intro c hc
    rw [bne_iff_ne]
    rintro rfl
    exact plain hc
  rw [afterBracket?, dropWhile_append_stops run (stops_cons.2 rfl)]

/-- Without a bracket none is found. -/
lemma afterBracket?_eq_none {cs : List Char} (plain : '>' ∉ cs) : afterBracket? cs = none := by
  cases h : afterBracket? cs with
  | none => rfl
  | some rest =>
    rw [← eq_of_afterBracket? h] at plain
    exact absurd (List.mem_append_right _ List.mem_cons_self) plain

end EmailTemplate.Markup
