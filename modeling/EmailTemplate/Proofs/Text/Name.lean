import EmailTemplate.Text.Fold
import Mathlib.Tactic.Lemma

/-!
# Names in front of other text

A name is found where one of its spellings stands, which differ in case. What is written behind a
name does not matter for finding it, except that it may go on with the name; a character that
belongs to no name does not.
-/

namespace EmailTemplate.Text

/-- A name is found where a text begins with a spelling of it. -/
lemma afterName?_eq_some_iff {name cs rest : List Char} :
    afterName? name cs = some rest ↔
      ∃ spelling, spelling.map foldCase = name ∧ spelling ++ rest = cs := by
  induction name generalizing cs with
  | nil =>
    rw [afterName?, Option.some.injEq]
    constructor
    · rintro rfl
      exact ⟨[], rfl, rfl⟩
    · rintro ⟨spelling, empty, rfl⟩
      rw [List.map_eq_nil_iff.1 empty, List.nil_append]
  | cons n name ih =>
    cases cs with
    | nil =>
      rw [afterName?]
      refine iff_of_false (Option.some_ne_none rest).symm ?_
      rintro ⟨spelling, same, empty⟩
      rw [(List.append_eq_nil_iff.1 empty).1] at same
      cases same
    | cons c cs =>
      rw [afterName?]
      constructor
      · intro found
        split at found
        case isTrue fold =>
          obtain ⟨spelling, rfl, rfl⟩ := ih.1 found
          exact ⟨c :: spelling, by rw [List.map_cons, eq_of_beq fold], rfl⟩
        case isFalse => cases found
      · rintro ⟨spelling, same, whole⟩
        cases spelling with
        | nil => cases same
        | cons d spelling =>
          obtain ⟨rfl, behind⟩ := List.cons.inj whole
          obtain ⟨fold, same⟩ := List.cons.inj same
          rw [if_pos (beq_iff_eq.2 fold)]
          exact ih.2 ⟨spelling, same, behind⟩

/-- A name that is found is found whatever is written behind the text. -/
lemma afterName?_append {name cs after : List Char} (h : afterName? name cs = some after)
    (next : List Char) : afterName? name (cs ++ next) = some (after ++ next) := by
  obtain ⟨spelling, same, rfl⟩ := afterName?_eq_some_iff.1 h
  exact afterName?_eq_some_iff.2 ⟨spelling, same, (List.append_assoc _ _ _).symm⟩

/-- A name that is found in front of a character that it does not have ends there at the latest. -/
lemma afterName?_append_cons {name cs after : List Char} {d : Char} (plain : d ∉ name)
    (fold : foldCase d = d) (next : List Char)
    (h : afterName? name (cs ++ d :: next) = some after) :
    ∃ after', afterName? name cs = some after' ∧ after = after' ++ d :: next := by
  obtain ⟨spelling, rfl, whole⟩ := afterName?_eq_some_iff.1 h
  obtain ⟨within, rfl, rfl⟩ | ⟨beyond, rfl, front⟩ := List.append_eq_append_iff.1 whole
  · exact ⟨within, afterName?_eq_some_iff.2 ⟨spelling, rfl, rfl⟩, rfl⟩
  · cases beyond with
    | nil =>
      rw [List.append_nil]
      exact ⟨[], afterName?_eq_some_iff.2 ⟨cs, rfl, List.append_nil cs⟩, front.symm⟩
    | cons e beyond =>
      -- the spelling would go on with the character
      obtain ⟨rfl, -⟩ := List.cons.inj front
      refine absurd (List.mem_map.2 ⟨d, ?_, fold⟩) plain
      exact List.mem_append_right cs List.mem_cons_self

end EmailTemplate.Text
