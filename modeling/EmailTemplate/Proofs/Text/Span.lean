import Mathlib.Tactic.Lemma

/-!
# Runs of characters

Readers cut a text where the first character stands that does not go on with what they read.
`Stops p cs` says that nothing of the class `p` stands at the start of `cs`; a run of the class is
then cut off exactly in front of `cs`.
-/

namespace EmailTemplate.Text

/-- The members of a list are decided one by one. A type of finitely many members would otherwise
be gone through as a whole. -/
instance (priority := 2000) decidableForallMem {α} {p : α → Prop} [DecidablePred p] (cs : List α) :
    Decidable (∀ c ∈ cs, p c) :=
  List.decidableBAll p cs

/-- A text does not go on with a character of a class. -/
def Stops (p : Char → Bool) (cs : List Char) : Prop :=
  ∀ c ∈ cs.head?, p c = false

/-- The end of a text stops every run. -/
@[simp] lemma stops_nil {p} : Stops p [] := by
  simp [Stops]

/-- A run stops in front of a character that is not of its class. -/
@[simp] lemma stops_cons {p c cs} : Stops p (c :: cs) ↔ p c = false := by
  simp [Stops]

instance (p : Char → Bool) : (cs : List Char) → Decidable (Stops p cs)
  | [] => isTrue stops_nil
  | _ :: _ => decidable_of_iff' _ stops_cons

/-- Only the first character decides whether a text stops a run. -/
lemma stops_append_iff {p cs} (ne : cs ≠ []) (next : List Char) :
    Stops p (cs ++ next) ↔ Stops p cs := by
  cases cs with
  | nil => exact absurd rfl ne
  | cons c cs => simp

/-- The front of a text that stops a run stops it too. -/
lemma Stops.of_append {p cs next} (h : Stops p (cs ++ next)) : Stops p cs := by
  cases cs with
  | nil => exact stops_nil
  | cons c cs => exact stops_cons.2 (stops_cons.1 h)

/-- What is left behind a run does not go on with it. -/
lemma stops_dropWhile {p : Char → Bool} (cs : List Char) : Stops p (cs.dropWhile p) := by
  intro c hc
  have h := List.head?_dropWhile_not p cs
  rw [Option.mem_def.1 hc] at h
  simpa using h

/-- A run is cut off in front of what stops it. -/
lemma takeWhile_append_stops {p cs next} (h : ∀ c ∈ cs, p c = true) (stop : Stops p next) :
    (cs ++ next).takeWhile p = cs := by
  rw [List.takeWhile_append_of_pos h]
  cases next with
  | nil => simp
  | cons c next => simp [stops_cons.1 stop]

/-- Behind a run stands what stops it. -/
lemma dropWhile_append_stops {p cs next} (h : ∀ c ∈ cs, p c = true) (stop : Stops p next) :
    (cs ++ next).dropWhile p = next := by
  rw [List.dropWhile_append_of_pos h]
  cases next with
  | nil => simp
  | cons c next => simp [stops_cons.1 stop]

/-- Every text begins with a run of a class. -/
lemma exists_run (p : Char → Bool) (cs : List Char) :
    ∃ run rest, cs = run ++ rest ∧ (∀ c ∈ run, p c = true) ∧ Stops p rest :=
  ⟨cs.takeWhile p, cs.dropWhile p, List.takeWhile_append_dropWhile.symm,
    List.all_eq_true.1 List.all_takeWhile, stops_dropWhile cs⟩

/-- Runs of a class that the same text begins with are the same. -/
lemma append_inj_of_stops {p cs next cs' next'} (h : ∀ c ∈ cs, p c = true) (stop : Stops p next)
    (h' : ∀ c ∈ cs', p c = true) (stop' : Stops p next') (e : cs ++ next = cs' ++ next') :
    cs = cs' ∧ next = next' := by
  have take := congrArg (List.takeWhile p) e
  have drop := congrArg (List.dropWhile p) e
  rw [takeWhile_append_stops h stop, takeWhile_append_stops h' stop'] at take
  rw [dropWhile_append_stops h stop, dropWhile_append_stops h' stop'] at drop
  exact ⟨take, drop⟩

end EmailTemplate.Text
