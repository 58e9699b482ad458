import Mathlib.Data.List.Infix
import Mathlib.Tactic.Lemma

/-!
# Occurrences of a pattern

Where a pattern occurs in a text first and last. Text that is put in front of an occurrence moves
it, unless an occurrence begins in that text (`firstAt?_append`); the last occurrence is only moved
(`lastAt?_append`).
-/

namespace EmailTemplate.Text

/-- The number of characters in front of the first occurrence of a pattern. -/
def firstAt? (pattern : List Char) : List Char → Option Nat
  | [] => if pattern.isEmpty then some 0 else none
  | c :: cs => if pattern.isPrefixOf (c :: cs) then some 0 else (firstAt? pattern cs).map (· + 1)

/-- The number of characters in front of the last occurrence of a pattern. -/
def lastAt? (pattern : List Char) : List Char → Option Nat
  | [] => if pattern.isEmpty then some 0 else none
  | c :: cs =>
    match lastAt? pattern cs with
    | some n => some (n + 1)
    | none => if pattern.isPrefixOf (c :: cs) then some 0 else none

/-- No occurrence of a pattern begins in `front`, with `rest` behind it. -/
def NoneBegins (pattern front rest : List Char) : Prop :=
  ∀ cs, cs <:+ front → cs ≠ [] → ¬pattern <+: cs ++ rest

/-- Where none begins in a text, none begins behind its first character. -/
lemma NoneBegins.of_cons {pattern front rest : List Char} {c : Char}
    (h : NoneBegins pattern (c :: front) rest) : NoneBegins pattern front rest :=
  fun cs suffix => h cs (suffix.trans (List.suffix_cons c front))

/-- A pattern does not begin where its first character does not occur. -/
lemma noneBegins_of_notMem {p : Char} {pattern front : List Char} (absent : p ∉ front)
    (rest : List Char) : NoneBegins (p :: pattern) front rest := by
  intro cs suffix ne begins
  cases cs with
  | nil => exact ne rfl
  | cons c cs =>
    obtain ⟨rfl, -⟩ := List.cons_prefix_cons.1 begins
    exact absent (suffix.mem List.mem_cons_self)

/-- A pattern that begins in front of a character that it does not have ends there. -/
lemma prefix_of_notMem {pattern front rest : List Char} {d : Char}
    (begins : pattern <+: front ++ d :: rest) (absent : d ∉ pattern) : pattern <+: front := by
  obtain ⟨behind, whole⟩ := begins
  obtain ⟨extra, rfl, -⟩ | ⟨extra, rfl, tail⟩ := List.append_eq_append_iff.1 whole
  · exact List.prefix_append _ _
  · cases extra with
    | nil =>
      rw [List.append_nil]
    | cons e extra =>
      obtain ⟨rfl, -⟩ := List.cons.inj tail
      exact absurd (List.mem_append_right front List.mem_cons_self) absent

/-- A text in which no occurrence begins moves the first one by its length. -/
lemma firstAt?_append {pattern front rest : List Char} (none : NoneBegins pattern front rest)
    (found : pattern <+: rest) : firstAt? pattern (front ++ rest) = some front.length := by
  induction front with
  | nil =>
    cases rest with
    | nil =>
      rw [List.prefix_nil.1 found]
      rfl
    | cons c rest =>
      rw [List.nil_append, firstAt?, if_pos (List.isPrefixOf_iff_prefix.2 found)]
      rfl
  | cons c front ih =>
    have apart : ¬pattern <+: c :: (front ++ rest) :=
      none (c :: front) List.suffix_rfl (List.cons_ne_nil _ _)
    rw [List.cons_append, firstAt?, if_neg (mt List.isPrefixOf_iff_prefix.1 apart), ih none.of_cons]
    rfl

/-- A text in front moves the last occurrence by its length. -/
lemma lastAt?_append {pattern rest : List Char} {n : Nat} (found : lastAt? pattern rest = some n)
    (front : List Char) : lastAt? pattern (front ++ rest) = some (front.length + n) := by
  induction front with
  | nil => rw [List.nil_append, found, List.length_nil, Nat.zero_add]
  | cons c front ih =>
    rw [List.cons_append, lastAt?, ih, List.length_cons, Nat.add_right_comm]

end EmailTemplate.Text
