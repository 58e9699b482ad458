import EmailTemplate.Text.Blank
import Mathlib.Tactic.Lemma

/-!
# Texts that shrink

The length of a text in bytes adds up over its parts. A text `Shrinks` to another one that is the
same or shorter, so that the lengths alone tell whether anything was changed; parts that shrink
shrink the whole.
-/

namespace EmailTemplate.Text

/-- An empty text takes no bytes. -/
@[simp] lemma byteLength_nil : byteLength [] = 0 := rfl

/-- A character takes its own bytes. -/
@[simp] lemma byteLength_cons (c : Char) (cs : List Char) :
    byteLength (c :: cs) = c.utf8Size + byteLength cs := by
  have start (n : Nat) : ∀ cs : List Char,
      cs.foldl (fun n c => n + c.utf8Size) n = n + byteLength cs := by
    intro cs
    induction cs generalizing n with
    | nil => rfl
    | cons d cs ih =>
      rw [byteLength, List.foldl_cons, List.foldl_cons, ih, ih (0 + d.utf8Size), Nat.zero_add,
        Nat.add_assoc]
  rw [byteLength, List.foldl_cons, start, Nat.zero_add]

/-- Texts side by side take the bytes of both. -/
@[simp] lemma byteLength_append (a b : List Char) :
    byteLength (a ++ b) = byteLength a + byteLength b := by
  induction a with
  | nil => exact (Nat.zero_add _).symm
  | cons c a ih => rw [List.cons_append, byteLength_cons, byteLength_cons, ih, Nat.add_assoc]

/-- A run and what is left behind it take the bytes of the text. -/
lemma byteLength_takeWhile_add_dropWhile (p : Char → Bool) (cs : List Char) :
    byteLength (cs.takeWhile p) + byteLength (cs.dropWhile p) = byteLength cs := by
  rw [← byteLength_append, List.takeWhile_append_dropWhile]

/-- Every character takes a byte at least. -/
lemma length_le_byteLength (cs : List Char) : cs.length ≤ byteLength cs := by
  induction cs with
  | nil => exact Nat.le_refl 0
  | cons c cs ih =>
    have := c.utf8Size_pos
    rw [List.length_cons, byteLength_cons]
    omega

/-- A text that is not empty takes a byte at least. -/
lemma byteLength_pos {cs : List Char} (ne : cs ≠ []) : 0 < byteLength cs :=
  Nat.lt_of_lt_of_le (List.length_pos_iff.2 ne) (length_le_byteLength cs)

/-- The bytes of a string are those of its characters. -/
lemma byteLength_toList (s : String) : byteLength s.toList = s.utf8ByteSize := by
  have chars (cs : List Char) : byteLength cs = (String.ofList cs).utf8ByteSize := by
    induction cs with
    | nil => rfl
    | cons c cs ih =>
      rw [byteLength_cons, ih, String.ofList_cons, String.utf8ByteSize_append,
        String.utf8ByteSize_singleton]
  rw [chars, String.ofList_toList]

/-- A text that is the same as another one, or takes fewer bytes. -/
def Shrinks (cs source : List Char) : Prop :=
  cs = source ∨ byteLength cs < byteLength source

namespace Shrinks
variable {a b c a' b' : List Char}

/-- A text that stays as it is shrinks. -/
lemma refl (a : List Char) : Shrinks a a :=
  .inl rfl

/-- A text that shrinks takes no more bytes. -/
lemma le (h : Shrinks a b) : byteLength a ≤ byteLength b := by
  rcases h with rfl | lt
  · exact Nat.le_refl _
  · exact Nat.le_of_lt lt

/-- A text that shrinks and takes as many bytes as before is the same. -/
lemma eq_of_le (h : Shrinks a b) (le : byteLength b ≤ byteLength a) : a = b := by
  rcases h with e | lt
  · exact e
  · exact absurd lt (Nat.not_lt_of_le le)

/-- A text that shrinks twice shrinks. -/
lemma trans (h : Shrinks a b) (h' : Shrinks b c) : Shrinks a c := by
  rcases h with rfl | lt
  · exact h'
  · exact .inr (Nat.lt_of_lt_of_le lt h'.le)

/-- Texts side by side may shrink each by itself. -/
lemma append (h : Shrinks a b) (h' : Shrinks a' b') : Shrinks (a ++ a') (b ++ b') := by
  have le := h.le
  have le' := h'.le
  rcases h with rfl | lt
  · rcases h' with rfl | lt'
    · exact refl _
    · refine .inr ?_
      rw [byteLength_append, byteLength_append]
      omega
  · refine .inr ?_
    rw [byteLength_append, byteLength_append]
    omega

/-- Parts that shrink make up the same text only if neither of them was changed. -/
lemma append_eq_iff (h : Shrinks a b) (h' : Shrinks a' b') :
    a ++ a' = b ++ b' ↔ a = b ∧ a' = b' := by
  constructor
  · intro e
    have le := h.le
    have le' := h'.le
    have same := congrArg byteLength e
    rw [byteLength_append, byteLength_append] at same
    exact ⟨h.eq_of_le (by omega), h'.eq_of_le (by omega)⟩
  · rintro ⟨rfl, rfl⟩
    rfl

/-- A text from which characters are taken out shrinks. -/
lemma of_sublist (h : a.Sublist b) : Shrinks a b := by
  induction h with
  | slnil => exact refl []
  | @cons a b c _ ih =>
    have := c.utf8Size_pos
    have := ih.le
    refine .inr ?_
    rw [byteLength_cons]
    omega
  | @cons_cons a b c _ ih => exact append (refl [c]) ih

end Shrinks

end EmailTemplate.Text
