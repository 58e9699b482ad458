import EmailTemplate.Proofs.Text.ByteLength
import Mathlib.Data.String.Basic

/-!
# Slices of a text

A slice by offsets is only there when the offsets are in order, lie within the text and do not part
the bytes of a character. Offsets that count the bytes of a beginning of the text are such
(`isValid_byteLength`), and between two of them stands what the text has there (`slice?_of_eq`).
-/

namespace EmailTemplate.Text

/-- The part of a string from an offset up to another one; `none` when one of the offsets is beyond
the end or inside a character, or when they are the wrong way round. -/
def slice? (s : String) (i j : Nat) : Option String :=
  if i ≤ j ∧ String.Pos.Raw.isValid s ⟨i⟩ ∧ String.Pos.Raw.isValid s ⟨j⟩ then
    some (String.Pos.Raw.extract s ⟨i⟩ ⟨j⟩)
  else none

/-- Both ways of counting bytes give the same number. -/
lemma utf8Len_eq_byteLength (cs : List Char) : String.utf8Len cs = byteLength cs := by
  induction cs with
  | nil => rfl
  | cons c cs ih => rw [String.utf8Len_cons, byteLength_cons, ih, Nat.add_comm]

section
variable {s : String} {front middle back : List Char}

/-- The length of a beginning of a string is an offset between two characters. -/
lemma isValid_byteLength (e : s.toList = front ++ back) :
    String.Pos.Raw.IsValid s ⟨byteLength front⟩ := by
  refine String.Pos.Raw.isValid_iff_exists_append.2 ⟨.ofList front, .ofList back, ?_, ?_⟩
  · rw [← String.ofList_append, ← e, String.ofList_toList]
  · have size := byteLength_toList (.ofList front)
    rw [String.toList_ofList] at size
    rw [size]
    rfl

/-- Between two beginnings of a string stands what the longer one has more. -/
lemma slice?_of_eq {i j} (e : s.toList = front ++ middle ++ back) (hi : i = byteLength front)
    (hj : j = byteLength front + byteLength middle) :
    slice? s i j = some (String.ofList middle) := by
  subst hi hj
  have start : String.Pos.Raw.IsValid s ⟨byteLength front⟩ :=
    isValid_byteLength (by rw [e, List.append_assoc])
  have stop : String.Pos.Raw.IsValid s ⟨byteLength front + byteLength middle⟩ := by
    rw [← byteLength_append]
    exact isValid_byteLength e
  have extract := String.extract_of_valid front middle back
  rw [utf8Len_eq_byteLength, utf8Len_eq_byteLength, ← e, String.ofList_toList] at extract
  rw [slice?, if_pos ⟨Nat.le_add_right _ _, String.Pos.Raw.isValid_eq_true_iff.2 start,
    String.Pos.Raw.isValid_eq_true_iff.2 stop⟩, extract]

/-- A slice that is not empty ends behind its start. -/
lemma lt_of_slice? {i j r} (h : slice? s i j = some r) (ne : r ≠ "") : i < j := by
  unfold slice? at h
  split at h
  case isTrue order =>
    refine Nat.lt_of_le_of_ne order.1 fun e => ne ?_
    cases h
    rw [e, String.Pos.Raw.extract, if_pos (Nat.le_refl j)]
  case isFalse => simp at h

end

/-- An offset cuts a text that begins at `i`, between two characters or at one of its ends. -/
def CutsAt (i : Nat) (cs : List Char) (o : Nat) : Prop :=
  ∃ front back, cs = front ++ back ∧ o = i + byteLength front

namespace CutsAt
variable {i o : Nat} {a b : List Char}

/-- A text is cut where it begins. -/
lemma start (i : Nat) (cs : List Char) : CutsAt i cs i :=
  ⟨[], cs, rfl, rfl⟩

/-- A text is cut where it ends. -/
lemma stop (i : Nat) (cs : List Char) : CutsAt i cs (i + byteLength cs) :=
  ⟨cs, [], (List.append_nil cs).symm, rfl⟩

/-- What cuts a text cuts it with more behind it. -/
lemma append_left (h : CutsAt i a o) (b : List Char) : CutsAt i (a ++ b) o := by
  obtain ⟨front, back, rfl, rfl⟩ := h
  exact ⟨front, back ++ b, List.append_assoc _ _ _, rfl⟩

/-- What cuts a text cuts it with more in front of it. -/
lemma append_right (h : CutsAt (i + byteLength a) b o) : CutsAt i (a ++ b) o := by
  obtain ⟨front, back, rfl, rfl⟩ := h
  refine ⟨a ++ front, back, (List.append_assoc _ _ _).symm, ?_⟩
  rw [byteLength_append, Nat.add_assoc]

/-- An offset that cuts a part of a string falls between two of its characters. -/
lemma isValid {s : String} {front middle back : List Char} (h : CutsAt (byteLength front) middle o)
    (e : s.toList = front ++ middle ++ back) : String.Pos.Raw.IsValid s ⟨o⟩ := by
  obtain ⟨left, right, rfl, rfl⟩ := h
  rw [← byteLength_append]
  have whole : s.toList = front ++ left ++ (right ++ back) := by simp [e]
  exact isValid_byteLength whole

end CutsAt

end EmailTemplate.Text
