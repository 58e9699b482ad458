import EmailTemplate.Proofs.Text.ByteLength

/-!
# The bytes of a text

A scanner over bytes takes every byte for the character of the same number. That is right for ASCII;
a character beyond it is spread over bytes that are all beyond ASCII as well. So a class of
characters that does not tell these apart (`BeyondAscii`) comes to the same on the bytes of a text
and on its characters, and what is skipped of it ends between two characters (`skip_encoded`).
-/

namespace EmailTemplate.Text

/-- The bytes that encode a text. -/
def encoded (cs : List Char) : List UInt8 :=
  cs.flatMap String.utf8EncodeChar

/-- The character that has the number of the byte at an offset. -/
def charAt? (bytes : List UInt8) (i : Nat) : Option Char :=
  bytes[i]?.map Char.ofUInt8

/-- The first offset from `i` on where no byte of a class stands. -/
def skip (p : Char → Bool) (bytes : List UInt8) (i : Nat) : Nat :=
  if h : i < bytes.length then
    if p (Char.ofUInt8 bytes[i]) then skip p bytes (i + 1) else i
  else i
termination_by bytes.length - i

/-- Skipping does not step back. -/
lemma le_skip (p : Char → Bool) (bytes : List UInt8) (i : Nat) : i ≤ skip p bytes i := by
  fun_induction skip p bytes i with
  | case1 i _ _ ih => omega
  | case2 => exact Nat.le_refl _
  | case3 => exact Nat.le_refl _

/-- A class answers the same for all characters beyond ASCII. -/
def BeyondAscii (p : Char → Bool) (answer : Bool) : Prop :=
  ∀ c : Char, 128 ≤ c.toNat → p c = answer

/-- A character beyond ASCII is no ASCII character. -/
lemma ne_of_beyond {c d : Char} (beyond : 128 ≤ c.toNat) (ascii : d.toNat < 128) : c ≠ d := by
  rintro rfl
  omega

/-- No character beyond ASCII is a given ASCII character. -/
lemma beyondAscii_beq {d : Char} (ascii : d.toNat < 128) : BeyondAscii (· == d) false :=
  fun _ hc => beq_eq_false_iff_ne.2 (ne_of_beyond hc ascii)

/-- Every character beyond ASCII differs from a given ASCII character. -/
lemma beyondAscii_bne {d : Char} (ascii : d.toNat < 128) : BeyondAscii (· != d) true :=
  fun _ hc => bne_iff_ne.2 (ne_of_beyond hc ascii)

/-- A text is encoded character by character. -/
@[simp] lemma encoded_cons (c : Char) (cs : List Char) :
    encoded (c :: cs) = String.utf8EncodeChar c ++ encoded cs := by
  simp [encoded]

/-- Texts side by side are encoded each by itself. -/
@[simp] lemma encoded_append (a b : List Char) : encoded (a ++ b) = encoded a ++ encoded b := by
  simp [encoded]

/-- The bytes of a string encode its characters. -/
lemma encoded_toList (s : String) : encoded s.toList = s.toByteArray.data.toList := by
  rw [← String.utf8Encode_toList, List.utf8Encode, List.toList_data_toByteArray, encoded]

/-- A text is encoded in as many bytes as it takes. -/
@[simp] lemma length_encoded (cs : List Char) : (encoded cs).length = byteLength cs := by
  induction cs with
  | nil => rfl
  | cons c cs ih => simp [ih]

/-- An ASCII character is encoded by the byte of its number. -/
lemma utf8EncodeChar_of_ascii {c : Char} (ascii : c.toNat < 128) :
    String.utf8EncodeChar c = [UInt8.ofNat c.toNat] := by
  have : c.val.toNat ≤ 127 := Nat.le_of_lt_succ ascii
  rw [String.utf8EncodeChar, if_pos this]
  rfl

/-- An ASCII character takes one byte. -/
lemma utf8Size_of_ascii {c : Char} (ascii : c.toNat < 128) : c.utf8Size = 1 := by
  rw [← String.length_utf8EncodeChar, utf8EncodeChar_of_ascii ascii, List.length_singleton]

/-- The character of a byte has the number of the byte. -/
lemma toNat_ofUInt8 (b : UInt8) : (Char.ofUInt8 b).toNat = b.toNat :=
  UInt8.toNat_toUInt32 b

/-- An ASCII character is that of its own byte. -/
lemma ofUInt8_ofNat {c : Char} (ascii : c.toNat < 128) :
    Char.ofUInt8 (UInt8.ofNat c.toNat) = c := by
  apply Char.ext
  apply UInt32.toNat.inj
  have number := toNat_ofUInt8 (UInt8.ofNat c.toNat)
  rwa [UInt8.toNat_ofNat', Nat.mod_eq_of_lt (by omega)] at number

/-- All bytes of a character beyond ASCII are beyond ASCII. -/
lemma le_of_mem_utf8EncodeChar {c : Char} (beyond : 128 ≤ c.toNat) :
    ∀ b ∈ String.utf8EncodeChar c, 128 ≤ (Char.ofUInt8 b).toNat := by
  intro b mem
  rw [toNat_ofUInt8]
  have large : ¬c.val.toNat ≤ 127 := Nat.not_le_of_gt beyond
  rw [String.utf8EncodeChar, if_neg large] at mem
  split at mem
  case isTrue two =>
    simp only [List.mem_cons, List.not_mem_nil, or_false] at mem
    rcases mem with rfl | rfl
    all_goals
      rw [UInt8.toNat_ofNat']
      omega
  case isFalse =>
    split at mem
    case isTrue three =>
      simp only [List.mem_cons, List.not_mem_nil, or_false] at mem
      rcases mem with rfl | rfl | rfl
      all_goals
        rw [UInt8.toNat_ofNat']
        omega
    case isFalse four =>
      simp only [List.mem_cons, List.not_mem_nil, or_false] at mem
      rcases mem with rfl | rfl | rfl | rfl
      all_goals
        rw [UInt8.toNat_ofNat']
        omega

section
variable {p : Char → Bool} {v : Bool} {text front cs : List Char} {c : Char}

/-- The bytes of a character are of a class when the character is. -/
lemma BeyondAscii.of_mem (h : BeyondAscii p v) {b : UInt8} (mem : b ∈ String.utf8EncodeChar c) :
    p (Char.ofUInt8 b) = p c := by
  by_cases ascii : c.toNat < 128
  · rw [utf8EncodeChar_of_ascii ascii, List.mem_singleton] at mem
    rw [mem, ofUInt8_ofNat ascii]
  · have beyond := Nat.le_of_not_lt ascii
    rw [h c beyond, h _ (le_of_mem_utf8EncodeChar beyond b mem)]

/-- What is skipped from an offset on is the run that begins there. -/
lemma skip_append (front back : List UInt8) :
    skip p (front ++ back) front.length =
      front.length + (back.takeWhile fun b => p (Char.ofUInt8 b)).length := by
  induction back generalizing front with
  | nil =>
    rw [skip, dif_neg (by simp)]
    rfl
  | cons b back ih =>
    have here : (front ++ b :: back)[front.length] = b := by simp
    rw [skip, dif_pos (by simp), here]
    cases hb : p (Char.ofUInt8 b) with
    | true =>
      have := ih (front ++ [b])
      rw [List.append_assoc, List.singleton_append, List.length_append, List.length_singleton]
        at this
      rw [if_pos rfl, this, List.takeWhile_cons, hb, if_pos rfl, List.length_cons]
      omega
    | false =>
      rw [if_neg Bool.false_ne_true, List.takeWhile_cons, hb, if_neg Bool.false_ne_true]
      rfl

/-- On the bytes of a text a class makes the run that it makes on its characters. -/
lemma takeWhile_encoded (h : BeyondAscii p v) (cs : List Char) :
    (encoded cs).takeWhile (fun b => p (Char.ofUInt8 b)) = encoded (cs.takeWhile p) := by
  induction cs with
  | nil => rfl
  | cons c cs ih =>
    rw [encoded_cons]
    cases hc : p c with
    | true =>
      rw [List.takeWhile_append_of_pos fun b mem => (h.of_mem mem).trans hc, ih,
        List.takeWhile_cons_of_pos hc, encoded_cons]
    | false =>
      obtain ⟨b, bs, e⟩ := List.exists_cons_of_ne_nil (String.utf8EncodeChar_ne_nil (c := c))
      have stop := h.of_mem (c := c) (b := b) (by simp [e])
      rw [e, List.cons_append, List.takeWhile_cons_of_neg (by simp [stop, hc]),
        List.takeWhile_cons_of_neg (by simp [hc])]
      rfl

/-- What is skipped from the end of a character on is a run of characters. -/
lemma skip_encoded (h : BeyondAscii p v) (e : text = front ++ cs) :
    skip p (encoded text) (byteLength front) =
      byteLength front + byteLength (cs.takeWhile p) := by
  rw [e, encoded_append, ← length_encoded front, skip_append, takeWhile_encoded h, length_encoded,
    length_encoded]

/-- Skipping may start inside a character when the rest of the character is of the class. -/
lemma skip_encoded_succ (h : BeyondAscii p true) (e : text = front ++ c :: cs) :
    skip p (encoded text) (byteLength front + 1) =
      byteLength front + c.utf8Size + byteLength (cs.takeWhile p) := by
  obtain ⟨b, bs, hb⟩ := List.exists_cons_of_ne_nil (String.utf8EncodeChar_ne_nil (c := c))
  have size := String.length_utf8EncodeChar c
  rw [hb, List.length_cons] at size
  have trail : ∀ d ∈ bs, p (Char.ofUInt8 d) = true := by
    intro d hd
    by_cases ascii : c.toNat < 128
    · rw [utf8EncodeChar_of_ascii ascii] at hb
      obtain rfl : [] = bs := (List.cons.inj hb).2
      simp at hd
    · exact h _ (le_of_mem_utf8EncodeChar (Nat.le_of_not_lt ascii) d (by simp [hb, hd]))
  have split : encoded text = (encoded front ++ [b]) ++ (bs ++ encoded cs) := by
    simp [e, hb]
  have start : byteLength front + 1 = (encoded front ++ [b]).length := by simp
  rw [split, start, skip_append, List.takeWhile_append_of_pos trail, takeWhile_encoded h, ← start,
    List.length_append, length_encoded]
  omega

/-- At the end of a text no character stands. -/
lemma charAt?_encoded_nil : charAt? (encoded front) (byteLength front) = none := by
  rw [charAt?, List.getElem?_eq_none (by simp), Option.map_none]

/-- At the start of a character stands one of the same classes. -/
lemma charAt?_encoded_cons (e : text = front ++ c :: cs) :
    ∃ d, charAt? (encoded text) (byteLength front) = some d ∧
      ∀ {p v}, BeyondAscii p v → p d = p c := by
  obtain ⟨b, bs, hb⟩ := List.exists_cons_of_ne_nil (String.utf8EncodeChar_ne_nil (c := c))
  refine ⟨Char.ofUInt8 b, ?_, fun h => h.of_mem (by simp [hb])⟩
  rw [charAt?, e, encoded_append, encoded_cons, hb, ← length_encoded front]
  simp

/-- An ASCII character in the bytes is one of the text. -/
lemma exists_of_charAt?_encoded {i} (ascii : c.toNat < 128)
    (h : charAt? (encoded text) i = some c) :
    ∃ front cs, text = front ++ c :: cs ∧ byteLength front = i := by
  induction text generalizing i with
  | nil => simp [charAt?] at h
  | cons d text ih =>
    rw [charAt?, encoded_cons, Option.map_eq_some_iff] at h
    obtain ⟨b, hb, rfl⟩ := h
    by_cases inside : i < d.utf8Size
    · -- an ASCII byte is the only one of its character
      rw [List.getElem?_append_left (by simpa using inside)] at hb
      have mem := List.mem_of_getElem? hb
      have same : (d == Char.ofUInt8 b) = true := by
        rw [← (beyondAscii_beq ascii).of_mem mem, beq_self_eq_true]
      rw [beq_iff_eq] at same
      have size := utf8Size_of_ascii (c := d) (same ▸ ascii)
      exact ⟨[], text, by rw [same, List.nil_append], by rw [byteLength_nil]; omega⟩
    · rw [List.getElem?_append_right (by simpa using inside), String.length_utf8EncodeChar] at hb
      obtain ⟨front, cs, rfl, hi⟩ := ih (i := i - d.utf8Size) (by rw [charAt?, hb, Option.map_some])
      exact ⟨d :: front, cs, rfl, by rw [byteLength_cons]; omega⟩

end

end EmailTemplate.Text
