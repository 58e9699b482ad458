import EmailTemplate.Proofs.Markup.ByteScan
import EmailTemplate.Proofs.Text.Slice

/-!
# Ranges that tile a start tag

The offsets that are noted for a start tag lie in order, leave nothing out and fall between
characters: its ranges tile the text of the tag (`TagRange.Tiles`). They do because each of them is
the length of a beginning of that text (`StartTag.cutsAt_of_mem_rangeFrom`).
-/

namespace EmailTemplate.Markup
open EmailTemplate.Text

/-- Attributes that stand side by side from an offset up to another one. -/
def SideBySide : (i : Nat) → List AttributeRange → (stop : Nat) → Prop
  | i, [], stop => i = stop
  | i, a :: attrs, stop => a.start = i ∧ SideBySide a.stop attrs stop

/-- The parts of an attribute stand in their order. -/
structure AttributeRange.Ordered (a : AttributeRange) : Prop where
  start_le : a.start ≤ a.name.start
  name_lt : a.name.start < a.name.stop
  name_le : a.name.stop ≤ a.stop
  /-- A value stands behind the name, with the equals sign between them, and ends the attribute. -/
  value : ∀ v ∈ a.value, a.name.stop < v.start ∧ v.start < v.stop ∧ v.stop = a.stop

/-- The offsets where a range begins and ends. -/
def ByteRange.offsets (r : ByteRange) : List Nat :=
  [r.start, r.stop]

/-- All offsets that are noted for an attribute. -/
def AttributeRange.offsets (a : AttributeRange) : List Nat :=
  a.start :: a.name.offsets ++ a.value.toList.flatMap ByteRange.offsets ++ [a.stop]

/-- All offsets that are noted for a start tag. -/
def TagRange.offsets (t : TagRange) : List Nat :=
  t.start :: t.nameStop :: t.attrs.flatMap AttributeRange.offsets ++ [t.stop]

/-- Where the attributes end: behind the last one, or behind the name if there is none. -/
def TagRange.tail (t : TagRange) : Nat :=
  t.attrs.foldl (fun _ a => a.stop) t.nameStop

/-- The ranges of a start tag fit together and fit the string. -/
structure TagRange.Tiles (s : String) (t : TagRange) : Prop where
  name : t.start < t.nameStop
  attrs : SideBySide t.nameStop t.attrs t.tail
  ordered : ∀ a ∈ t.attrs, a.Ordered
  /-- Behind the attributes stand white space and slashes, and the closing bracket at last. -/
  tail : ∃ gap, slice? s t.tail t.stop = some (String.ofList (gap ++ ['>'])) ∧
    ∀ c ∈ gap, isGap c = true
  within : ∀ i ∈ t.offsets, i ≤ s.utf8ByteSize
  boundary : ∀ i ∈ t.offsets, String.Pos.Raw.IsValid s ⟨i⟩

/-- The last attribute ends where the text of all of them does. -/
lemma foldl_stop_rangesFrom (i : Nat) (attrs : List Attribute) :
    (rangesFrom i attrs).foldl (fun _ a => a.stop) i =
      i + byteLength (attrs.flatMap Attribute.text) := by
  induction attrs generalizing i with
  | nil => rfl
  | cons a attrs ih =>
    rw [rangesFrom, List.foldl_cons, Attribute.rangeFrom, ih, List.flatMap_cons, byteLength_append,
      Nat.add_assoc]

/-- Attributes that follow each other stand side by side. -/
lemma sideBySide_rangesFrom (i : Nat) (attrs : List Attribute) :
    SideBySide i (rangesFrom i attrs) ((rangesFrom i attrs).foldl (fun _ a => a.stop) i) := by
  induction attrs generalizing i with
  | nil => rfl
  | cons a attrs ih => exact ⟨rfl, ih _⟩

/-- The tail of a readable tag is a gap. -/
lemma ReadableAttrs.gap_tail {tail attrs} (h : ReadableAttrs tail attrs) :
    ∀ c ∈ tail, isGap c = true := by
  induction h with
  | nil gap => exact gap
  | cons _ _ _ _ ih => exact ih

/-- A value is assigned with an equals sign. -/
lemma Assigned.assign_ne_nil {next assign value} (h : Assigned next assign value)
    (ne : value ≠ []) : assign ≠ [] := by
  cases h with
  | nothing => exact absurd rfl ne
  | quoted => simp
  | unquoted => simp
  | empty => simp

/-- The parts of an attribute with a name, whose value is assigned, stand in their order. -/
lemma ordered_rangeFrom {a : Attribute} (name : a.name ≠ [])
    (assigned : a.value ≠ [] → a.assign ≠ []) (i : Nat) : (a.rangeFrom i).Ordered := by
  have size : byteLength a.text =
      byteLength a.gap + byteLength a.name + byteLength a.assign + byteLength a.value := by
    simp [Attribute.text, Nat.add_assoc]
  have nonempty := byteLength_pos name
  constructor
  case start_le => simp [Attribute.rangeFrom]
  case name_lt => simpa [Attribute.rangeFrom]
  case name_le =>
    simp only [Attribute.rangeFrom, size]
    omega
  case value =>
    intro v hv
    by_cases ne : a.value = []
    · simp [Attribute.rangeFrom, valueRange?, ne] at hv
    · have equals := byteLength_pos (assigned ne)
      have value := byteLength_pos ne
      simp only [Attribute.rangeFrom, valueRange?, List.isEmpty_eq_false_iff.2 ne] at hv
      cases hv
      simp only [Attribute.rangeFrom, size]
      omega

/-- The parts of attributes that are read stand in their order. -/
lemma ordered_rangesFrom {tail attrs} (h : ReadableAttrs tail attrs) (i : Nat) :
    ∀ r ∈ rangesFrom i attrs, r.Ordered := by
  induction h generalizing i with
  | nil => simp [rangesFrom]
  | cons _ name assigned _ ih =>
    rintro r (_ | ⟨_, mem⟩)
    · exact ordered_rangeFrom name.ne_nil assigned.assign_ne_nil i
    · exact ih _ r mem

/-- The offsets of an attribute cut its text between characters. -/
lemma Attribute.cutsAt_of_mem_rangeFrom (a : Attribute) {i o : Nat}
    (h : o ∈ (a.rangeFrom i).offsets) : CutsAt i a.text o := by
  have text : a.text = a.gap ++ (a.name ++ (a.assign ++ a.value)) := by simp [Attribute.text]
  have name {o} (h : CutsAt (i + byteLength a.gap) (a.name ++ (a.assign ++ a.value)) o) :
      CutsAt i a.text o := text ▸ h.append_right
  simp only [AttributeRange.offsets, ByteRange.offsets, Attribute.rangeFrom, List.cons_append,
    List.nil_append, List.mem_cons, List.mem_append, List.mem_flatMap, Option.mem_toList,
    List.not_mem_nil, or_false] at h
  rcases h with rfl | rfl | rfl | ⟨v, hv, ho⟩ | rfl
  · exact .start _ _
  · exact name (.start _ _)
  · exact name (.append_right (.start _ _))
  · have value {o} (h : CutsAt (i + byteLength a.gap + byteLength a.name + byteLength a.assign)
        a.value o) : CutsAt i a.text o := name h.append_right.append_right
    unfold valueRange? at hv
    split at hv
    case isTrue => simp at hv
    case isFalse =>
      cases hv
      rcases ho with rfl | rfl
      · exact value (.start _ _)
      · exact value (.stop _ _)
  · exact .stop _ _

/-- The offsets of attributes cut their texts between characters. -/
lemma cutsAt_of_mem_rangesFrom (attrs : List Attribute) {i o : Nat}
    (h : o ∈ (rangesFrom i attrs).flatMap AttributeRange.offsets) :
    CutsAt i (attrs.flatMap Attribute.text) o := by
  induction attrs generalizing i with
  | nil => simp [rangesFrom] at h
  | cons a attrs ih =>
    rw [rangesFrom, List.flatMap_cons, List.mem_append] at h
    rw [List.flatMap_cons]
    rcases h with first | rest
    · exact (a.cutsAt_of_mem_rangeFrom first).append_left _
    · exact (ih rest).append_right

/-- The offsets of a tag cut its text. -/
lemma StartTag.cutsAt_of_mem_rangeFrom (t : StartTag) {i o : Nat}
    (h : o ∈ (t.rangeFrom i).offsets) : CutsAt i t.text o := by
  have bracket : i + byteLength ['<'] = i + 1 := rfl
  have text : t.text = ['<'] ++ (t.name ++ attrsText t.attrs t.tail) := t.text_eq
  have name {o} (h : CutsAt (i + 1) (t.name ++ attrsText t.attrs t.tail) o) :
      CutsAt i t.text o := text ▸ CutsAt.append_right (bracket ▸ h)
  simp only [TagRange.offsets, StartTag.rangeFrom, List.cons_append, List.mem_cons,
    List.mem_append, List.not_mem_nil, or_false] at h
  rcases h with rfl | rfl | attr | rfl
  · exact .start _ _
  · exact name (.append_right (.start _ _))
  · rw [attrsText, List.append_assoc] at name
    exact name (.append_right ((cutsAt_of_mem_rangesFrom t.attrs attr).append_left _))
  · exact .stop _ _

/-- The tail begins behind the name and the attributes. -/
lemma StartTag.tail_rangeFrom (t : StartTag) (i : Nat) :
    (t.rangeFrom i).tail =
      i + byteLength ('<' :: t.name) + byteLength (t.attrs.flatMap Attribute.text) := by
  have stop := foldl_stop_rangesFrom (i + 1 + byteLength t.name) t.attrs
  have bracket : Char.utf8Size '<' = 1 := rfl
  rw [byteLength_cons, bracket, ← Nat.add_assoc]
  exact stop

/-- Behind the attributes of a tag its tail is cut out, and the closing bracket. -/
lemma StartTag.slice?_tail {s : String} {front rest} {t : StartTag}
    (e : s.toList = front ++ t.text ++ rest) :
    slice? s (t.rangeFrom (byteLength front)).tail (t.rangeFrom (byteLength front)).stop =
      some (String.ofList (t.tail ++ ['>'])) := by
  have whole : s.toList = front ++ '<' :: t.name ++ t.attrs.flatMap Attribute.text ++
      (t.tail ++ ['>']) ++ rest := by
    simp [e, StartTag.text]
  refine slice?_of_eq whole ?_ ?_
  · rw [tail_rangeFrom, byteLength_append, byteLength_append]
  · simp [StartTag.rangeFrom, StartTag.text, Nat.add_assoc]

/-- The ranges of a tag that is read tile its text. -/
theorem tiles_rangeFrom {s : String} {front rest t} (h : StartTag.Readable t)
    (e : s.toList = front ++ t.text ++ rest) : (t.rangeFrom (byteLength front)).Tiles s := by
  have cut {o} (ho : o ∈ (t.rangeFrom (byteLength front)).offsets) :
      String.Pos.Raw.IsValid s ⟨o⟩ := (t.cutsAt_of_mem_rangeFrom ho).isValid e
  constructor
  case name =>
    simp only [StartTag.rangeFrom]
    omega
  case attrs => exact sideBySide_rangesFrom _ t.attrs
  case ordered => exact ordered_rangesFrom h.attrs _
  case tail => exact ⟨t.tail, StartTag.slice?_tail e, h.attrs.gap_tail⟩
  case within => exact fun o ho => (cut ho).le_utf8ByteSize
  case boundary => exact fun o ho => cut ho

end EmailTemplate.Markup
