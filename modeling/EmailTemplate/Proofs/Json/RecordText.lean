import EmailTemplate.Proofs.Json.MemberOrder
import EmailTemplate.Proofs.Json.Skip

/-!
# Reading a record from a text

A record is read from a text as the text goes: members that are no fields are skipped, and reading
stops where a field comes again or a list has too many items. Where the text holds a value, this is
the record that is read from the value (`ofText_agrees`), provided that no key is repeated at the
top: a value keeps the last of the members with one key, which a record does not accept.
-/

namespace EmailTemplate.Json
open EmailTemplate.Text

/-- A reading ends at `rest` if the condition holds, and fails if it does not. -/
def EndsIf (condition : Prop) (rest : List Char) (outcome : Except Failure (List Char)) : Prop :=
  condition ∧ outcome = .ok rest ∨ ¬condition ∧ ∃ failure, outcome = .error failure

/-- A record read from a text up to `rest` is like the given one: it has the same fields, and is
read to the end if the given one has no error. -/
def Reads {κ : Type} (rest : List Char) (read : List (κ × Json) × Except Failure (List Char))
    (r : Record κ Mismatch) : Prop :=
  read.1 = r.entries ∧ EndsIf (r.error = none) rest read.2

/-- The members of the object at the start of a text, as they are written. -/
def writtenMembers (cs : List Char) : List (String × Json) :=
  match skipSpace cs with
  | '\x7b' :: rest =>
    match readMembers (readValue cs.length (maxDepth - 1)) cs.length [] rest with
    | .ok (members, _) => members
    | .error _ => []
  | _ => []

namespace Schema

section Lists
variable {κ : Type} {cs rest : List Char}

/-- A list that has more items than there are fields does not end behind the last of them. -/
lemma readListEnd_of_more (more : ∀ behind, skipSpace cs ≠ ']' :: behind) :
    ∃ failure, readListEnd cs = .error failure := by
  rw [readListEnd]
  generalize skipSpace cs = text at more ⊢
  split
  · exact ⟨_, rfl⟩
  · exact absurd rfl (more _)
  · split <;> exact ⟨_, rfl⟩
  · exact ⟨_, rfl⟩

/-- A list that can be read is read as a record, if it has no more items than there are fields. -/
lemma readList_of_readItems {fuel steps : Nat} {read all : List Json} (fields : List κ)
    (entries : List (κ × Json))
    (h : readItems (readValue fuel (maxDepth - 1)) steps read cs = .ok (all, rest)) :
    ∃ items, all = read.reverse ++ items ∧
      (readList fuel fields entries read.isEmpty cs).1 = entries.reverse ++ fields.zip items ∧
      EndsIf (items.length ≤ fields.length) rest
        (readList fuel fields entries read.isEmpty cs).2 := by
  -- what was read before stays in front on both sides, in reverse
  induction steps generalizing read fields entries cs with
  | zero => cases h
  | succ steps ih =>
    obtain ⟨ending, closing, rfl⟩ | ⟨c, text, item, behind, next, other, upcoming, value, h⟩ :=
      readItems_cases h
    · have closed : readListEnd cs = .ok rest := by
        simp only [readListEnd, closing]
      refine ⟨[], (List.append_nil _).symm, ?_⟩
      cases fields with
      | nil => exact ⟨(List.append_nil _).symm, .inl ⟨Nat.le_refl _, closed⟩⟩
      | cons k fields =>
        rw [readList, ending]
        exact ⟨(List.append_nil _).symm, .inl ⟨Nat.zero_le _, closed⟩⟩
    · cases fields with
      | nil =>
        obtain ⟨items, rfl, -⟩ := ih [] [] h
        have ending := readListEnd_of_more fun _ => upcoming.not_closing other
        refine ⟨item :: items, by simp, (List.append_nil _).symm, .inr ⟨?_, ending⟩⟩
        exact Nat.not_succ_le_zero _
      | cons k fields =>
        obtain ⟨items, rfl, zipped, outcome⟩ := ih fields ((k, item) :: entries) h
        rw [readList, next]
        simp only [value]
        rw [List.isEmpty_cons] at zipped outcome
        refine ⟨item :: items, by simp, ?_, ?_⟩
        · rw [zipped, List.reverse_cons, List.append_assoc]
          rfl
        · rw [List.length_cons, List.length_cons, Nat.add_le_add_iff_right]
          exact outcome

end Lists

section Objects
variable {κ : Type} [BEq κ] {s : Schema κ} {cs rest : List Char}

section Steps
variable {fuel steps : Nat} {first : Bool} {key : String} {entries : List (κ × Json)}
  {text colon item behind : List Char}

/-- A member that is no field is skipped. -/
lemma readObject_unknown (next : readToKey first cs = .ok (some text))
    (named : readString text = .ok (key, colon)) (unknown : s.field? key = none)
    (assigned : readColon colon = .ok item) (skipped : skipValue item = .ok behind) :
    s.readObject fuel (steps + 1) entries first cs =
      s.readObject fuel steps entries false behind := by
  simp only [readObject, next, named, bind, Except.bind, pure, Except.pure, unknown, assigned,
    skipped]

/-- A member that is a field is read, unless the field was there before. -/
lemma readObject_known {k : κ} {value : Json} (next : readToKey first cs = .ok (some text))
    (named : readString text = .ok (key, colon)) (known : s.field? key = some k)
    (assigned : readColon colon = .ok item)
    (found : readValue fuel (maxDepth - 1) item = .ok (value, behind)) :
    s.readObject fuel (steps + 1) entries first cs =
      if entries.any (·.1 == k) then
        (entries.reverse,
          .error ⟨.mismatch (.duplicateField (s.name k)), byteLength (giveUp colon)⟩)
      else s.readObject fuel steps ((k, value) :: entries) false behind := by
  simp only [readObject, next, named, bind, Except.bind, pure, Except.pure, known, assigned, found]

end Steps

/-- An object that can be read is read as a record, if no field is there twice. -/
lemma readObject_of_readMembers {fuel steps : Nat} {read all : List (String × Json)}
    (entries : List (κ × Json))
    (h : readMembers (readValue fuel (maxDepth - 1)) steps read cs = .ok (all, rest)) :
    ∃ members, all = read.reverse ++ members ∧
      (s.readObject fuel steps entries read.isEmpty cs).1 = (s.ofMembers entries members).entries ∧
      EndsIf ((s.ofMembers entries members).error = none) rest
        (s.readObject fuel steps entries read.isEmpty cs).2 := by
  -- the members read before need not be those taken for fields before, so both are left open
  induction steps generalizing read entries cs with
  | zero => cases h
  | succ steps ih =>
    obtain ⟨ending, closing, rfl⟩ | ⟨text, key, colon, item, value, behind, next, -, named,
      assigned, found, h⟩ := readMembers_cases h
    · refine ⟨[], (List.append_nil _).symm, ?_⟩
      simp only [readObject, ending, closing]
      exact ⟨rfl, .inl ⟨rfl, rfl⟩⟩
    · cases field : s.field? key with
      | none =>
        have skipped : skipValue item = .ok behind :=
          (skipsWithin_readValue fuel _ _ (Nat.lt_succ_self _) found).1
        obtain ⟨members, rfl, later⟩ := ih entries h
        refine ⟨(key, value) :: members, by simp, ?_⟩
        rw [readObject_unknown next named field assigned skipped, ofMembers, field]
        exact later
      | some k =>
        obtain ⟨members, rfl, later⟩ := ih ((k, value) :: entries) h
        refine ⟨(key, value) :: members, by simp, ?_⟩
        rw [readObject_known next named field assigned found, ofMembers, field]
        simp only
        split
        case isTrue seen => exact ⟨rfl, .inr ⟨Option.some_ne_none _, _, rfl⟩⟩
        case isFalse new => exact later

end Objects

section Records
variable {κ : Type} [BEq κ] {s : Schema κ} {cs rest : List Char} {value : Json}

/-- What is neither a list nor an object is no record. -/
lemma readRecord_of_scalar
    (other : ∀ text, skipSpace cs ≠ '[' :: text ∧ skipSpace cs ≠ '\x7b' :: text) :
    ∃ failure, s.readRecord cs = ([], .error failure) := by
  rw [readRecord]
  generalize skipSpace cs = text at other ⊢
  split
  · exact ⟨_, rfl⟩
  · exact absurd rfl (other _).1
  · exact absurd rfl (other _).2
  · exact ⟨_, rfl⟩

/-- A scalar is no record. -/
lemma ofValue_of_scalar (scalar : value.IsScalar) :
    ∃ m, s.ofValue value = ⟨[], false, some m⟩ := by
  cases value with
  | arr items => cases scalar
  | obj members => cases scalar
  | _ => exact ⟨_, rfl⟩

/-- A list is read as a record in the text as it is as a value. -/
lemma reads_list {items : List Json} {read : List (κ × Json) × Except Failure (List Char)}
    (zipped : read.1 = s.fields.zip items)
    (outcome : EndsIf (items.length ≤ s.fields.length) rest read.2) :
    Reads rest read (s.ofValue (.arr items)) := by
  rw [ofValue]
  obtain ⟨few, outcome⟩ | ⟨many, failed⟩ := outcome
  · rw [if_neg (Nat.not_lt.2 few)]
    exact ⟨zipped, .inl ⟨rfl, outcome⟩⟩
  · rw [if_pos (Nat.not_le.1 many)]
    exact ⟨zipped, .inr ⟨nofun, failed⟩⟩

/-- A value that can be read is read as a record like the value itself, but for the order of the
members of an object, which is that of the text. -/
lemma readRecord_of_readValue (h : readValue cs.length maxDepth cs = .ok (value, rest)) :
    (∀ members, value ≠ .obj members) ∧ Reads rest (s.readRecord cs) (s.ofValue value) ∨
      value = Json.ofMembers (writtenMembers cs) ∧
        Reads rest (s.readRecord cs) (s.ofValue (.obj (writtenMembers cs))) := by
  obtain ⟨text, items, start, rfl, list⟩ | ⟨text, members, start, rfl, object⟩ | ⟨scalar, other⟩ :=
    readValue_cases h
  · left
    obtain ⟨items', rfl, zipped, outcome⟩ := readList_of_readItems s.fields [] list
    refine ⟨nofun, ?_⟩
    rw [readRecord, start]
    exact reads_list zipped outcome
  · right
    have written : writtenMembers cs = members := by
      simp only [writtenMembers, start, maxDepth]
      rw [object]
    obtain ⟨members', rfl, same, outcome⟩ := readObject_of_readMembers (s := s) [] object
    rw [written, readRecord, start]
    exact ⟨rfl, same, outcome⟩
  · left
    obtain ⟨failure, read⟩ := readRecord_of_scalar (s := s) other
    obtain ⟨m, eq⟩ := ofValue_of_scalar (s := s) scalar
    rw [read, eq]
    refine ⟨?_, rfl, .inr ⟨nofun, failure, rfl⟩⟩
    rintro members rfl
    exact scalar

/-- A text that ends behind its record is read like the value that it holds. -/
lemma agrees_of_reads {text : String} {r : Record κ Mismatch} (ending : expectEnd rest = .ok ())
    (h : Reads rest (s.readRecord text.toList) r) : (s.ofText text).Agrees r := by
  obtain ⟨same, outcome⟩ := h
  simp only [ofText]
  obtain ⟨complete, outcome⟩ | ⟨faulty, failure, outcome⟩ := outcome
  · rw [outcome]
    simp only [ending]
    refine ⟨⟨fun _ => complete, fun _ => rfl⟩, fun _ => ?_⟩
    funext k
    rw [Record.get, Record.get, same]
  · rw [outcome]
    exact ⟨⟨nofun, fun complete => absurd complete faulty⟩, nofun⟩

/-- A record is read from a text as it is from the value that the text holds. -/
theorem ofText_agrees [LawfulBEq κ] {text : String} (h : ofText? text = .ok value)
    (once : ((writtenMembers text.toList).map Prod.fst).Nodup) :
    (s.ofText text).Agrees (s.ofValue value) := by
  obtain ⟨⟨value, rest⟩, read, h⟩ := bind_ok (mapError_ok h)
  obtain ⟨⟨⟩, ending, eq⟩ := bind_ok h
  cases eq
  obtain ⟨-, record⟩ | ⟨rfl, record⟩ := readRecord_of_readValue (s := s) read
  · exact agrees_of_reads ending record
  · obtain ⟨sorted, eq, perm⟩ := exists_ofMembers once
    rw [eq]
    exact (agrees_of_reads ending record).trans (s.agrees_of_perm perm.symm)

end Records

end Schema
end EmailTemplate.Json
