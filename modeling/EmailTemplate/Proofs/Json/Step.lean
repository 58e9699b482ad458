import EmailTemplate.Json.Reader
import Mathlib.Tactic.Lemma

/-!
# Items and members one by one

What it takes to read the items of a list or the members of an object: either the closing bracket
comes next, or an item that can be read, behind a comma if it is not the first, and then what it
takes to read the others (`readItems_cases`, `readMembers_cases`). Any other value is a scalar
(`readValue_cases`). A reader is a computation in steps that may fail; it succeeds exactly if each
of its steps does, and its success is taken apart from the first step on.
-/

namespace EmailTemplate

section Success
variable {ε ε' α β : Type} {x : Except ε α} {b : β}

/-- Two steps succeed only if the first one does, and then the second from what that gave. -/
lemma bind_ok {f : α → Except ε β} (h : (x >>= f) = .ok b) : ∃ a, x = .ok a ∧ f a = .ok b := by
  cases x with
  | error e => cases h
  | ok a => exact ⟨a, rfl, h⟩

/-- What a step gives may be changed afterwards; the step succeeded all the same. -/
lemma map_ok {f : α → β} (h : x.map f = .ok b) : ∃ a, x = .ok a ∧ f a = b := by
  cases x with
  | error e => cases h
  | ok a => exact ⟨a, rfl, Except.ok.inj h⟩

/-- Another error does not make a step succeed. -/
lemma mapError_ok {f : ε → ε'} {a : α} (h : x.mapError f = .ok a) : x = .ok a := by
  cases x with
  | error e => cases h
  | ok a' =>
    cases h
    rfl

end Success

namespace Json
open Text

variable {first : Bool} {cs rest : List Char}

/-- Skipping blanks makes a text no longer. -/
lemma length_skipSpace_le (cs : List Char) : (skipSpace cs).length ≤ cs.length :=
  (List.dropWhile_suffix _).length_le

/-- What comes next in a list or an object: the first item or key, or one behind a comma. -/
def Upcoming (first : Bool) (cs text : List Char) : Prop :=
  first = true ∧ skipSpace cs = text ∨
    first = false ∧ ∃ behind, skipSpace cs = ',' :: behind ∧ skipSpace behind = text

/-- What comes next is no longer than the text. -/
lemma Upcoming.length_le {text : List Char} (h : Upcoming first cs text) :
    text.length ≤ cs.length := by
  obtain ⟨-, rfl⟩ | ⟨-, behind, comma, rfl⟩ := h
  · exact length_skipSpace_le cs
  · have length := length_skipSpace_le cs
    rw [comma] at length
    exact Nat.le_trans (length_skipSpace_le behind) (Nat.le_of_succ_le length)

/-- Where an item comes next the list does not end. -/
lemma Upcoming.not_closing {c : Char} {text behind : List Char} (other : c ≠ ']')
    (upcoming : Upcoming first cs (c :: text)) : skipSpace cs ≠ ']' :: behind := by
  intro closing
  obtain ⟨-, start⟩ | ⟨-, behind, comma, -⟩ := upcoming
  · rw [start] at closing
    exact other (List.cons.inj closing).1
  · rw [comma] at closing
    exact absurd (List.cons.inj closing).1 (by decide)

/-- Reading up to an item finds the closing bracket, or the item. -/
lemma readToItem_cases {next : Option (List Char)} (h : readToItem first cs = .ok next) :
    next = none ∧ (∃ rest, skipSpace cs = ']' :: rest) ∨
    ∃ c text, next = some (c :: text) ∧ c ≠ ']' ∧ Upcoming first cs (c :: text) := by
  unfold Upcoming
  rw [readToItem] at h
  generalize skipSpace cs = text at h ⊢
  split at h
  case h_1 => cases h
  case h_2 rest =>
    cases h
    exact .inl ⟨rfl, rest, rfl⟩
  case h_3 c rest other =>
    right
    split at h
    case isTrue isFirst =>
      cases h
      exact ⟨c, rest, rfl, other, .inl ⟨isFirst, rfl⟩⟩
    -- behind other items a comma must come first, and no bracket may follow it
    case isFalse notFirst =>
      have notFirst : first = false := by simpa using notFirst
      split at h
      case isFalse => cases h
      case isTrue comma =>
        obtain rfl : c = ',' := eq_of_beq comma
        split at h
        case h_1 => cases h
        case h_2 => cases h
        case h_3 nonempty more =>
          cases h
          generalize eq : skipSpace rest = text at nonempty more
          cases text with
          | nil => exact absurd rfl nonempty
          | cons d text =>
            have other : d ≠ ']' := fun closing => more text (closing ▸ rfl)
            exact ⟨d, text, rfl, other, .inr ⟨notFirst, rest, rfl, eq⟩⟩

/-- Reading up to a key finds the closing brace, or the opening quote of the key. -/
lemma readToKey_cases {next : Option (List Char)} (h : readToKey first cs = .ok next) :
    next = none ∧ (∃ rest, skipSpace cs = '\x7d' :: rest) ∨
    ∃ text, next = some text ∧ Upcoming first cs ('"' :: text) := by
  unfold Upcoming
  rw [readToKey] at h
  generalize skipSpace cs = text at h ⊢
  split at h
  case h_1 => cases h
  case h_2 rest =>
    cases h
    exact .inl ⟨rfl, rest, rfl⟩
  case h_3 c rest more =>
    right
    split at h
    case isTrue isFirst =>
      split at h
      case isFalse => cases h
      case isTrue quote =>
        cases h
        obtain rfl : c = '"' := eq_of_beq quote
        exact ⟨rest, rfl, .inl ⟨isFirst, rfl⟩⟩
    -- behind other members a comma must come first, and a quote must follow it
    case isFalse notFirst =>
      have notFirst : first = false := by simpa using notFirst
      split at h
      case isFalse => cases h
      case isTrue comma =>
        obtain rfl : c = ',' := eq_of_beq comma
        split at h
        case h_2 next eq =>
          cases h
          exact ⟨next, rfl, .inr ⟨notFirst, rest, rfl, eq⟩⟩
        all_goals cases h

variable {readItem : Reader Json} {fuel : Nat}

/-- A list is read to its end, or an item of it and then the others. -/
lemma readItems_cases {read items : List Json}
    (h : readItems readItem (fuel + 1) read cs = .ok (items, rest)) :
    readToItem read.isEmpty cs = .ok none ∧ skipSpace cs = ']' :: rest ∧ items = read.reverse ∨
    ∃ c text item behind, readToItem read.isEmpty cs = .ok (some (c :: text)) ∧
      c ≠ ']' ∧ Upcoming read.isEmpty cs (c :: text) ∧
      readItem (c :: text) = .ok (item, behind) ∧
      readItems readItem fuel (item :: read) behind = .ok (items, rest) := by
  rw [readItems] at h
  obtain ⟨next, found, h⟩ := bind_ok h
  obtain ⟨rfl, behind, closing⟩ | ⟨c, text, rfl, other, upcoming⟩ := readToItem_cases found
  · left
    rw [closing] at h
    cases h
    exact ⟨found, closing, rfl⟩
  · right
    obtain ⟨⟨item, behind⟩, read, h⟩ := bind_ok h
    exact ⟨c, text, item, behind, found, other, upcoming, read, h⟩

/-- An object is read to its end, or a member of it and then the others. -/
lemma readMembers_cases {read members : List (String × Json)}
    (h : readMembers readItem (fuel + 1) read cs = .ok (members, rest)) :
    readToKey read.isEmpty cs = .ok none ∧ skipSpace cs = '\x7d' :: rest ∧
      members = read.reverse ∨
    ∃ text key colon item value behind, readToKey read.isEmpty cs = .ok (some text) ∧
      Upcoming read.isEmpty cs ('"' :: text) ∧
      readString text = .ok (key, colon) ∧ readColon colon = .ok item ∧
      readItem item = .ok (value, behind) ∧
      readMembers readItem fuel ((key, value) :: read) behind = .ok (members, rest) := by
  rw [readMembers] at h
  obtain ⟨next, found, h⟩ := bind_ok h
  obtain ⟨rfl, behind, closing⟩ | ⟨text, rfl, upcoming⟩ := readToKey_cases found
  · left
    rw [closing] at h
    cases h
    exact ⟨found, closing, rfl⟩
  · right
    obtain ⟨⟨key, colon⟩, named, h⟩ := bind_ok h
    obtain ⟨item, assigned, h⟩ := bind_ok h
    obtain ⟨⟨value, behind⟩, read, h⟩ := bind_ok h
    exact ⟨text, key, colon, item, value, behind, found, upcoming, named, assigned, read, h⟩

/-- A value that is neither a list nor an object. -/
def IsScalar : Json → Prop
  | arr _ | obj _ => False
  | _ => True

/-- A list or an object is read by its items or members, and anything else is a scalar. -/
lemma readValue_cases {depth : Nat} {value : Json}
    (h : readValue fuel (depth + 1) cs = .ok (value, rest)) :
    (∃ text items, skipSpace cs = '[' :: text ∧ value = arr items ∧
      readItems (readValue fuel depth) fuel [] text = .ok (items, rest)) ∨
    (∃ text members, skipSpace cs = '\x7b' :: text ∧ value = ofMembers members ∧
      readMembers (readValue fuel depth) fuel [] text = .ok (members, rest)) ∨
    value.IsScalar ∧ ∀ text, skipSpace cs ≠ '[' :: text ∧ skipSpace cs ≠ '\x7b' :: text := by
  rw [readValue] at h
  generalize skipSpace cs = text at h ⊢
  split at h
  case h_1 => cases h
  case h_7 text =>
    left
    split at h
    · cases h
    · obtain ⟨⟨items, rest⟩, list, eq⟩ := map_ok h
      cases eq
      exact ⟨text, items, rfl, rfl, list⟩
  case h_8 text =>
    right; left
    split at h
    · cases h
    · obtain ⟨⟨members, rest⟩, object, eq⟩ := map_ok h
      cases eq
      exact ⟨text, members, rfl, rfl, object⟩
  case h_9 c text null true' false' minus quote list object =>
    right; right
    split at h
    case isFalse => cases h
    case isTrue digit =>
      obtain ⟨⟨x, rest⟩, number, eq⟩ := map_ok h
      cases eq
      refine ⟨trivial, fun text => ⟨?_, ?_⟩⟩
      · intro eq
        exact list (List.cons.inj eq).1
      · intro eq
        exact object (List.cons.inj eq).1
  -- what is left are the three words, the negative numbers and the strings
  all_goals
    right; right
    obtain ⟨found, word, eq⟩ := map_ok h
    cases eq
    exact ⟨trivial, fun text => ⟨nofun, nofun⟩⟩

end Json

end EmailTemplate
