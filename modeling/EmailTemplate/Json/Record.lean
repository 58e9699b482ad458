import EmailTemplate.Json.Reader

/-!
# Records

A record is an object with known fields. It may also be given as a list of its fields' values in
the order of declaration, the last ones left out. Unknown fields are skipped, and a field that is
there twice is an error. Fields are taken in the order in which they come, so that what was read
before an error is known too.
-/

namespace EmailTemplate.Json
open EmailTemplate.Text

/-- What the records of one kind have in common: how they are called, and what their fields are. -/
structure Schema (κ : Type) where
  /-- What messages call a record of this kind. -/
  title : String
  /-- The fields in the order of declaration. -/
  fields : List κ
  /-- The name of a field in messages. -/
  name : κ → String
  /-- The field that a key denotes; a field may have more than one key. -/
  field? : String → Option κ

/-- What was read of a record: values of fields, in the order in which they came, and the error
that ended the reading, if one did. The error may be in what follows a complete record. -/
structure Record (κ ε : Type) where
  entries : List (κ × Json)
  /-- Whether the record itself was read to its end. -/
  complete : Bool
  error : Option ε

/-- The value of a field; one that is missing is null. -/
def Record.get {κ ε : Type} [BEq κ] (r : Record κ ε) (field : κ) : Json :=
  (r.entries.lookup field).getD .null

/-- The record with its error, if there is one, changed. -/
def Record.mapError {κ ε ε' : Type} (f : ε → ε') (r : Record κ ε) : Record κ ε' :=
  ⟨r.entries, r.complete, r.error.map f⟩

namespace Schema

variable {κ : Type} [BEq κ]

/-- Takes members of an object for fields, after those already read, which are given in reverse. -/
def ofMembers (s : Schema κ) : List (κ × Json) → List (String × Json) → Record κ Mismatch
  | read, [] => ⟨read.reverse, true, none⟩
  | read, (key, value) :: members =>
    match s.field? key with
    | none => s.ofMembers read members
    | some k =>
      if read.any (·.1 == k) then ⟨read.reverse, false, some (.duplicateField (s.name k))⟩
      else s.ofMembers ((k, value) :: read) members

/-- The record that a value is: an object of its fields, or a list of their values. -/
def ofValue (s : Schema κ) : Json → Record κ Mismatch
  | .arr items =>
    let read := s.fields.zip items
    if s.fields.length < items.length then ⟨read, false, some (.tooManyItems items.length)⟩
    else ⟨read, true, none⟩
  | .obj members => s.ofMembers [] members
  | value => ⟨[], false, some (.wrongType value.shape s.title)⟩

end Schema

/-- The failure at a value of another shape than expected. A list or an object is not read. -/
def misfit (expected : String) (cs : List Char) : Failure :=
  match cs with
  | '[' :: _ => ⟨.mismatch (.wrongType .sequence expected), byteLength cs⟩
  | '\x7b' :: _ => ⟨.mismatch (.wrongType .map expected), byteLength cs⟩
  | _ =>
    match readValue 0 1 cs with
    | .ok (value, rest) => ⟨.mismatch (.wrongType value.shape expected), byteLength rest⟩
    | .error failure => failure

/-- Reads the closing bracket of a list that has no more items. -/
def readListEnd (cs : List Char) : Except Failure (List Char) :=
  match skipSpace cs with
  | [] => failAt .eofInList []
  | ']' :: rest => .ok rest
  | ',' :: rest =>
    match skipSpace rest with
    | ']' :: rest => failPast .trailingComma (']' :: rest)
    | rest => failPast .trailingCharacters rest
  | rest => failPast .trailingCharacters rest

/-- Where reading an object stops when it is given up: after its closing brace if that comes
next. -/
def giveUp (cs : List Char) : List Char :=
  match skipSpace cs with
  | '\x7d' :: rest => rest
  | rest => rest

namespace Schema

variable {κ : Type} [BEq κ]

/-- Reads the fields of a record given as an object, after its opening brace or a field, up to and
with its closing brace. `fuel` is no less than the length of the text and what opened the object,
and `steps` no less than `fuel`. -/
def readObject (s : Schema κ) (fuel : Nat) :
    (steps : Nat) → List (κ × Json) → (first : Bool) → List Char →
      List (κ × Json) × Except Failure (List Char)
  | 0, read, _, cs => (read.reverse, failAt .eofInObject cs)
  | steps + 1, read, first, cs =>
    let key : Except Failure (Option (String × List Char)) := do
      match ← readToKey first cs with
      | none => return none
      | some rest => return some (← readString rest)
    match key with
    | .error failure => (read.reverse, .error failure)
    | .ok none => (read.reverse, .ok ((skipSpace cs).drop 1))
    | .ok (some (key, rest)) =>
      match s.field? key with
      | none =>
        match readColon rest >>= skipValue with
        | .error failure => (read.reverse, .error failure)
        | .ok rest => s.readObject fuel steps read false rest
      | some k =>
        if read.any (·.1 == k) then
          (read.reverse,
            .error ⟨.mismatch (.duplicateField (s.name k)), byteLength (giveUp rest)⟩)
        else
          match readColon rest >>= readValue fuel (maxDepth - 1) with
          | .error failure => (read.reverse, .error failure)
          | .ok (value, rest) => s.readObject fuel steps ((k, value) :: read) false rest

/-- Reads the values of fields of a record given as a list, after its opening bracket or a value,
up to and with its closing bracket. `fuel` is no less than the length of the text. -/
def readList (fuel : Nat) :
    List κ → List (κ × Json) → (first : Bool) → List Char →
      List (κ × Json) × Except Failure (List Char)
  | [], read, _, cs => (read.reverse, readListEnd cs)
  | k :: ks, read, first, cs =>
    match readToItem first cs with
    | .error failure => (read.reverse, .error failure)
    | .ok none => (read.reverse, readListEnd cs)
    | .ok (some rest) =>
      match readValue fuel (maxDepth - 1) rest with
      | .error failure => (read.reverse, .error failure)
      | .ok (value, rest) => readList fuel ks ((k, value) :: read) false rest

/-- Reads a record at the start of a text. -/
def readRecord (s : Schema κ) (cs : List Char) : List (κ × Json) × Except Failure (List Char) :=
  match skipSpace cs with
  | [] => ([], failAt .eofInValue [])
  | '[' :: rest => readList cs.length s.fields [] true rest
  | '\x7b' :: rest => s.readObject cs.length cs.length [] true rest
  | rest => ([], .error (misfit s.title rest))

/-- The record that a text holds; nothing but blanks may follow it. -/
def ofText (s : Schema κ) (text : String) : Record κ Error :=
  let cs := text.toList
  let (entries, outcome) := s.readRecord cs
  match outcome with
  | .error failure => ⟨entries, false, some (failure.toError cs)⟩
  | .ok rest =>
    match expectEnd rest with
    | .error failure => ⟨entries, true, some (failure.toError cs)⟩
    | .ok () => ⟨entries, true, none⟩

end Schema

/-- Reads the members of an object; of two with the same key the later one stays. -/
def readObjectMembers (expected : String) : Reader (List (String × Json)) := fun cs =>
  match skipSpace cs with
  | [] => failAt .eofInValue []
  | '\x7b' :: _ =>
    (readValue cs.length maxDepth cs).map fun
      | (.obj members, rest) => (members, rest)
      | (_, rest) => ([], rest)
  | rest => .error (misfit expected rest)

/-- The members of the object that a text holds. -/
def membersOfText? (expected : String) (text : String) :
    Except Error (List (String × Json)) :=
  let cs := text.toList
  let members : Except Failure (List (String × Json)) := do
    let (members, rest) ← readObjectMembers expected cs
    expectEnd rest
    return members
  members.mapError (·.toError cs)

end EmailTemplate.Json
