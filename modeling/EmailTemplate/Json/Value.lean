import EmailTemplate.Decimal.FloatText

/-!
# JSON values

A number is an integer of 64 bits, signed or unsigned, or a double. The members of an object are
kept in ascending order of their keys, and a key occurs once.
-/

namespace EmailTemplate

/-- A number, as JSON tells integers and doubles apart. -/
inductive Number where
  /-- An integer, not below `-2 ^ 63` and below `2 ^ 64`. -/
  | int (n : Int)
  /-- A finite double. -/
  | float (x : Float)

/-- A JSON value. -/
inductive Json where
  | null
  | bool (b : Bool)
  | num (n : Number)
  | str (s : String)
  | arr (items : List Json)
  | obj (members : List (String × Json))

instance : Inhabited Json := ⟨.null⟩

/-- Doubles in JSON are written positionally from `10 ^ -5` up to, and without, `10 ^ 16`, and ties
go to the even digit. -/
def Json.floatStyle : Decimal.FloatStyle where
  positional s := -5 ≤ s && s < 16
  tie := .even

/-- The text of a number. -/
def Number.text : Number → String
  | .int n => toString n
  | .float x => Decimal.floatText Json.floatStyle x

namespace Json

/-- Adds a member to the members of an object; it takes the place of one with the same key. -/
def insertMember (key : String) (value : Json) : List (String × Json) → List (String × Json)
  | [] => [(key, value)]
  | (k, v) :: members =>
    if key < k then (key, value) :: (k, v) :: members
    else if key = k then (key, value) :: members
    else (k, v) :: insertMember key value members

/-- The object with the given members; of two with the same key the later one stays. -/
def ofMembers (members : List (String × Json)) : Json :=
  obj (members.foldl (fun sorted (key, value) => insertMember key value sorted) [])

/-- The value of a member of an object. -/
def get? (key : String) : Json → Option Json
  | obj members => members.lookup key
  | _ => none

end Json

end EmailTemplate
