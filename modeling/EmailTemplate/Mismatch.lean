import EmailTemplate.Decimal.FloatText
import EmailTemplate.Text.Quoted

/-!
# Values that do not fit

Why a value of a data format could not be taken for what was expected in its place. The formats
share the causes and their wording; they differ only in how a double is written.
-/

namespace EmailTemplate

/-- What a value is, as messages name it. -/
inductive Shape where
  | null
  | boolean (b : Bool)
  | integer (n : Int)
  | floating (x : Float)
  | string (s : String)
  | sequence
  | map

/-- The wording of a shape, with the value where it is short enough to show. -/
def Shape.describe (style : Decimal.FloatStyle) : Shape → String
  | null => "null"
  | boolean b => "boolean `" ++ (if b then "true" else "false") ++ "`"
  | integer n => "integer `" ++ toString n ++ "`"
  | floating x => "floating point `" ++ Decimal.floatText style x ++ "`"
  | string s => "string " ++ Text.quote s
  | sequence => "sequence"
  | map => "map"

/-- Why a value does not fit in its place. -/
inductive Mismatch where
  /-- A value of another shape was expected. -/
  | wrongType (found : Shape) (expected : String)
  /-- The shape is right, the value is not. -/
  | wrongValue (found : Shape) (expected : String)
  /-- A record has a field twice. -/
  | duplicateField (name : String)
  /-- A name is none of those that may stand in its place. -/
  | unknownVariant (name : String) (choices : List String)
  /-- A record given as a list has more items than fields. -/
  | tooManyItems (count : Nat)

/-- The wording of a mismatch. -/
def Mismatch.message (style : Decimal.FloatStyle) : Mismatch → String
  | wrongType found expected =>
    "invalid type: " ++ found.describe style ++ ", expected " ++ expected
  | wrongValue found expected =>
    "invalid value: " ++ found.describe style ++ ", expected " ++ expected
  | duplicateField name => "duplicate field `" ++ name ++ "`"
  | unknownVariant name choices =>
    "unknown variant `" ++ name ++ "`, expected one of " ++
      ", ".intercalate (choices.map fun choice => "`" ++ choice ++ "`")
  | tooManyItems count =>
    "invalid length " ++ toString count ++ ", expected fewer elements in array"

end EmailTemplate
