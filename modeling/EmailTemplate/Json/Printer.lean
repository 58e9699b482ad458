import EmailTemplate.Json.Value

/-!
# JSON text

The compact text of a JSON value: no blanks, members in the order of their keys.
-/

namespace EmailTemplate.Json

/-- One character of a string, escaped where JSON demands it. -/
def escapeChar (c : Char) : List Char :=
  if c == '"' then ['\\', '"']
  else if c == '\\' then ['\\', '\\']
  else if c == '\x08' then ['\\', 'b']
  else if c == '\x0c' then ['\\', 'f']
  else if c == '\n' then ['\\', 'n']
  else if c == '\r' then ['\\', 'r']
  else if c == '\t' then ['\\', 't']
  else if c.toNat < 0x20 then
    ['\\', 'u', '0', '0'] ++ (if c.toNat < 16 then ['0'] else []) ++ Nat.toDigits 16 c.toNat
  else [c]

/-- A string between quotes, escaped. -/
def stringText (s : String) : String :=
  String.ofList ('"' :: s.toList.flatMap escapeChar ++ ['"'])

/-- Texts with commas between them. -/
def commaJoin (texts : List String) : String :=
  ",".intercalate texts

mutual

/-- The text of a value. -/
def text : Json → String
  | null => "null"
  | bool b => if b then "true" else "false"
  | num n => n.text
  | str s => stringText s
  | arr items => "[" ++ commaJoin (itemTexts items) ++ "]"
  | obj members => "\x7b" ++ commaJoin (memberTexts members) ++ "\x7d"

/-- The texts of the items of a list. -/
def itemTexts : List Json → List String
  | [] => []
  | item :: items => item.text :: itemTexts items

/-- The texts of the members of an object. -/
def memberTexts : List (String × Json) → List String
  | [] => []
  | (key, value) :: members => (stringText key ++ ":" ++ value.text) :: memberTexts members

end

end EmailTemplate.Json
