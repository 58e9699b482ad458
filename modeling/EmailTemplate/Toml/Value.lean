/-!
# TOML values

The values of a TOML document and the table that it builds up, with the places where they stand in
the text. A table may be defined by its header, or come about as part of a longer name; which of
the two decides whether it may be defined or extended later, so a table remembers it.
-/

namespace EmailTemplate.Toml

/-- A place in a text, given by what follows it. -/
abbrev Place := List Char

/-- A stretch of a text. -/
structure Span where
  start : Place
  stop : Place

/-- One name of a possibly longer key. -/
structure Key where
  name : String
  span : Span

/-- How a table came about. -/
structure TableHead where
  /-- Where the table stands, if it has a place of its own. -/
  span : Option Span
  /-- Whether it is written between braces. -/
  inline : Bool
  /-- Whether it came about only as part of a longer name. -/
  implicit : Bool
  /-- Whether that name was the key of a value, and not that of a table. -/
  dotted : Bool

/-- A TOML value, with the place where it stands. -/
inductive Value where
  | text (span : Span) (s : String)
  | integer (span : Span) (n : Int)
  | float (span : Span) (x : Float)
  | boolean (span : Span) (b : Bool)
  | datetime (span : Span)
  | array (span : Span) (items : List Value)
  | table (head : TableHead) (entries : List (Key × Value))
  /-- The tables that were given one after another under one name. -/
  | tables (span : Option Span) (items : List Value)

/-- A table: how it came about, and its entries in the order in which they were given. -/
structure Table where
  head : TableHead
  entries : List (Key × Value)

/-- A table as a value. -/
def Table.toValue (t : Table) : Value :=
  .table t.head t.entries

/-- Where a value stands, if it has a place of its own. -/
def Value.span? : Value → Option Span
  | .text span _ | .integer span _ | .float span _ | .boolean span _ | .datetime span
  | .array span _ => some span
  | .table head _ => head.span
  | .tables span _ => span

/-- The name of a kind of value in messages. -/
def Value.typeName : Value → String
  | .text .. => "string"
  | .integer .. => "integer"
  | .float .. => "float"
  | .boolean .. => "boolean"
  | .datetime .. => "datetime"
  | .array .. => "array"
  | .table head _ => if head.inline then "inline table" else "table"
  | .tables .. => "array of tables"

/-- The value under a key of one name. -/
def Table.get? (t : Table) (key : Key) : Option Value :=
  (t.entries.find? fun (k, _) => k.name == key.name).map fun (_, value) => value

/-- The table with a value added under a key that is not there yet. -/
def Table.add? (t : Table) (key : Key) (value : Value) : Option Table :=
  if (t.get? key).isSome then none
  else some { t with entries := t.entries ++ [(key, value)] }

/-- Changes the value under a key, which is added first if it is not there. -/
def alter (key : Key) (new : Value) (change : Value → Option Value) :
    List (Key × Value) → Option (List (Key × Value))
  | [] => (change new).map fun value => [(key, value)]
  | (k, value) :: entries =>
    if k.name == key.name then (change value).map fun value => (k, value) :: entries
    else (alter key new change entries).map ((k, value) :: ·)

/-- Changes the last of some values. -/
def changeLast (change : Value → Option Value) : List Value → Option (List Value)
  | [] => none
  | [value] => (change value).map ([·])
  | value :: values => (changeLast change values).map (value :: ·)

/-- Changes the table at the end of a path from a table. Tables that are not there come about on
the way. A path that is part of the key of a value, as `dotted` tells, enters no table that was
defined by itself; a path from an inline table enters inline tables only, and one from another
table no inline table. -/
def Table.within (dotted : Bool) :
    (path : List Key) → (change : Table → Option Table) → Table → Option Table
  | [], change, t => change t
  | key :: path, change, t =>
    let enter (head : TableHead) (entries : List (Key × Value)) : Option Value :=
      if head.inline != t.head.inline || (dotted && !head.implicit) then none
      else (within dotted path change ⟨head, entries⟩).map Table.toValue
    let step : Value → Option Value
      | .table head entries => enter head entries
      | .tables span items =>
        (changeLast
          (fun
            | .table head entries => (within dotted path change ⟨head, entries⟩).map Table.toValue
            | _ => none)
          items).map (.tables span ·)
      | _ => none
    (alter key (.table ⟨none, t.head.inline, true, dotted⟩ []) step t.entries).map
      fun entries => { t with entries }

/-- The table with a value under a key of one or more names. The names before the last lead to a
table that came about through such keys alone. -/
def Table.insert? (t : Table) (path : List Key) (key : Key) (value : Value) : Option Table :=
  t.within true path fun t =>
    if t.head.dotted == path.isEmpty then none else t.add? key value

end EmailTemplate.Toml
