import EmailTemplate.Toml.Text

/-!
# Reading TOML documents

A document is read line by line into its root table. A header closes the table before it and names
the table that the lines after it fill; that table is hung into the root when the next header comes
or the document ends. `Toml.ofText?` gives the root table, or nothing if the text is not a TOML
document.
-/

namespace EmailTemplate.Toml

/-- A reader: what is read at the start of a text and what follows it. -/
abbrev Reader := StateT (List Char) Option

/-- What is left to be read. -/
def here : Reader Place :=
  get

/-- Skips the blanks within a line. -/
def skipSpace : Reader Unit :=
  modify (·.dropWhile isSpace)

/-- Reads one given character. -/
def expect (c : Char) : Reader Unit := fun
  | [] => none
  | d :: rest => if c == d then some ((), rest) else none

/-- The next character, which is not read yet. -/
def next? : Reader (Option Char) := do
  return (← here).head?

/-- Skips a comment, up to the end of its line, if there is one. -/
def skipComment : Reader Unit := do
  if (← next?) == some '#' then modify (·.dropWhile isPlain)

/-- Reads the end of a line: blanks, a comment, and a line break or the end of the text. -/
def endLine : Reader Unit := do
  skipSpace
  skipComment
  let rest ← here
  if !rest.isEmpty then set (← (afterNewline? rest : Option (List Char)))

/-- Skips blanks, comments and line breaks. A comment must be followed by a line break. Every line
takes at least one character, so `fuel` is the length of the text. -/
def skipLinesAndComments : Nat → Reader Unit
  | 0 => failure
  | fuel + 1 => do
    modify skipLines
    if (← next?) == some '#' then
      skipComment
      set (← (afterNewline? (← here) : Option (List Char)))
      skipLinesAndComments fuel

/-- Skips blanks, comments and line breaks between the items of an array. -/
def skipFill : Reader Unit := do
  skipLinesAndComments ((← here).length + 1)

/-- Whether a character may stand in a name without quotes. -/
def isBareChar (c : Char) : Bool :=
  c.isAlphanum || c == '-' || c == '_'

/-- Reads one name of a key, with or without quotes. -/
def readName : Reader Key := do
  let start ← here
  let text ←
    match start.head? with
    | some '"' | some '\'' => readText false
    | _ =>
      let name := start.takeWhile isBareChar
      if name.isEmpty then failure
      else
        set (start.dropWhile isBareChar)
        pure name
  return ⟨String.ofList text, ⟨start, ← here⟩⟩

/-- The bound on how deep arrays and inline tables nest, and on the number of names in a key. -/
def maxDepth : Nat :=
  80

/-- Reads a key: names with points between them. Every name takes at least one character, so `fuel`
is the length of the text. -/
def readNames : Nat → Reader (List Key)
  | 0 => failure
  | fuel + 1 => do
    skipSpace
    let name ← readName
    skipSpace
    if (← next?) == some '.' then
      expect '.'
      return name :: (← readNames fuel)
    else return [name]

/-- Reads a key, and gives the names before the last and the last. -/
def readKey : Reader (List Key × Key) := do
  let names ← readNames ((← here).length + 1)
  if maxDepth ≤ names.length then failure
  match names.getLast? with
  | some key => return (names.dropLast, key)
  | none => failure

/-- Reads the items of an array, after its opening bracket or a comma, up to and with its closing
bracket. Every item takes at least one character, so `fuel` is the length of the text. -/
def readItems (readItem : Reader Value) : Nat → Reader (List Value)
  | 0 => failure
  | fuel + 1 => do
    skipFill
    if (← next?) == some ']' then
      expect ']'
      return []
    else
      let item ← readItem
      skipFill
      if (← next?) == some ',' then
        expect ','
        return item :: (← readItems readItem fuel)
      else
        expect ']'
        return [item]

/-- Reads the entries of an inline table, after its opening brace or a comma, up to and with its
closing brace, into a table. Every entry takes at least one character, so `fuel` is the length of
the text. -/
def readEntries (readItem : Reader Value) : Nat → Table → Reader Table
  | 0, _ => failure
  | fuel + 1, t => do
    let (path, key) ← readKey
    expect '='
    skipSpace
    let value ← readItem
    skipSpace
    let t ← (t.insert? path key value : Option Table)
    if (← next?) == some ',' then
      expect ','
      readEntries readItem fuel t
    else
      expect '\x7d'
      return t

/-- Reads a value; `depth` bounds how deep arrays and inline tables nest in it. -/
def readValue : (depth : Nat) → Reader Value
  | 0 => failure
  | depth + 1 => do
    let start ← here
    match start.head? with
    | some '"' | some '\'' =>
      let text ← readText true
      return .text ⟨start, ← here⟩ (String.ofList text)
    | some '[' =>
      if depth == 0 then failure
      expect '['
      let items ← readItems (readValue depth) start.length
      return .array ⟨start, ← here⟩ items
    | some '\x7b' =>
      if depth == 0 then failure
      expect '\x7b'
      skipSpace
      let empty : Table := ⟨⟨none, true, false, false⟩, []⟩
      let t ←
        if (← next?) == some '\x7d' then
          expect '\x7d'
          pure empty
        else readEntries (readValue depth) start.length empty
      return .table { t.head with span := some ⟨start, ← here⟩ } t.entries
    | _ => readScalar

/-- A document that is being read: the root as far as it is complete, and the table that is being
filled, with its path from the root. -/
structure Draft where
  root : Table
  path : Option (List Key × Key)
  /-- Whether the table is one of several under its name. -/
  isItem : Bool
  current : Table

/-- A table that a header defines and that has no entries yet. -/
def newTable (span : Option Span) : Table :=
  ⟨⟨span, false, false, false⟩, []⟩

/-- The document before its first line. -/
def Draft.empty : Draft :=
  ⟨newTable none, none, false, newTable none⟩

/-- The stretch from the first of some tables to the last. -/
def spanOf (items : List Value) : Option Span := do
  let first ← (← items.head?).span?
  let last ← (← items.getLast?).span?
  return ⟨first.start, last.stop⟩

/-- The root with the table that was being filled hung into it. -/
def Draft.close (d : Draft) : Option Table :=
  match d.path with
  | none => some d.current
  | some (path, key) =>
    d.root.within false path fun parent =>
      if d.isItem then
        (alter key (.tables none [])
          (fun
            | .tables _ items =>
              let items := items ++ [d.current.toValue]
              some (.tables (spanOf items) items)
            | _ => none)
          parent.entries).map fun entries => { parent with entries }
      else parent.add? key d.current.toValue

/-- The value under a key in the table at the end of a path of standard tables; nothing where the
path enters what is no such table. -/
def Table.find? (key : Key) : List Key → Table → Option (Option Value)
  | [], t => some (t.get? key)
  | step :: path, t =>
    match t.get? step with
    | none => some none
    | some (.table head entries) => if head.inline then none else find? key path ⟨head, entries⟩
    | some (.tables _ items) =>
      match items.getLast? with
      | some (.table head entries) => find? key path ⟨head, entries⟩
      | _ => none
    | some _ => none

/-- The entries with which a table begins that is defined where a value may stand already: a table
that came about through the headers of tables within it keeps its entries, and nothing else may be
there. -/
def reopened? : Option Value → Option (List (Key × Value))
  | none => some []
  | some (.table head entries) =>
    if head.implicit && !head.dotted && !head.inline then some entries else none
  | some _ => none

/-- The document after the header of a table. -/
def Draft.openTable (d : Draft) (path : List Key) (key : Key) (span : Span) : Option Draft := do
  let root ← d.close
  let entries ← reopened? (← root.find? key path)
  let root ← root.within false path fun parent =>
    some { parent with entries := parent.entries.filter fun (k, _) => k.name != key.name }
  return ⟨root, some (path, key), false, ⟨(newTable (some span)).head, entries⟩⟩

/-- The document after the header of one of several tables under a name. -/
def Draft.openItem (d : Draft) (path : List Key) (key : Key) (span : Span) : Option Draft := do
  let root ← d.close
  let root ← root.within false path fun parent =>
    (alter key (.tables none [])
      (fun
        | .tables span items => some (.tables span items)
        | _ => none)
      parent.entries).map fun entries => { parent with entries }
  return ⟨root, some (path, key), true, newTable (some span)⟩

/-- The document after a key and its value. The table being filled then reaches to the end of the
value. -/
def Draft.put (d : Draft) (path : List Key) (key : Key) (value : Value) : Option Draft := do
  let span :=
    match d.current.head.span, value.span? with
    | some own, some last => some ⟨own.start, last.stop⟩
    | own, _ => own
  let current : Table := { d.current with head := { d.current.head with span } }
  return { d with current := ← current.insert? path key value }

/-- Reads a header, at its opening bracket. -/
def readHeader (d : Draft) : Reader Draft := do
  let start ← here
  expect '['
  let isItem := (← next?) == some '['
  if isItem then expect '['
  let (path, key) ← readKey
  expect ']'
  if isItem then expect ']'
  let span : Span := ⟨start, ← here⟩
  endLine
  (if isItem then d.openItem path key span else d.openTable path key span : Option Draft)

/-- Reads an entry: a key, its value and the end of the line. -/
def readEntry (d : Draft) : Reader Draft := do
  let (path, key) ← readKey
  expect '='
  skipSpace
  let value ← readValue maxDepth
  endLine
  (d.put path key value : Option Draft)

/-- Reads the lines of a document. Every line takes at least one character, so `fuel` is the length
of the text. -/
def readLinesOf : Nat → Draft → Reader Draft
  | 0, _ => failure
  | fuel + 1, d => do
    skipSpace
    match ← next? with
    | none => return d
    | some '[' => readLinesOf fuel (← readHeader d)
    | some '#' | some '\n' | some '\r' =>
      endLine
      readLinesOf fuel d
    | some _ => readLinesOf fuel (← readEntry d)

/-- The root table of the document that a text is; a byte order mark may come first. -/
def ofText? (text : String) : Option Table := do
  let cs := text.toList
  let cs := if cs.head? == some '\ufeff' then cs.drop 1 else cs
  let (draft, _) ← (readLinesOf (cs.length + 1) .empty).run cs
  draft.close

end EmailTemplate.Toml
