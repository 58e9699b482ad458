import EmailTemplate.Document.Element

/-!
# Documents

A document holds rows of side-by-side columns, and standalone elements below them. The columns of a
row have keys of the form `col-n`. They are laid out by number, whatever order they were given in;
keys without a number come last, by name.
-/

namespace EmailTemplate

/-- The key of a column in a row. -/
structure ColumnKey where
  name : String
  deriving DecidableEq, Repr

/-- The natural number of 64 bits that a text denotes; a plus sign may precede the digits. -/
def unsigned? (cs : List Char) : Option Nat :=
  let digits := if cs.head? == some '+' then cs.drop 1 else cs
  if digits.isEmpty || !digits.all Char.isDigit then none
  else
    let n := digits.foldl (fun n c => 10 * n + (c.toNat - 48)) 0
    if n < Nat.pow 2 64 then some n else none

namespace ColumnKey

/-- The key `col-n`. -/
def ofIndex (n : Nat) : ColumnKey :=
  ⟨"col-" ++ toString n⟩

/-- The number of a key, if it has one. -/
def index (key : ColumnKey) : Option Nat :=
  match key.name.toList with
  | 'c' :: 'o' :: 'l' :: '-' :: suffix => unsigned? suffix
  | _ => none

/-- The order of keys: numbered ones first, by number and then by name; the others by name. -/
def compare (a b : ColumnKey) : Ordering :=
  match a.index, b.index with
  | some i, some j => (Ord.compare i j).then (Ord.compare a.name b.name)
  | some _, none => .lt
  | none, some _ => .gt
  | none, none => Ord.compare a.name b.name

instance : Ord ColumnKey :=
  ⟨compare⟩

end ColumnKey

/-- A column: its key and its elements from top to bottom. -/
abbrev Column := ColumnKey × List Element

section Entries
variable {β : Type}

/-- Changes the value at a key; a key that is not there is added last. -/
def alterAt (key : ColumnKey) (change : Option β → β) :
    List (ColumnKey × β) → List (ColumnKey × β)
  | [] => [(key, change none)]
  | (k, value) :: entries =>
    if k = key then (k, change (some value)) :: entries
    else (k, value) :: alterAt key change entries

/-- The entries, each key once: of two with one key the later value stays, where the earlier was. -/
def collect (entries : List (ColumnKey × β)) : List (ColumnKey × β) :=
  entries.foldl (fun collected entry => alterAt entry.1 (fun _ => entry.2) collected) []

/-- A change at a key leaves the other keys as they are. -/
theorem map_alterAt (key : ColumnKey) (change : Option β → β) (entries : List (ColumnKey × β)) :
    (alterAt key change entries).map Prod.fst =
      if key ∈ entries.map Prod.fst then entries.map Prod.fst
      else entries.map Prod.fst ++ [key] := by
  induction entries with
  | nil => rfl
  | cons entry entries ih =>
    obtain ⟨k, value⟩ := entry
    rw [alterAt]
    split
    case isTrue same =>
      subst same
      simp
    case isFalse other =>
      have apart : key ≠ k := fun same => other same.symm
      rw [List.map_cons, ih]
      simp only [List.map_cons, List.mem_cons, apart, false_or]
      split
      case isTrue => rfl
      case isFalse => rfl

/-- A change at a key leaves distinct keys distinct. -/
theorem nodup_alterAt {entries : List (ColumnKey × β)} (keyed : (entries.map Prod.fst).Nodup)
    (key : ColumnKey) (change : Option β → β) :
    ((alterAt key change entries).map Prod.fst).Nodup := by
  rw [map_alterAt]
  split
  case isTrue => exact keyed
  case isFalse new =>
    rw [List.nodup_append]
    refine ⟨keyed, List.pairwise_singleton _ key, ?_⟩
    intro k mem _ last same
    obtain rfl := List.mem_singleton.1 last
    exact new (same ▸ mem)

/-- Collected entries have distinct keys. -/
theorem nodup_collect (entries : List (ColumnKey × β)) :
    ((collect entries).map Prod.fst).Nodup :=
  List.foldlRecOn
    (motive := fun collected : List (ColumnKey × β) => (collected.map Prod.fst).Nodup) entries _
    List.nodup_nil fun _ keyed entry _ => nodup_alterAt keyed entry.1 _

end Entries

/-- A group of columns side by side, in the order in which they were given; no two have one key.
The identifier serves diagnostics only. -/
structure Row where
  id : Option String
  columns : List Column
  keyed : (columns.map Prod.fst).Nodup
  deriving DecidableEq, Repr

namespace Row

/-- The row without columns. -/
def empty : Row :=
  ⟨none, [], List.nodup_nil⟩

/-- The row of the given columns; of two with one key the later stays, where the earlier was. -/
def ofColumns (id : Option String) (columns : List Column) : Row :=
  ⟨id, collect columns, nodup_collect columns⟩

/-- The row with elements added to the column `col-n`, which is added last if it is not there. -/
def withColumn (row : Row) (n : Nat) (elements : List Element) : Row :=
  { row with
    columns := alterAt (.ofIndex n) (fun present => present.getD [] ++ elements) row.columns
    keyed := nodup_alterAt row.keyed _ _ }

/-- The columns in the order in which they are laid out. -/
def sortedColumns (row : Row) : List Column :=
  row.columns.mergeSort fun a b => (a.1.compare b.1).isLE

/-- The elements of a row in the order in which they are laid out. -/
def elements (row : Row) : List Element :=
  row.sortedColumns.flatMap (·.2)

end Row

/-- An email template: rows of columns, and the standalone elements that follow them. -/
structure Document where
  canvasItems : List Element
  layoutRows : List Row
  deriving DecidableEq, Repr

namespace Document

/-- The document that has nothing to render. -/
def empty : Document :=
  ⟨[], []⟩

/-- The document with one more standalone element, below the others. -/
def withElement (doc : Document) (element : Element) : Document :=
  { doc with canvasItems := doc.canvasItems ++ [element] }

/-- The document with one more row, below the others. -/
def withRow (doc : Document) (row : Row) : Document :=
  { doc with layoutRows := doc.layoutRows ++ [row] }

/-- Whether a document has nothing to render. -/
def isEmpty (doc : Document) : Bool :=
  doc.canvasItems.isEmpty && doc.layoutRows.isEmpty

/-- The elements of a document in the order in which they are laid out. -/
def elements (doc : Document) : List Element :=
  doc.layoutRows.flatMap Row.elements ++ doc.canvasItems

end Document

end EmailTemplate
