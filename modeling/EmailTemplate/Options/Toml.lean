import EmailTemplate.Options.Setting
import EmailTemplate.Toml.Error
import EmailTemplate.Toml.Reader

/-!
# Options from TOML

Options as the tables of a TOML document. Tables may also be given as arrays in the order of
declaration, where further items are ignored.
-/

namespace EmailTemplate

namespace Toml

/-- A value in the place of an option, and where to point to if it has no place of its own. -/
structure Slot where
  value : Value
  place : Option Span

/-- Where a slot's value stands, or else its key. -/
def Slot.span? (s : Slot) : Option Span :=
  s.value.span?.or s.place

/-- A misfit of a slot's value. -/
def Slot.misfit (s : Slot) (cause : Cause) : Misfit :=
  ⟨cause, s.span?⟩

/-- The members of a table, each with the place of its key. -/
def slots (entries : List (Key × Value)) : List (String × Slot) :=
  entries.map fun (key, value) => (key.name, ⟨value, some key.span⟩)

/-- The shape of a value; a date counts as a map. -/
def Value.shape : Value → Shape
  | .text _ s => .string s
  | .integer _ n => .integer n
  | .float _ x => .floating x
  | .boolean _ b => .boolean b
  | .datetime _ | .table .. => .map
  | .array .. | .tables .. => .sequence

/-- The misfit of a slot's value that should be of another shape. -/
def Slot.wrongType (s : Slot) (expected : String) : Misfit :=
  s.misfit (.mismatch (.wrongType s.value.shape expected))

/-- The integer in a slot. -/
def Slot.integer? (s : Slot) : Except Misfit Int :=
  match s.value with
  | .integer _ n => .ok n
  | _ => .error (s.wrongType "i64")

/-- The text in a slot. -/
def Slot.text? (s : Slot) : Except Misfit String :=
  match s.value with
  | .text _ text => .ok text
  | _ => .error (s.wrongType "a string")

/-- What is wrong with a value under a keyword, which should be empty. -/
def Value.emptyCause? : Value → Option Cause
  | .array _ items => if items.isEmpty then none else some .tableNotEmpty
  | .table _ entries => if entries.isEmpty then none else some .tableNotEmpty
  | .tables _ items => if items.isEmpty then none else some .arrayNotEmpty
  | value => some (.notTable value.typeName)

/-- The fit with exactly the given keyword, which stands at a place. -/
def fitOfKeyword? (keyword : String) (place : Option Span) : Except Misfit ObjectFit :=
  match ObjectFit.ofKeyword? keyword with
  | some fit => .ok fit
  | none =>
    .error ⟨.mismatch (.unknownVariant keyword (ObjectFit.all.map ObjectFit.name)), place⟩

/-- The fit in a slot: a keyword, or a table with the keyword as its only key and nothing under
it. -/
def Slot.fit? (s : Slot) : Except Misfit ObjectFit :=
  match s.value with
  | .text _ keyword => fitOfKeyword? keyword s.span?
  | .table _ [] => .error (s.misfit .noKeyword)
  | .table _ [(key, value)] => do
    let fit ← fitOfKeyword? key.name (some key.span)
    match value.emptyCause? with
    | none => .ok fit
    | some cause => .error ⟨cause, value.span?.or s.span?⟩
  | .table .. => .error (s.misfit .manyKeywords)
  | _ => .error (s.misfit .notKeyword)

/-- How settings are taken from TOML values. -/
def settingReader : SettingReader Slot Misfit :=
  ⟨Slot.integer?, Slot.text?, Slot.fit?⟩

/-- A table of options in a slot; a date sets nothing. -/
def Slot.table? {α : Type} (s : Slot) (t : SettingTable α) : Except Misfit α :=
  match s.value with
  | .table _ entries => t.ofMembers settingReader (slots entries)
  | .array _ items | .tables _ items =>
    t.ofItems settingReader (items.map fun item => ⟨item, s.span?⟩)
  | .datetime _ => .ok t.standard
  | _ => .error (s.wrongType t.title)

end Toml

/-- The options that the root table of a TOML document gives. -/
def CompileOptions.ofTable? (root : Toml.Table) : Except Toml.Misfit CompileOptions :=
  (Toml.slots root.entries).foldlM
    (fun options (name, slot) =>
      match name with
      | "defaults" =>
        (slot.table? RenderDefaults.table).map fun d => { options with defaults := d }
      | "shell" => (slot.table? ShellOptions.table).map fun s => { options with shell := s }
      | _ => .ok options)
    standard

/-- Why a text gives no options. -/
inductive OptionsError where
  /-- The text is not a TOML document. -/
  | notToml
  /-- A value does not fit; the report tells where and why. -/
  | misfit (report : String)

/-- The options that a TOML text gives. Settings that are not there keep their standard values. -/
def CompileOptions.ofToml? (text : String) : Except OptionsError CompileOptions :=
  match Toml.ofText? text with
  | none => .error .notToml
  | some root => (ofTable? root).mapError fun m => .misfit (m.report text.toList)

end EmailTemplate
