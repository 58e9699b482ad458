import EmailTemplate.Options.Setting
import EmailTemplate.Json.Error

/-!
# Options from JSON

Options as a JSON object of tables, each an object of settings. A table, and the options as a
whole, may also be given as a list in the order of declaration. Unlike a document, options are read
strictly: the first value that does not fit is an error.
-/

namespace EmailTemplate

namespace Json

/-- The integer of 64 bits that a value is. -/
def asInteger? : Json → Except Mismatch Int
  | num (.int n) =>
    if n < Int.pow 2 63 then .ok n else .error (.wrongValue (.integer n) "i64")
  | value => .error (.wrongType value.shape "i64")

/-- The text that a value is. -/
def asText? : Json → Except Mismatch String
  | str s => .ok s
  | value => .error (.wrongType value.shape "a string")

/-- The fit with exactly the given keyword. -/
def fitOfKeyword? (keyword : String) : Except Mismatch ObjectFit :=
  match ObjectFit.ofKeyword? keyword with
  | some fit => .ok fit
  | none => .error (.unknownVariant keyword (ObjectFit.all.map ObjectFit.name))

/-- The fit that a value is: a keyword, or an object with the keyword as its only key and nothing
as its value. -/
def asFit? : Json → Except Mismatch ObjectFit
  | str keyword => fitOfKeyword? keyword
  | obj [(keyword, value)] => do
    let fit ← fitOfKeyword? keyword
    match value with
    | null => .ok fit
    | value => .error (.wrongType value.shape "unit")
  | obj _ => .error (.wrongValue .map "map with a single key")
  | value => .error (.wrongType value.shape "string or map")

/-- How settings are taken from JSON values. -/
def settingReader : SettingReader Json Mismatch :=
  ⟨asInteger?, asText?, asFit?⟩

/-- The options of a table, given as an object of settings or as a list of their values. -/
def table? {α : Type} (t : SettingTable α) : Json → Except Mismatch α
  | arr items => do
    let options ← t.ofItems settingReader items
    if t.settings.length < items.length then .error (.tooManyItems items.length) else .ok options
  | obj members => t.ofMembers settingReader members
  | value => .error (.wrongType value.shape t.title)

end Json

/-- The values for missing properties that a value gives. -/
def RenderDefaults.ofJson? : Json → Except Mismatch RenderDefaults :=
  Json.table? table

/-- The settings of the page that a value gives. -/
def ShellOptions.ofJson? : Json → Except Mismatch ShellOptions :=
  Json.table? table

/-- The options that a value gives, both tables of them. -/
def CompileOptions.ofJson? : Json → Except Mismatch CompileOptions
  | .arr items => do
    let defaults ← (items[0]?.map RenderDefaults.ofJson?).getD (.ok .standard)
    let shell ← (items[1]?.map ShellOptions.ofJson?).getD (.ok .standard)
    if 2 < items.length then .error (.tooManyItems items.length) else .ok ⟨defaults, shell⟩
  | .obj members =>
    members.foldlM
      (fun options (name, value) =>
        match name with
        | "defaults" => (RenderDefaults.ofJson? value).map fun d => { options with defaults := d }
        | "shell" => (ShellOptions.ofJson? value).map fun s => { options with shell := s }
        | _ => .ok options)
      standard
  | value => .error (.wrongType value.shape title)

end EmailTemplate
