import EmailTemplate.Options.Basic

/-!
# Named settings

Options are read from more than one data format. What the formats share is here: which names there
are, in which order, what each one takes, and what it sets. A format adds how it takes an integer,
a text or a keyword from one of its values.
-/

namespace EmailTemplate

/-- What a setting takes, and how it changes the options. -/
inductive Setting (α : Type) where
  | integer (set : Int → α → α)
  | text (set : String → α → α)
  | fit (set : ObjectFit → α → α)

/-- A table of options: its name in messages, its values where nothing is set, and its settings in
the order of declaration. -/
structure SettingTable (α : Type) where
  title : String
  standard : α
  settings : List (String × Setting α)

/-- The settings for the values of missing properties. -/
def RenderDefaults.table : SettingTable RenderDefaults where
  title := "struct RenderDefaults"
  standard := .standard
  settings :=
    [("padding", .integer fun n d => { d with padding := n }),
     ("backgroundColor", .text fun s d => { d with backgroundColor := s }),
     ("fontSize", .text fun s d => { d with fontSize := s }),
     ("textColor", .text fun s d => { d with textColor := s }),
     ("fontFamily", .text fun s d => { d with fontFamily := s }),
     ("lineHeight", .text fun s d => { d with lineHeight := s }),
     ("buttonColor", .text fun s d => { d with buttonColor := s }),
     ("buttonTextColor", .text fun s d => { d with buttonTextColor := s }),
     ("buttonPadding", .text fun s d => { d with buttonPadding := s }),
     ("buttonRadius", .integer fun n d => { d with buttonRadius := n }),
     ("imageWidth", .integer fun n d => { d with imageWidth := n }),
     ("imageHeight", .integer fun n d => { d with imageHeight := n }),
     ("objectFit", .fit fun f d => { d with objectFit := f }),
     ("imageBorderRadius", .integer fun n d => { d with imageBorderRadius := n }),
     ("socialSize", .integer fun n d => { d with socialSize := n }),
     ("socialColor", .text fun s d => { d with socialColor := s }),
     ("dividerColor", .text fun s d => { d with dividerColor := s })]

/-- The settings of the page. -/
def ShellOptions.table : SettingTable ShellOptions where
  title := "struct ShellOptions"
  standard := .standard
  settings :=
    [("title", .text fun s o => { o with title := s }),
     ("preheader", .text fun s o => { o with preheader := s }),
     ("lang", .text fun s o => { o with lang := s }),
     ("maxWidth", .integer fun n o => { o with maxWidth := n }),
     ("pageBackground", .text fun s o => { o with pageBackground := s }),
     ("containerBackground", .text fun s o => { o with containerBackground := s }),
     ("mobileBreakpoint", .integer fun n o => { o with mobileBreakpoint := n }),
     ("standalonePadding", .text fun s o => { o with standalonePadding := s })]

/-- What messages call the options as a whole. -/
def CompileOptions.title : String :=
  "struct CompileOptions"

/-- How a data format takes what a setting needs from one of its values. -/
structure SettingReader (ν ε : Type) where
  integer : ν → Except ε Int
  text : ν → Except ε String
  fit : ν → Except ε ObjectFit

/-- The options changed by a setting with a value. -/
def Setting.apply {α ν ε : Type} (r : SettingReader ν ε) (value : ν) (a : α) :
    Setting α → Except ε α
  | .integer set => (r.integer value).map (set · a)
  | .text set => (r.text value).map (set · a)
  | .fit set => (r.fit value).map (set · a)

namespace SettingTable

variable {α ν ε : Type}

/-- The options with the named settings applied in turn; unknown names are skipped, and the first
value that does not fit is the error. -/
def ofMembers (t : SettingTable α) (r : SettingReader ν ε) (members : List (String × ν)) :
    Except ε α :=
  members.foldlM
    (fun a (name, value) =>
      match t.settings.lookup name with
      | none => .ok a
      | some setting => setting.apply r value a)
    t.standard

/-- The options with values for the first settings in the order of declaration. -/
def ofItems (t : SettingTable α) (r : SettingReader ν ε) (items : List ν) : Except ε α :=
  (t.settings.zip items).foldlM (fun a ((_, setting), value) => setting.apply r value a) t.standard

end SettingTable

end EmailTemplate
