import EmailTemplate.Command.Arguments
import EmailTemplate.Command.FileTree
import EmailTemplate.Document.Load
import EmailTemplate.Json.Error
import EmailTemplate.Options.Toml
import EmailTemplate.Render.Email
import EmailTemplate.Render.PlainText

/-!
# Running the command

A job reads its configuration, then its template, and writes the one result. It is all or nothing:
nothing is written before everything has been read. `Job.result` is what a job produces from the
files that it can read, and `plan` is what a command line comes to: the one thing that is left to do
once its files have been read. `run` is what carrying out the plan does to a file tree; the program
carries out the same plan on the file system.
-/

namespace EmailTemplate

/-- Why input could not be loaded. Compiling never fails; only reading input does. -/
inductive Error where
  /-- An error known by its message alone. -/
  | message (text : String)
  /-- The document could not be read. -/
  | document (cause : Json.Error)
  /-- The options could not be read. -/
  | options (cause : OptionsError)

/-- The message of an error: what could not be loaded, and why. -/
def Error.text : Error → String
  | message text => text
  | document cause => "invalid document: " ++ cause.message
  | options .notToml => "invalid options: not a TOML document"
  | options (.misfit report) => "invalid options: " ++ report

namespace Command

/-- What a job can fail of: a file that cannot be read or written, or one that makes no sense. -/
inductive Failure where
  | configUnreadable (path : String) (cause : FileError)
  | configInvalid (path : String) (cause : Error)
  | templateUnreadable (path : String) (cause : FileError)
  | templateInvalid (path : String) (cause : Error)
  | outputUnwritable (path : String) (cause : FileError)

/-- What a job was doing when it failed. -/
def Failure.context : Failure → String
  | configUnreadable path _ => "failed to read config " ++ Text.quote path
  | configInvalid path _ => "failed to load config " ++ Text.quote path
  | templateUnreadable path _ => "failed to read template " ++ Text.quote path
  | templateInvalid path _ => "failed to parse template " ++ Text.quote path
  | outputUnwritable path cause =>
    "failed to write file " ++ Text.quote path ++ ": " ++ cause.message

/-- What made a job fail, unless the context says so. -/
def Failure.cause? : Failure → Option String
  | configUnreadable _ cause | templateUnreadable _ cause => some cause.message
  | configInvalid _ cause | templateInvalid _ cause => some cause.text
  | outputUnwritable .. => none

/-- The text with every line but the first moved to the right, by as much as the first is put. -/
def indented (text : String) : String :=
  "    " ++ String.ofList (text.toList.flatMap fun c => if c == '\n' then "\n    ".toList else [c])

/-- The report of a failure: what was being done, and below it what made it fail. -/
def Failure.report (f : Failure) : String :=
  "Error: " ++ f.context ++ "\n" ++
    match f.cause? with
    | none => ""
    | some cause => "\nCaused by:\n" ++ indented cause ++ "\n"

/-- The path with the extension of its file replaced. A name that begins with its only point has no
extension. A name such as `..json` becomes `..` when its extension goes; that names a directory, and
a directory is given no extension. -/
def withExtension (path extension : String) : String :=
  let cs := path.toList
  let name := (cs.reverse.takeWhile (· != '/')).reverse
  let folder := String.ofList (cs.take (cs.length - name.length))
  let stem := ((name.reverse.dropWhile (· != '.')).drop 1).reverse
  if stem == ['.'] then folder ++ ".."
  else folder ++ String.ofList (if stem.isEmpty then name else stem) ++ "." ++ extension

namespace Job

/-- The path that a job writes to, or nothing if it prints its result. -/
def target (job : Job) : Option String :=
  match job.output with
  | some "-" => none
  | some path => some path
  | none => some (withExtension job.input (if job.text then "txt" else "html"))

/-- The options of a job, given what can be read. -/
def options (job : Job) (read : String → Except FileError ByteArray) :
    Except Failure CompileOptions := do
  let options ←
    match job.config with
    | none => .ok .standard
    | some path =>
      let text ← (read path >>= textOf?).mapError (.configUnreadable path)
      (CompileOptions.ofToml? text).mapError fun cause => .configInvalid path (.options cause)
  let options := (job.title.map fun title => options.apply (.title title)).getD options
  return (job.preheader.map fun preheader => options.apply (.preheader preheader)).getD options

/-- The template of a job, given what can be read. -/
def document (job : Job) (read : String → Except FileError ByteArray) :
    Except Failure Document := do
  let text ← (read job.input >>= textOf?).mapError (.templateUnreadable job.input)
  (Document.ofText? text).mapError fun cause => .templateInvalid job.input (.document cause)

/-- What a job produces, given what can be read. -/
def result (job : Job) (read : String → Except FileError ByteArray) : Except Failure String := do
  let options ← job.options read
  let doc ← job.document read
  return if job.text then doc.plainText ++ "\n" else doc.compile options

/-- The files that a job reads. -/
def sources (job : Job) : List String :=
  job.config.toList ++ [job.input]

end Job

/-- What is left to do when a command line has been understood and its files have been read. -/
inductive Plan where
  /-- To say that the command line cannot be used. -/
  | reject
  | fail (failure : Failure)
  | print (text : String)
  | write (path text : String)

/-- What a run of the command leaves behind. -/
structure Outcome where
  code : Nat
  stdout : String
  /-- What is reported; nothing for a command line that cannot be used, whose report has no fixed
  wording. -/
  stderr : Option String
  files : FileTree

/-- The outcome of a failure: its report, and no change to any file. -/
def Outcome.failed (files : FileTree) (f : Failure) : Outcome :=
  ⟨1, "", some f.report, files⟩

/-- The text that tells the version of the command. -/
def versionText : String :=
  "mailsmith 0.3.0\n"

/-- The text that tells how to use the command. -/
def helpText : String :=
  "Compiles a JSON email template into HTML\n\n" ++
  "Usage: mailsmith [OPTIONS] <INPUT> [OUTPUT]\n"

/-- What a job comes to, given what can be read. -/
def Job.plan (job : Job) (read : String → Except FileError ByteArray) : Plan :=
  match job.result read with
  | .error failure => .fail failure
  | .ok text =>
    match job.target with
    | none => .print text
    | some path => .write path text

/-- What a command line comes to, given what can be read. -/
def plan (args : List String) (read : String → Except FileError ByteArray) : Plan :=
  match parse? args with
  | none => .reject
  | some .version => .print versionText
  | some .help => .print helpText
  | some (.compile job) => job.plan read

/-- The files that a command line reads. -/
def inputs (args : List String) : List String :=
  match parse? args with
  | some (.compile job) => job.sources
  | _ => []

/-- What can be read when some files have been read already; any other counts as missing. -/
def readFrom (files : List (String × Except FileError ByteArray)) (path : String) :
    Except FileError ByteArray :=
  (files.lookup path).getD (.error .notFound)

/-- What carrying out a plan does to a file tree. -/
def Plan.run (files : FileTree) : Plan → Outcome
  | reject => ⟨2, "", none, files⟩
  | fail failure => .failed files failure
  | print text => ⟨0, text, some "", files⟩
  | write path text =>
    match files.write path text.toUTF8 with
    | .error cause => .failed files (.outputUnwritable path cause)
    | .ok files => ⟨0, "", some "", files⟩

/-- What a command line does to a file tree. -/
def run (args : List String) (files : FileTree) : Outcome :=
  (plan args files.read).run files

end Command

end EmailTemplate
