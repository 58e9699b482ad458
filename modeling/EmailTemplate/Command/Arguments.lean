/-!
# Command-line arguments

What the command line asks for. Arguments are taken one by one from the left, and the first one
that cannot be taken makes the whole line unusable; a request for the version or for help is
granted as soon as it is reached.
-/

namespace EmailTemplate.Command

/-- The options of the command line that take a value. -/
inductive ValueOption where
  | config
  | title
  | preheader
  deriving DecidableEq, Repr

/-- The name of an option, without its hyphens. -/
def ValueOption.name : ValueOption → String
  | config => "config"
  | title => "title"
  | preheader => "preheader"

/-- The option of a name; every option goes by its own name alone. -/
def ValueOption.ofName? (name : String) : Option ValueOption :=
  [config, title, preheader].find? (·.name == name)

/-- What may be said about a compilation besides its input. -/
structure Wishes where
  output : Option String
  config : Option String
  title : Option String
  preheader : Option String
  /-- Whether the plain text is asked for instead of the email. -/
  text : Bool
  deriving DecidableEq, Repr

/-- The arguments of a compilation, as far as they have been taken. -/
structure Arguments extends Wishes where
  input : Option String
  deriving DecidableEq, Repr

/-- The arguments before any has been taken. -/
def Arguments.empty : Arguments where
  input := none
  output := none
  config := none
  title := none
  preheader := none
  text := false

/-- A compilation that is asked for. -/
structure Job extends Wishes where
  input : String
  deriving DecidableEq, Repr

/-- What a command line asks for. -/
inductive Request where
  | version
  | help
  | compile (job : Job)
  deriving DecidableEq, Repr

namespace Arguments

/-- The arguments with a value for an option; each option is given at most once, and the path of
the configuration is not empty. -/
def setOption (a : Arguments) (option : ValueOption) (value : String) : Option Arguments :=
  match option with
  | .config =>
    if a.config.isSome || value.isEmpty then none else some { a with config := some value }
  | .title => if a.title.isSome then none else some { a with title := some value }
  | .preheader => if a.preheader.isSome then none else some { a with preheader := some value }

/-- The arguments with one more that belongs to no option: the input, then the output. The path of
the input is not empty. -/
def addPlain (a : Arguments) (value : String) : Option Arguments :=
  if a.input.isNone then if value.isEmpty then none else some { a with input := some value }
  else if a.output.isNone then some { a with output := some value }
  else none

/-- The job that the arguments describe; it needs an input. -/
def job? (a : Arguments) : Option Job :=
  a.input.map fun input => { a with input }

end Arguments

/-- Whether an argument can stand for the value of an option: it does not start with a hyphen, or
is nothing else. -/
def isValue (arg : String) : Bool :=
  arg == "-" || arg.toList.head? != some '-'

/-- Takes the arguments that are left, from the left, until one settles what is asked for or none is
left. -/
def takeArguments (a : Arguments) : List String → Option Request
  | [] => a.job?.map .compile
  | arg :: args =>
    if isValue arg then (a.addPlain arg).bind (takeArguments · args)
    else if arg == "--" then (args.foldlM Arguments.addPlain a).bind fun a => a.job?.map .compile
    else if arg == "--version" then some .version
    else if arg == "--help" then some .help
    else if arg == "--text" then
      if a.text then none else takeArguments { a with text := true } args
    else
      match arg.toList with
      | '-' :: '-' :: long =>
        let name := String.ofList (long.takeWhile (· != '='))
        match ValueOption.ofName? name, long.dropWhile (· != '='), args with
        | none, _, _ => none
        | some option, _ :: value, args =>
          (a.setOption option (String.ofList value)).bind (takeArguments · args)
        | some option, [], value :: args =>
          if isValue value then (a.setOption option value).bind (takeArguments · args) else none
        | some _, [], [] => none
      | '-' :: 'V' :: _ => some .version
      | '-' :: 'h' :: _ => some .help
      | _ => none

/-- What the command line asks for; nothing if it cannot be used. -/
def parse? (args : List String) : Option Request :=
  takeArguments .empty args

end EmailTemplate.Command
