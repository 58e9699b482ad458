import EmailTemplate.Command.Run

/-!
# The command

Carries out the plan of a command line on the file system: the files that it names are read first,
then its result is printed or written. What it comes to is decided by `plan` alone.
-/

namespace EmailTemplate.Command

/-- The reason that a failed file operation gives. -/
def FileError.ofSystem : IO.Error → FileError
  | .noFileOrDirectory .. => .notFound
  | e => .other (toString e)

/-- The bytes of a file, or why they cannot be read. -/
def readFile (path : String) : IO (Except FileError ByteArray) := do
  try return .ok (← IO.FS.readBinFile path)
  catch e => return .error (.ofSystem e)

/-- Writes a file, or gives the reason why it cannot be written. -/
def writeFile (path text : String) : IO (Except FileError Unit) := do
  try return .ok (← IO.FS.writeFile path text)
  catch e => return .error (.ofSystem e)

/-- Reports a failure. -/
def Failure.print (failure : Failure) : IO UInt32 := do
  IO.eprint failure.report
  return 1

/-- Carries out a plan, and gives the exit code. -/
def Plan.perform : Plan → IO UInt32
  | reject => do
    IO.eprint helpText
    return 2
  | fail failure => failure.print
  | print text => do
    IO.print text
    return 0
  | write path text => do
    match ← writeFile path text with
    | .error cause => (Failure.outputUnwritable path cause).print
    | .ok () => return 0

end EmailTemplate.Command

open EmailTemplate.Command in
/-- Reads the files that a command line names, and then carries out what it comes to. -/
def main (args : List String) : IO UInt32 := do
  let files ← (inputs args).mapM fun path => return (path, ← readFile path)
  (plan args (readFrom files)).perform
