import EmailTemplate.Text.Blank

/-!
# File trees

The files that a run of the command can see, each at its place. A path is followed name by name: a
point stays, two points go up, any other name goes down, and every step needs a directory to start
from. A directory exists as long as a file lies in it; the working directory, those above it and
the root always exist.

A tree holds files with their bytes, and nothing else of a file system. There are no links and no
permissions, and devices do not fail: a file that can be opened is read or written as a whole. The
working directory has no name, so a path that leads out of it and back in, as `/home/me/a.json` or
`../me/a.json` may, is taken for a place of its own and not for that of `a.json`.
-/

namespace EmailTemplate.Command
open Text

/-- Why a file could not be read or written. -/
inductive FileError where
  | notFound
  | notDirectory
  | isDirectory
  | nameTooLong
  | notUtf8
  /-- Any other reason, in the words of the system. -/
  | other (reason : String)
  deriving DecidableEq, Repr

/-- The reason as the system words it. -/
def FileError.message : FileError → String
  | notFound => "No such file or directory (os error 2)"
  | notDirectory => "Not a directory (os error 20)"
  | isDirectory => "Is a directory (os error 21)"
  | nameTooLong => "File name too long (os error 36)"
  | notUtf8 => "stream did not contain valid UTF-8"
  | other reason => reason

/-- The text that the bytes of a file hold. -/
def textOf? (bytes : ByteArray) : Except FileError String :=
  match String.fromUTF8? bytes with
  | some text => .ok text
  | none => .error .notUtf8

/-- Where the names of a place are followed from. -/
inductive Base where
  /-- The root of the file system. -/
  | root
  /-- The directory that is so many levels above the working directory. -/
  | above (levels : Nat)
  deriving DecidableEq, Repr

/-- A place in the file system: the names that lead down to it from a base. -/
structure Place where
  base : Base
  names : List String
  deriving DecidableEq, Repr

namespace Place

/-- The place in the working directory that names lead down to. -/
def within (names : List String) : Place :=
  ⟨.above 0, names⟩

/-- The directory that a place lies in; above the root there is nothing but the root. -/
def parent (p : Place) : Place :=
  match p.base, p.names with
  | .root, [] => p
  | .above levels, [] => ⟨.above (levels + 1), []⟩
  | base, names => ⟨base, names.dropLast⟩

/-- The place of a name in a directory. -/
def child (p : Place) (name : String) : Place :=
  { p with names := p.names ++ [name] }

end Place

/-- The names of a path, points among them. -/
def names (path : String) : List String :=
  (cutNonEmpty (· == '/') path.toList).map String.ofList

/-- Where the names of a path are followed from. -/
def start (path : String) : Place :=
  if path.toList.head? == some '/' then ⟨.root, []⟩ else .within []

/-- Whether a path asks for a directory by its form. -/
def asksForDirectory (path : String) : Bool :=
  path.toList.getLast? == some '/'

/-- The greatest number of bytes in a name. -/
def maxName : Nat :=
  255

/-- The greatest number of bytes in a path. -/
def maxPath : Nat :=
  4095

/-- The files that a run can see, each place once. -/
abbrev FileTree := List (Place × ByteArray)

namespace FileTree

/-- Whether a place is a directory: one that always exists, or one that a file lies in. -/
def isDirectory (t : FileTree) (p : Place) : Bool :=
  p.names.isEmpty ||
    t.any fun (file, _) =>
      p.base == file.base && p.names.isPrefixOf file.names && p.names != file.names

/-- The place that names lead to from another, name by name. -/
def follow (t : FileTree) : Place → List String → Except FileError Place
  | p, [] => .ok p
  | p, name :: rest =>
    if !t.isDirectory p then
      .error (if (t.lookup p).isSome then .notDirectory else .notFound)
    else if name == "." then t.follow p rest
    else if name == ".." then t.follow p.parent rest
    else if maxName < name.utf8ByteSize then .error .nameTooLong
    else t.follow (p.child name) rest

/-- The place that a path leads to, whether or not a file is there. Two paths have one place exactly
if they come to the same names from the same base; an absolute path has none in the working
directory. -/
def locate (t : FileTree) (path : String) : Except FileError Place :=
  if path.isEmpty then .error .notFound
  else if maxPath < path.utf8ByteSize then .error .nameTooLong
  else t.follow (start path) (names path)

/-- The bytes of the file that a path leads to. A file that is there can be read. -/
def read (t : FileTree) (path : String) : Except FileError ByteArray := do
  let found ← t.locate path
  match t.lookup found with
  | some bytes => if asksForDirectory path then .error .notDirectory else .ok bytes
  | none => .error (if t.isDirectory found then .isDirectory else .notFound)

/-- The tree with other bytes at the place of a file, which is added last if it is not there. -/
def put (p : Place) (bytes : ByteArray) : FileTree → FileTree
  | [] => [(p, bytes)]
  | (q, old) :: files => if q == p then (q, bytes) :: files else (q, old) :: put p bytes files

/-- The tree after writing a file. One that can be opened for writing, because a path leads to a
place that is no directory, is written as a whole. -/
def write (t : FileTree) (path : String) (bytes : ByteArray) : Except FileError FileTree := do
  let found ← t.locate path
  if t.isDirectory found || asksForDirectory path then .error .isDirectory
  else .ok (t.put found bytes)

end FileTree

end EmailTemplate.Command
