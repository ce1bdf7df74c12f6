import Sensornet.CommandLine.Report

namespace Sensornet
namespace CommandLine

/-!
# Running in a directory

A directory is given by the texts of its files.  A path leads from there
through directories that hold a file; a file is stored where its directory
exists.  Names and paths have a greatest length, and no path leads out of the
directory but the one of the null device, which holds nothing and keeps
nothing.  Running a command line in a directory gives an outcome and the
directory afterwards.
-/

/-- Files with their paths, each a list of names. -/
structure Directory where
  files : List (List String × String)

namespace Directory

/-- The names of a path. -/
def names (path : String) : List String :=
  (Text.pieces '/' path.toList).map String.ofList

/-- Whether some file lies below these names. -/
def isDirectory (d : Directory) (path : List String) : Bool :=
  path.isEmpty || d.files.any fun (name, _) => path.isPrefixOf name && path.length < name.length

/-- Walk from a directory along the names of a path to its last one, which
must be the name of a file. -/
def locate? (d : Directory) (here : List String) : List String -> Option (List String)
  | [] => none
  | [name] =>
    if name = "" ∨ name = "." ∨ name = ".." then none else some (here ++ [name])
  | name :: rest =>
    if name = "" ∨ name = "." then d.locate? here rest
    else if name = ".." then
      if here.isEmpty then none else d.locate? here.dropLast rest
    else if d.isDirectory (here ++ [name]) then d.locate? (here ++ [name]) rest
    else none

/-- Whether no name of a path has more than 255 bytes, and the path no more
than 4095. -/
def isBounded (path : String) : Bool :=
  decide (path.utf8ByteSize ≤ 4095) &&
    (names path).all fun name => decide (name.utf8ByteSize ≤ 255)

/-- The place of a relative path. -/
def place? (d : Directory) (path : String) : Option (List String) :=
  match names path with
  | "" :: _ => none
  | parts => if isBounded path then d.locate? [] parts else none

/-- The path of the null device. -/
def nullDevice : String := "/dev/null"

/-- The text at a path. -/
def read (d : Directory) (path : String) : Option String :=
  if path = nullDevice then some ""
  else (d.place? path).bind fun place => Entries.get? place d.files

/-- Store a text at a path, if that is possible. -/
def store? (d : Directory) (path text : String) : Option Directory :=
  if path = nullDevice then some d
  else (d.place? path).bind fun place =>
    if d.isDirectory place then none else some ⟨Entries.insert place text d.files⟩

/-- Carry out a command line. -/
def run (d : Directory) (supply : Nat) (arguments : List String) : Outcome × Directory :=
  match Request.ofArguments 0 arguments with
  | .misused => (.misused, d)
  | .help => (.help, d)
  | .run command _ =>
    let report := (Report.of d.read supply command).1
    match report with
    | .stored path text =>
      match d.store? path text with
      | some after => (.ofReport true report, after)
      | none => (.ofReport false report, d)
    | _ => (.ofReport true report, d)

end Directory
end CommandLine
end Sensornet
