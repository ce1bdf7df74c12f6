import Sensornet.CommandLine.Arguments
import Sensornet.Json.Document
import Sensornet.Json.Writer
import Sensornet.Session.Compile

namespace Sensornet
namespace CommandLine

/-!
# What a command reports

A command reads the files it names, and then prints a text, stores it, or
fails with a message.  The message is the outermost cause: which file could
not be read or understood, or that the compile as a whole failed.  Which text
a file holds is given from outside, so that a report is a function of its
inputs.
-/

open Json (Value)

/-- The texts of files, by path. -/
abbrev Files := String -> Option String

/-- What came of a command. -/
inductive Report where
  | printed (text : String)
  | stored (path text : String)
  | failed (message : String)

namespace Report

/-- Print a text, or store it if there is a place for it. -/
def deliver (output : Option String) (text : String) : Report :=
  match output with
  | some path => .stored path (text ++ "\n")
  | none => .printed (text ++ "\n")

/-- The JSON value of a file; `what` says what it is for. -/
def jsonAt (files : Files) (what path : String) : Except String Value :=
  match files path with
  | none => .error ("failed to read " ++ what ++ " from " ++ path)
  | some text => (Value.ofInput what text).mapError fun _ => "in " ++ path

/-- The JSON value of a file that may not be given. -/
def jsonAtOption (files : Files) (what : String) : Option String -> Except String Value
  | none => .ok .null
  | some path => jsonAt files what path

/-- The settings of a file, or the default ones. -/
def optionsAt (files : Files) : Option String -> Except String Options
  | none => .ok Options.default
  | some path =>
    match (files path).map Options.ofText with
    | some (.ok options) => .ok options
    | _ => .error ("failed to load settings from " ++ path)

/-- The rows of an earlier run, or none. -/
def rowsAt (files : Files) : Option String -> Except String (List Fixture.Row)
  | none => .ok []
  | some path => do
    let value ← jsonAt files "existing rows" path
    (Fixture.Rows.ofJson value).mapError fun _ => "in " ++ path

/-- Compile what was read, and remember what was remarked. -/
def compiled (files : Files) (supply : Nat) (domain template : Value) (sections : List String)
    (common : Common) : Except String (Report × List Notice) := do
  let options ← optionsAt files common.config
  let options := { options with policy := common.policy.getD options.policy }
  let existing ← rowsAt files common.existing
  let input : Job := ⟨domain, template, sections, existing⟩
  let session ← (input.compile options supply).mapError fun _ => "compile failed"
  return (deliver common.output (Fixture.Rows.toJson session.rows).pretty, session.notices)

/-- The items and descriptors of a slice, a line each. -/
def sliced (files : Files) (template : String) (sections : List String)
    (config : Option String) : Except String (Report × List Notice) := do
  let options ← optionsAt files config
  let value ← jsonAt files "template" template
  let items ← (Template.ofJson value).mapError Failure.message
  let slice := Template.slice items sections options.allAliases
  let itemLines := (slice.items items).map fun item =>
    item.kind.name ++ "\t" ++ item.shownName ++ "\n"
  let descriptorLines := slice.descriptors.map fun d => d.text ++ "\n"
  return (.printed (String.join (itemLines ++ "\n" :: descriptorLines)),
    Template.sliceNotices items sections options.allAliases)

/-- Carry out a command. -/
def attempt (files : Files) (supply : Nat) : Command -> Except String (Report × List Notice)
  | .compile domain template sections common => do
    let domain ← jsonAtOption files "domain" domain
    let template ← jsonAtOption files "template" template
    compiled files supply domain template sections common
  | .lowLevel domain common => do
    let domain ← jsonAt files "domain" domain
    compiled files supply domain .null [] common
  | .slice template sections config => sliced files template sections config
  | .format input output => do
    let value ← jsonAt files "input" input
    return (deliver output value.pretty, [])

/-- The report of a command, and what was remarked on the way. -/
def of (files : Files) (supply : Nat) (command : Command) : Report × List Notice :=
  match attempt files supply command with
  | .ok result => result
  | .error message => (.failed message, [])

end Report

/-- The files that a command may read. -/
def Command.inputs : Command -> List String
  | .compile domain template _ common =>
    [domain, template, common.config, common.existing].filterMap id
  | .lowLevel domain common => domain :: [common.config, common.existing].filterMap id
  | .slice template _ config => template :: config.toList
  | .format input _ => [input]

/-- What a finished run leaves behind: its exit code and the two streams. -/
structure Outcome where
  code : UInt8
  stdout : String
  stderr : String

namespace Outcome

def failed (message : String) : Outcome :=
  ⟨1, "", "Error: " ++ message ++ "\n"⟩

/-- The outcome of a report; `stored` says whether its text could be
stored. -/
def ofReport (stored : Bool) : Report -> Outcome
  | .printed text => ⟨0, text, ""⟩
  | .stored path _ =>
    if stored then ⟨0, "", "Wrote " ++ path ++ "\n"⟩ else failed ("failed to write " ++ path)
  | .failed message => failed message

def usage : String :=
  "Usage: sensornet [-v]... <compile|low-level|slice|format> [OPTIONS]\n"

/-- The outcome of a command line that cannot be understood. -/
def misused : Outcome :=
  ⟨2, "", usage⟩

def help : Outcome :=
  ⟨0, usage, ""⟩

end Outcome
end CommandLine
end Sensornet
