import Sensornet.CommandLine.Report

namespace Sensornet
namespace CommandLine

/-!
# The program

The outermost layer: it reads the files that a command names, asks for the
report, stores or prints its text, and shows notices as far as they are
wanted.
-/

/-- Whether a notice is shown at a verbosity. -/
def isShown (verbosity : Nat) (notice : Notice) : Bool :=
  match notice.level with
  | .warn => true
  | .info => decide (1 ≤ verbosity)
  | .debug => decide (2 ≤ verbosity)

/-- The text of a file, if it can be read. -/
def readFile? (path : String) : IO (Option String) := do
  try
    let text ← IO.FS.readFile path
    return some text
  catch _ => return none

/-- Store a text; false if that fails. -/
def writeFile? (path text : String) : IO Bool := do
  try
    IO.FS.writeFile path text
    return true
  catch _ => return false

/-- Carry out a command with the files as they are. -/
def perform (command : Command) (verbosity : Nat) : IO Outcome := do
  let mut texts : List (String × String) := []
  for path in command.inputs do
    if let some text ← readFile? path then
      texts := Entries.insert path text texts
  let now ← IO.monoNanosNow
  let noise ← IO.rand 0 Word.signedEnd
  let (report, notices) := Report.of (Entries.get? · texts) (now * Word.signedEnd + noise) command
  for notice in notices do
    if isShown verbosity notice then
      IO.eprintln ("[" ++ notice.level.name ++ "] " ++ notice.message)
  match report with
  | .stored path text => return .ofReport (← writeFile? path text) report
  | _ => return .ofReport true report

end CommandLine
end Sensornet

open Sensornet.CommandLine in
/-- Run the program and give its exit code. -/
def main (arguments : List String) : IO UInt32 := do
  let outcome ←
    match Request.ofArguments 0 arguments with
    | .run command verbosity => perform command verbosity
    | .help => pure .help
    | .misused => pure .misused
  (← IO.getStdout).putStr outcome.stdout
  (← IO.getStderr).putStr outcome.stderr
  return outcome.code.toUInt32
