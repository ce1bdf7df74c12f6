import Sensornet.Fixture.Registry
import Sensornet.Text.Blank

namespace Sensornet
namespace CommandLine

/-!
# Arguments

A command line is a command, its options and, for one command, a file.  A
long option takes its value behind an equals sign or as the next argument,
which must not look like an option.  Short options may be joined.  An option
is given at most once, apart from the sections, which add up, and the
verbosity, which is counted anywhere.  Arguments are judged from the left:
a wrong one is misuse even if help is asked for behind it.
-/

/-- The options that compiling commands share. -/
structure Common where
  existing : Option String
  config : Option String
  policy : Option Fixture.Policy
  output : Option String
  deriving DecidableEq, Repr

/-- What is to be done. -/
inductive Command where
  | compile (domain template : Option String) (sections : List String) (common : Common)
  | lowLevel (domain : String) (common : Common)
  | slice (template : String) (sections : List String) (config : Option String)
  | format (input : String) (output : Option String)
  deriving DecidableEq, Repr

/-- What a command line asks for. -/
inductive Request where
  | run (command : Command) (verbosity : Nat)
  | help
  | misused
  deriving DecidableEq, Repr

/-- The options of a command: the long names of those with a value, whether
`-o` is short for the output, and how many files it takes. -/
structure Shape where
  valued : List String
  shortOutput : Bool
  files : Nat

/-- The options and files read so far, in order. -/
structure Parsed where
  options : List (String × String)
  files : List String
  verbosity : Nat

namespace Parsed

def empty (verbosity : Nat) : Parsed := ⟨[], [], verbosity⟩

/-- The value of an option. -/
def value? (p : Parsed) (name : String) : Option String :=
  Entries.get? name p.options

/-- Every value of an option, in order. -/
def all (p : Parsed) (name : String) : List String :=
  p.options.filterMap fun (other, value) => if other = name then some value else none

/-- Whether an option may have a value: a policy is one of those with a name,
and a file must have a name. -/
def admits (name value : String) : Bool :=
  if name = "sections" then true
  else if name = "id-policy" then (Fixture.Policy.ofName? value).isSome
  else !value.isEmpty

/-- Add an option, unless its value is wrong or it was given before. -/
def add? (p : Parsed) (name value : String) : Option Parsed :=
  if admits name value && (name == "sections" || (p.value? name).isNone) then
    some { p with options := p.options ++ [(name, value)] }
  else none

/-- Add files, as far as a command takes them. -/
def addFiles? (p : Parsed) (most : Nat) (names : List String) : Option Parsed :=
  if decide (p.files.length + names.length ≤ most) && names.all fun name => !name.isEmpty then
    some { p with files := p.files ++ names }
  else none

/-- The sections of all occurrences, each of which may hold several with
commas between them. -/
def sections (p : Parsed) : List String :=
  (p.all "sections").flatMap fun value =>
    (Text.pieces ',' value.toList).map String.ofList

def common (p : Parsed) : Common where
  existing := p.value? "existing"
  config := p.value? "config"
  policy := (p.value? "id-policy").bind Fixture.Policy.ofName?
  output := p.value? "output"

end Parsed

/-- Whether an argument looks like an option. -/
def isOption (argument : String) : Bool :=
  match argument.toList with
  | '-' :: _ :: _ => true
  | _ => false

/-- How one argument is read. -/
inductive Piece where
  | done (p : Parsed)
  /-- an option whose value is the next argument -/
  | pending (name : String) (p : Parsed)
  | help
  | wrong

/-- What is read so far, if it is right. -/
def Piece.ofParsed? : Option Parsed -> Piece
  | some p => .done p
  | none => .wrong

/-- The letters of joined short options. -/
def shortOptions (shape : Shape) (p : Parsed) : List Char -> Piece
  | [] => .done p
  | 'v' :: rest => shortOptions shape { p with verbosity := p.verbosity + 1 } rest
  | 'h' :: _ => .help
  | 'o' :: rest =>
    if shape.shortOutput then
      match rest with
      | [] => .pending "output" p
      | '=' :: value => .ofParsed? (p.add? "output" (String.ofList value))
      | value => .ofParsed? (p.add? "output" (String.ofList value))
    else .wrong
  | _ :: _ => .wrong

/-- A long option, without its two hyphens. -/
def longOption (shape : Shape) (p : Parsed) (body : List Char) : Piece :=
  let name := String.ofList (body.takeWhile (· != '='))
  match body.dropWhile (· != '=') with
  | [] =>
    if name = "verbose" then .done { p with verbosity := p.verbosity + 1 }
    else if name = "help" then .help
    else if shape.valued.contains name then .pending name p
    else .wrong
  | _ :: value =>
    if shape.valued.contains name then .ofParsed? (p.add? name (String.ofList value)) else .wrong

/-- One argument that is no value. -/
def piece (shape : Shape) (p : Parsed) (argument : String) : Piece :=
  match argument.toList with
  | '-' :: '-' :: body => longOption shape p body
  | '-' :: c :: rest => shortOptions shape p (c :: rest)
  | _ => .ofParsed? (p.addFiles? shape.files [argument])

/-- All arguments of a command; `pending` names an option that waits for its
value.  Behind two hyphens alone stand files, whatever they look like. -/
def parse (shape : Shape) (pending : Option String) (p : Parsed) : List String -> Piece
  | [] => if pending.isNone then .done p else .wrong
  | argument :: rest =>
    match pending with
    | some name =>
      if isOption argument then .wrong
      else
        match p.add? name argument with
        | some p => parse shape none p rest
        | none => .wrong
    | none =>
      if argument = "--" then .ofParsed? (p.addFiles? shape.files rest)
      else
        match piece shape p argument with
        | .done p => parse shape none p rest
        | .pending name p => parse shape (some name) p rest
        | other => other

/-- The options of a command, by its name. -/
def shape? (name : String) : Option Shape :=
  let common := ["existing", "config", "id-policy", "output"]
  if name = "compile" then some ⟨["domain", "template", "sections"] ++ common, true, 0⟩
  else if name = "low-level" then some ⟨"domain" :: common, true, 0⟩
  else if name = "slice" then some ⟨["template", "sections", "config"], false, 0⟩
  else if name = "format" then some ⟨["output"], true, 1⟩
  else none

/-- The command that some options ask for, if none is missing. -/
def command? (name : String) (p : Parsed) : Option Command :=
  if name = "compile" then
    some (.compile (p.value? "domain") (p.value? "template") p.sections p.common)
  else if name = "low-level" then
    (p.value? "domain").map fun domain => .lowLevel domain p.common
  else if name = "slice" then
    (p.value? "template").map fun template => .slice template p.sections (p.value? "config")
  else p.files.head?.map fun input => .format input (p.value? "output")

/-- Whether help can be asked for with these arguments: on the whole, or on
one command. -/
def isTopic : List String -> Bool
  | [] => true
  | [name] => name == "help" || (shape? name).isSome
  | _ => false

/-- Read a command and its arguments. -/
def requestOf (name : String) (verbosity : Nat) (arguments : List String) : Request :=
  match shape? name with
  | none => if name == "help" && isTopic arguments then .help else .misused
  | some shape =>
    match parse shape none (.empty verbosity) arguments with
    | .done p =>
      match command? name p with
      | some command => .run command p.verbosity
      | none => .misused
    | .help => .help
    | _ => .misused

/-- Read a command line: options that hold for every command, then the
command. -/
def Request.ofArguments (verbosity : Nat) : List String -> Request
  | [] => .misused
  | argument :: rest =>
    if argument = "--" then .misused
    else if isOption argument then
      match piece ⟨[], false, 0⟩ (.empty verbosity) argument with
      | .done p => ofArguments p.verbosity rest
      | .help => .help
      | _ => .misused
    else requestOf argument verbosity rest

end CommandLine
end Sensornet
