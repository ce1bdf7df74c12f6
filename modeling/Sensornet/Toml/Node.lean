import Sensornet.Entries

namespace Sensornet
namespace Toml

/-!
# Settings as a tree

A TOML document is a tree of tables.  How a table came about decides what may
still be added to it: a header may complete a table that earlier headers only
implied, a dotted key may extend a table that dotted keys made, and an inline
table is closed by its brace.
-/

/-- How a table came about. -/
inductive Origin where
  /-- by a header of its own, or as the document -/
  | header
  /-- on the way of a header to another table -/
  | implied
  /-- by a dotted key -/
  | dotted
  /-- between braces -/
  | inline
  /-- by a dotted key between braces -/
  | inlineDotted
  deriving DecidableEq, Repr

/-- A value or table.  Of values that no setting takes, only their kind is
kept. -/
inductive Node where
  | text (s : String)
  | integer (n : Int)
  | bool (flag : Bool)
  | float
  | dateTime (s : String)
  | array (items : List Node)
  | table (origin : Origin) (entries : List (String × Node))
  /-- a table per double-bracketed header -/
  | tables (items : List Node)

/-- The entries of a table under their keys. -/
abbrev Table := List (String × Node)

/-- A way of walking to a table: which tables may be passed, and what a
missing table becomes. -/
structure Walk where
  mayPass : Origin -> Bool
  makes : Origin

namespace Walk

/-- The way of a header. -/
def header : Walk where
  mayPass := fun o => o = .header ∨ o = .implied ∨ o = .dotted
  makes := .implied

/-- The way of a dotted key. -/
def dottedKey : Walk where
  mayPass := fun o => o = .implied ∨ o = .dotted
  makes := .dotted

/-- The way of a dotted key between braces. -/
def inlineKey : Walk where
  mayPass := fun o => o = .inlineDotted
  makes := .inlineDotted

end Walk

namespace Table

/-- Change the table at the end of a path.  A list of tables is passed
through its last one.  `change` is told how that table came about. -/
def changeAt (walk : Walk) (change : Origin -> Table -> Option Table) :
    List String -> Origin -> Table -> Option Table
  | [], origin, table => change origin table
  | key :: path, _, table =>
    match Entries.get? key table with
    | none =>
      (changeAt walk change path walk.makes []).map fun made =>
        Entries.insert key (.table walk.makes made) table
    | some (.table origin inner) =>
      if walk.mayPass origin then
        (changeAt walk change path origin inner).map fun changed =>
          Entries.insert key (.table origin changed) table
      else none
    | some (.tables items) =>
      match items.getLast? with
      | some (.table origin inner) =>
        (changeAt walk change path origin inner).map fun changed =>
          Entries.insert key (.tables (items.dropLast ++ [.table origin changed])) table
      | _ => none
    | some _ => none

/-- Write a value under a dotted key.  The key must be new, and the table
that holds it must be the one the key starts from or one that dotted keys
made. -/
def write (walk : Walk) (path : List String) (value : Node) (origin : Origin)
    (table : Table) : Option Table :=
  match path.getLast? with
  | none => none
  | some key =>
    let change : Origin -> Table -> Option Table := fun reached inner =>
      if path.length ≠ 1 ∧ reached ≠ walk.makes then none
      else if Entries.contains key inner then none
      else some (Entries.insert key value inner)
    changeAt walk change path.dropLast origin table

end Table

/-- A line that assigns a value to a dotted key. -/
structure Assignment where
  path : List String
  value : Node

/-- Apply assignments in order. -/
def assignAll (walk : Walk) (origin : Origin) :
    List Assignment -> Table -> Option Table
  | [], table => some table
  | a :: rest, table =>
    (Table.write walk a.path a.value origin table).bind (assignAll walk origin rest)

/-- A header and the assignments below it. -/
structure Section where
  path : List String
  /-- whether the header has double brackets -/
  repeated : Bool
  assignments : List Assignment

namespace Section

/-- The table of a section, `before` holding what headers implied of it. -/
def table? (s : Section) (before : Table) : Option Table :=
  assignAll .dottedKey .header s.assignments before

/-- Add a section to a document.  A plain header names a table that is new or
only implied, and a double-bracketed one adds to a list of tables. -/
def addTo (s : Section) (document : Table) : Option Table :=
  match s.path.getLast? with
  | none => none
  | some key =>
    let change : Origin -> Table -> Option Table := fun _ parent =>
      match s.repeated, Entries.get? key parent with
      | true, none =>
        (s.table? []).map fun made => Entries.insert key (.tables [.table .header made]) parent
      | true, some (.tables items) =>
        (s.table? []).map fun made =>
          Entries.insert key (.tables (items ++ [.table .header made])) parent
      | false, none =>
        (s.table? []).map fun made => Entries.insert key (.table .header made) parent
      | false, some (.table .implied before) =>
        (s.table? before).map fun made => Entries.insert key (.table .header made) parent
      | _, _ => none
    Table.changeAt .header change s.path.dropLast .header document

end Section

/-- The document of its leading assignments and its sections. -/
def assemble (leading : List Assignment) (sections : List Section) : Option Table :=
  (assignAll .dottedKey .header leading []).bind fun document =>
    sections.foldlM (fun table s => s.addTo table) document

end Toml
end Sensornet
