import Sensornet.Failure
import Sensornet.Fixture.Registry
import Sensornet.Metric.Alias
import Sensornet.Toml.Document

namespace Sensornet

/-!
# Settings of a compile

Every setting has a default, and settings that are not known are ignored.  A
known setting of a wrong type is a failure, as is a text that is no TOML.
-/

/-- The settings of a compile. -/
structure Options where
  policy : Fixture.Policy
  /-- storage table of metrics -/
  storageTable : Int
  /-- storage table of the raw readings of sensors -/
  rawStorageTable : Int
  /-- whether zones and sensors get metrics and triggers to start with -/
  starterMetrics : Bool
  /-- synonyms layered over the built-in ones -/
  aliases : Metric.Aliases
  deriving DecidableEq, Repr

namespace Options

def default : Options where
  policy := .deterministic
  storageTable := 68
  rawStorageTable := 68
  starterMetrics := true
  aliases := .none

/-- The complete synonym tables. -/
def allAliases (options : Options) : Metric.Aliases :=
  Metric.Aliases.extended options.aliases

open Toml (Node Table)

/-- The key under which a date stands when it is read as a table. -/
def dateKey : String := "$__toml_private_datetime"

/-- A setting that may be missing. -/
def setting {A : Type} (read : Node -> Option A) (fallback : A) (table : Table) (key : String) :
    Option A :=
  match Entries.get? key table with
  | none => some fallback
  | some node => read node

/-- Whether a node is an empty table or list. -/
def isEmptyNode : Node -> Bool
  | .table _ [] | .array [] | .tables [] => true
  | _ => false

/-- A policy is named by a text, or by the only key of a table that has
nothing under it. -/
def policy? : Node -> Option Fixture.Policy
  | .text s => Fixture.Policy.ofName? s
  | .table _ [(name, node)] => if isEmptyNode node then Fixture.Policy.ofName? name else none
  | _ => none

def integer? : Node -> Option Int
  | .integer n => some n
  | _ => none

def bool? : Node -> Option Bool
  | .bool flag => some flag
  | _ => none

/-- A table of synonyms: texts under words. -/
def synonyms? : Node -> Option (List (String × String))
  | .table _ entries => entries.mapM fun
    | (word, .text s) => some (word, s)
    | _ => none
  | .dateTime s => some [(dateKey, s)]
  | _ => none

/-- Both synonym tables, under their names or in their order. -/
def aliases? : Node -> Option Metric.Aliases
  | .table _ entries => do
    let categories ← setting synonyms? [] entries "category"
    let intervals ← setting synonyms? [] entries "interval"
    return ⟨categories, intervals⟩
  | .array items | .tables items => do
    let categories ← (items[0]?.map synonyms?).getD (some [])
    let intervals ← (items[1]?.map synonyms?).getD (some [])
    return ⟨categories, intervals⟩
  | .dateTime _ => some .none
  | _ => none

/-- Read the settings off a table. -/
def ofTable? (table : Table) : Option Options := do
  let policy ← setting policy? default.policy table "id_policy"
  let storageTable ← setting integer? default.storageTable table "storage_table"
  let rawStorageTable ← setting integer? default.rawStorageTable table "raw_storage_table"
  let starterMetrics ← setting bool? default.starterMetrics table "starter_metrics"
  let aliases ← setting aliases? default.aliases table "aliases"
  return { policy, storageTable, rawStorageTable, starterMetrics, aliases }

/-- Read the settings off a TOML document. -/
def ofText (text : String) : Except Failure Options :=
  match (Table.ofText? text).bind ofTable? with
  | some options => .ok options
  | none => .error .config

end Options
end Sensornet
