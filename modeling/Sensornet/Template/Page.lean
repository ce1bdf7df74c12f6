import Sensornet.Distinct
import Sensornet.Template.Item

namespace Sensornet
namespace Template

/-!
# What a page names

A page belongs to a section by its code, and it mentions widgets in three
places: its own lists, the blocks of its side pane, and the cards among its
dependencies.
-/

namespace Item

open Json (Value)

/-- A code is a non-empty text or the text of a number. -/
def codeOf? : Value -> Option String
  | .text s => if s.isEmpty then none else some s
  | .number n => some n.text
  | _ => none

/-- The objects of a page that may say where it belongs. -/
def codeHolders (item : Item) : List Value :=
  let fields := item.get? "fields"
  [fields, fields.bind (Value.get? "args"), item.get? "args"].filterMap id

/-- The first of these objects' members of a name that is not null. -/
def firstHeld? (item : Item) (key : String) : Option Value :=
  item.codeHolders.findSome? fun holder =>
    (holder.get? key).filter fun value => !value.isNull

/-- The code of a page: that of its section, else its page code, which may be
written out or be the `code` of an object. -/
def sectionCode? (item : Item) : Option String :=
  match ((item.firstHeld? "section").bind (Value.get? "code")).bind codeOf? with
  | some code => some code
  | none =>
    match item.firstHeld? "page" with
    | some (.object fields) => (Entries.get? "code" fields).bind codeOf?
    | some other => codeOf? other
    | none => none

/-- The codes in a list, where one value may stand for a list of one. -/
def codesOf (value : Option Value) : List String :=
  (Value.itemsOf value).filterMap codeOf?

/-- The blocks of a side pane: a list of blocks or a single one, each of them
followed by the blocks it holds under keys of its own. -/
def paneBlocks (value : Option Value) : List Value :=
  (Value.itemsOf value).flatMap fun block =>
    block :: (block.fields.map Prod.snd).filter Value.isObject

/-- The ids of the widgets that a page mentions, in order of first mention. -/
def mentionedWidgets (item : Item) : List String :=
  let fields := item.get? "fields"
  let own := ["charts", "cards", "maps"].flatMap fun key =>
    codesOf (fields.bind (Value.get? key))
  let pane := ((fields.bind (Value.get? "args")).bind (Value.get? "sidepane")).bind
    (Value.get? "by_target_category")
  let shown := (paneBlocks pane).flatMap fun block =>
    codesOf (block.get? "charts") ++ codesOf (block.get? "cards")
  let needed := codesOf ((item.get? "dependencies").bind (Value.get? "cards_ids"))
  distinct (own ++ shown ++ needed)

end Item
end Template
end Sensornet
