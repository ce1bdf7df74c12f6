import Sensornet.Proofs.Resolution.Members

namespace Sensornet

/-!
# The shape of a resolved value

A part of a value is reached by a path of keys and positions.  How it is
resolved depends on the nearest key above it, through lists only.  Two sorts of
lists do not keep their items: a list of metrics is flattened, and in the
network as a whole a list of references to widgets becomes a list of keys.

A path that goes into none of these leads to a part of the resolved value as
well.  That part was made from the part of the written value under the rule of
the nearest key, except where a centre was filled in afterwards.  So everything
but texts keeps its shape: objects their keys, other lists their lengths, and
plain values themselves.
-/

namespace Json

/-! ## Parts of a value -/

/-- A step from a value to one of its parts. -/
inductive Turn where
  | member (key : String)
  | item (position : Nat)
  deriving DecidableEq, Repr

/-- The way from a value to a part of it. -/
abbrev Path := List Turn

/-- The nearest key above the end of a path, which starts below another key or
below none. -/
def Path.keyBelow (above : Option String) : Path -> Option String
  | [] => above
  | .member key :: rest => Path.keyBelow (some key) rest
  | .item _ :: rest => Path.keyBelow above rest

/-- The nearest key above the end of a path. -/
def Path.key? (path : Path) : Option String :=
  path.keyBelow none

/-- The part of a value at the end of a path. -/
def Value.at? : Path -> Value -> Option Value
  | [], value => some value
  | .member key :: rest, value => (value.get? key).bind (Value.at? rest)
  | .item position :: rest, value =>
    (value.array?.bind fun items => items[position]?).bind (Value.at? rest)

end Json

open Json (Value Fields Turn Path)

namespace Resolution

/-! ## Lists that do not keep their items -/

/-- The keys of lists of metrics. -/
def metricKeys : List String :=
  ["metrics", "metric_ids"]

/-- The keys under which the network as a whole refers to widgets. -/
def widgetKeys : List String :=
  ["charts", "cards", "maps", "cards_ids"]

/-- Lists of metrics stand under this key. -/
def ListsMetrics (key : Option String) : Prop :=
  ∃ name ∈ metricKeys, key = some name

/-- Widgets are referred to under this key. -/
def RefersToWidgets (context : Context) (key : Option String) : Prop :=
  context.name = .global ∧ ∃ name ∈ widgetKeys, key = some name

/-- Lists under this key do not keep their items. -/
def Gathers (context : Context) (key : Option String) : Prop :=
  ListsMetrics key ∨ RefersToWidgets context key

instance : DecidablePred ListsMetrics :=
  fun key => inferInstanceAs (Decidable (∃ name ∈ metricKeys, key = some name))

instance (context : Context) : DecidablePred (RefersToWidgets context) :=
  fun key => inferInstanceAs
    (Decidable (context.name = .global ∧ ∃ name ∈ widgetKeys, key = some name))

instance (context : Context) : DecidablePred (Gathers context) :=
  fun key => inferInstanceAs (Decidable (ListsMetrics key ∨ RefersToWidgets context key))

/-- A path below a key goes into no list that does not keep its items. -/
def Outside (context : Context) : Option String -> Path -> Prop
  | _, [] => True
  | _, .member key :: rest => Outside context (some key) rest
  | above, .item _ :: rest => ¬ Gathers context above ∧ Outside context above rest

/-- The rule below a key. -/
def Rule.below (context : Context) (key : Option String) : Rule :=
  (key.map fun name => Rule.ofKey name context).getD .plain

theorem Rule.below_eq_metricList_iff {context : Context} {key : Option String} :
    below context key = .metricList ↔ ListsMetrics key := by
  unfold below ListsMetrics metricKeys
  cases key with
  | none => simp
  | some name =>
    unfold ofKey
    cases context <;> simp <;> split <;> simp_all

theorem Rule.below_eq_widgets_iff {context : Context} {key : Option String} :
    below context key = .widgets ↔ RefersToWidgets context key := by
  unfold below RefersToWidgets widgetKeys
  cases key with
  | none => simp
  | some name =>
    unfold ofKey
    cases context <;> simp [Context.name] <;> split <;> simp_all

namespace Scene

variable {s : Scene} {rule : Rule} {value result : Value}

/-! ## One step down -/

/-- What a centre may be filled in for: nothing, or a text. -/
def mayBeFilled : Value -> Bool
  | .null | .text _ => true
  | _ => false

theorem Gives.mayBeFilled (gives : s.Gives rule value result)
    (filled : Scene.mayBeFilled result = true) : Scene.mayBeFilled value = true := by
  rcases gives with ⟨p, rfl⟩
  cases value with
  | null | text => rfl
  | bool | object => cases filled
  | number n => cases rule <;> cases filled
  | array items => cases rule <;> cases filled

/-- What stands under a key of an object comes from what stood there, unless it is
a centre that was filled in. -/
theorem Gives.member_of_get? (gives : s.Gives rule value result) {key : String} {child : Value}
    (found : value.get? key = some child) :
    ∃ part, result.get? key = some part ∧ (s.Gives (Rule.ofKey key s.context) child part ∨
      key = "center" ∧ Scene.mayBeFilled child = true) := by
  cases value with
  | object fields =>
    rcases gives.members with ⟨members, rfl, each⟩
    have own := get?_of_forall₂ each key
    have written : Entries.get? key fields = some child := found
    rw [written] at own
    generalize made : Entries.get? key members = member at own
    cases own with
    | some gives =>
      rcases s.withNetworkCenter_cases members with same | ⟨old, held, open', position, filled⟩
      · exact ⟨_, (congrArg (Entries.get? key) same).trans made, Or.inl gives⟩
      · by_cases center : key = "center"
        · subst center
          cases Option.some.inj (made.symm.trans held)
          refine ⟨position.toJson, ?_, Or.inr ⟨rfl, gives.mayBeFilled ?_⟩⟩
          · exact (congrArg _ filled).trans (Entries.get?_insert_self ..)
          · rcases open' with rfl | rfl <;> rfl
        · exact ⟨_, (s.get?_withNetworkCenter center members).trans made, Or.inl gives⟩
  | null | bool | number | text | array => cases found

/-- A list that keeps its items has each of them in its place. -/
theorem Gives.item_of_getElem? {items : List Value} (gives : s.Gives rule (.array items) result)
    (listed : rule ≠ .metricList) (referred : rule ≠ .widgets) {position : Nat} {child : Value}
    (found : items[position]? = some child) :
    ∃ results part, result = .array results ∧ results[position]? = some part ∧
      s.Gives rule child part := by
  rcases gives.array listed referred with ⟨results, rfl, each⟩
  rcases getElem?_of_forall₂ each found with ⟨part, stands, own⟩
  exact ⟨results, part, rfl, stands, own⟩

/-! ## Whole paths -/

/-- Nothing lies below what a centre may be filled in for. -/
theorem eq_nil_of_at? {path : Path} {child node : Value} (filled : mayBeFilled child = true)
    (found : child.at? path = some node) : path = [] ∧ node = child := by
  cases path with
  | nil => exact ⟨rfl, (Option.some.inj found).symm⟩
  | cons turn rest => cases child <;> cases filled <;> cases turn <;> cases found

/-- What may stand at the end of a path below a key, where a part was written: what is made
of this part, or a centre that was filled in. -/
def GivesAt (s : Scene) (above : Option String) (path : Path) (node part : Value) : Prop :=
  s.Gives (Rule.below s.context (path.keyBelow above)) node part ∨
    path.getLast? = some (.member "center") ∧ Scene.mayBeFilled node = true

section

variable {above : Option String} {path : Path} {node part : Value}

theorem getLast?_cons_of_some {turn last : Turn} (ends : path.getLast? = some last) :
    (turn :: path).getLast? = some last := by
  rw [List.getLast?_cons, ends]
  rfl

theorem GivesAt.member {key : String} (made : s.GivesAt (some key) path node part) :
    s.GivesAt above (.member key :: path) node part :=
  made.imp_right (And.imp_left getLast?_cons_of_some)

theorem GivesAt.item {position : Nat} (made : s.GivesAt above path node part) :
    s.GivesAt above (.item position :: path) node part :=
  made.imp_right (And.imp_left getLast?_cons_of_some)

/-- A path that leads to a part of a value leads to a part of what the value becomes. -/
theorem Gives.at? (gives : s.Gives (Rule.below s.context above) value result)
    (outside : Outside s.context above path) (found : value.at? path = some node) :
    ∃ part, result.at? path = some part ∧ s.GivesAt above path node part := by
  induction path generalizing above value result with
  | nil =>
    cases found
    exact ⟨result, rfl, Or.inl gives⟩
  | cons turn rest ih =>
    cases turn with
    | member key =>
      rcases Option.bind_eq_some_iff.mp found with ⟨child, first, later⟩
      rcases gives.member_of_get? first with ⟨part, stands, own | ⟨rfl, filled⟩⟩
      · have below : s.Gives (Rule.below s.context (some key)) child part := own
        rcases ih below outside later with ⟨last, there, made⟩
        exact ⟨last, Option.bind_eq_some_iff.mpr ⟨part, stands, there⟩, made.member⟩
      · rcases eq_nil_of_at? filled later with ⟨rfl, rfl⟩
        exact ⟨part, Option.bind_eq_some_iff.mpr ⟨part, stands, rfl⟩, Or.inr ⟨rfl, filled⟩⟩
    | item position =>
      rcases Option.bind_eq_some_iff.mp found with ⟨child, first, later⟩
      cases value with
      | array items =>
        rcases not_or.mp outside.1 with ⟨listed, referred⟩
        rcases gives.item_of_getElem? (mt Rule.below_eq_metricList_iff.mp listed)
          (mt Rule.below_eq_widgets_iff.mp referred) first with ⟨results, part, rfl, stands, own⟩
        rcases ih own outside.2 later with ⟨last, there, made⟩
        exact ⟨last, Option.bind_eq_some_iff.mpr ⟨part, stands, there⟩, made.item⟩
      | null | bool | number | text | object => cases first

end

/-! ## What keeps its shape -/

theorem keys_of_forall₂ {fields members : Fields} (each : List.Forall₂ s.GivesMember fields members) :
    Entries.keys members = Entries.keys fields := by
  induction each with
  | nil => rfl
  | cons first _ ih => exact congrArg₂ List.cons first.1 ih

theorem keys_withNetworkCenter (s : Scene) (fields : Fields) :
    Entries.keys (s.withNetworkCenter fields) = Entries.keys fields := by
  rcases s.withNetworkCenter_cases fields with same | ⟨old, held, _, position, filled⟩
  · rw [same]
  · rw [filled]
    exact Entries.keys_insert_of_mem (Entries.contains_iff_mem_keys.mp (by
      rw [Entries.contains, held]
      rfl)) _

/-- What a part of a value at the end of a path may become if it keeps its shape. -/
def KeepsShape (context : Context) (path : Path) : Value -> Value -> Prop
  | .object fields, part =>
    ∃ members, part = .object members ∧ Entries.keys members = Entries.keys fields
  | .array items, part =>
    ¬ Gathers context path.key? -> ∃ results, part = .array results ∧
      results.length = items.length
  | .number n, part => ¬ RefersToWidgets context path.key? -> part = .number n
  | .bool flag, part => part = .bool flag
  | .null, part => path.getLast? ≠ some (.member "center") -> part = .null
  | .text _, _ => True

theorem Gives.keepsShape {path : Path} {node part : Value}
    (gives : s.Gives (Rule.below s.context path.key?) node part) :
    KeepsShape s.context path node part := by
  cases node with
  | object fields =>
    rcases gives.members with ⟨members, rfl, each⟩
    exact ⟨_, rfl, (s.keys_withNetworkCenter members).trans (keys_of_forall₂ each)⟩
  | array items =>
    intro apart
    rcases not_or.mp apart with ⟨listed, referred⟩
    rcases gives.array (mt Rule.below_eq_metricList_iff.mp listed)
      (mt Rule.below_eq_widgets_iff.mp referred) with ⟨results, rfl, each⟩
    exact ⟨results, rfl, each.length_eq.symm⟩
  | number n =>
    intro referred
    rcases gives with ⟨p, rfl⟩
    have kept : s.resolveUnder (Rule.below s.context path.key?) (.number n) = pure (.number n) :=
      if_neg (mt Rule.below_eq_widgets_iff.mp referred)
    rw [kept]
    rfl
  | bool flag =>
    rcases gives with ⟨p, rfl⟩
    rfl
  | null =>
    rcases gives with ⟨p, rfl⟩
    exact fun _ => rfl
  | text raw => trivial

/-- Let a path lead to a part of a value, and go into no list of metrics and, in the
network as a whole, into no list of references to widgets.  Then it leads to a
part of the resolved value.  An object has the same keys there, in the same order;
a list has the same length, unless it is such a list itself; and what is no text
is what it was, except for a number that refers to a widget and for a centre that
was left open. -/
theorem shape_resolve (s : Scene) {value node : Value} {path : Path}
    (found : value.at? path = some node) (outside : Outside s.context none path) (p : Progress) :
    ∃ part, ((s.resolve value).run p).1.at? path = some part ∧
      KeepsShape s.context path node part := by
  have gives : s.Gives (Rule.below s.context none) value ((s.resolve value).run p).1 := ⟨p, rfl⟩
  rcases gives.at? outside found with ⟨part, there, made | ⟨last, filled⟩⟩
  · exact ⟨part, there, made.keepsShape⟩
  · refine ⟨part, there, ?_⟩
    cases node with
    | null => exact fun other => absurd last other
    | text raw => trivial
    | bool | number | array | object => cases filled

/-- A table of one row, which lists a metric and leaves its centre open. -/
def oneRow : Value :=
  .object [("rows", .array [.object
    [("metrics", .array [.array [.text "m-1"]]), ("center", .null), ("rank", .bool true)]])]

/-- The row keeps its keys, and its last member, in the network as a whole. -/
theorem shape_resolve_oneRow :
    let s : Scene := ⟨.empty, .empty, .builtin, .global⟩
    let resolved := ((s.resolve oneRow).run ⟨.start .deterministic 0, []⟩).1
    Outside s.context none [.member "rows", .item 0] ∧
      Outside s.context none [.member "rows", .item 0, .member "rank"] ∧
      (∃ members, resolved.at? [.member "rows", .item 0] = some (.object members) ∧
        Entries.keys members = ["metrics", "center", "rank"]) ∧
      resolved.at? [.member "rows", .item 0, .member "rank"] = some (.bool true) := by
  intro s resolved
  have toRow : Outside s.context none [.member "rows", .item 0] := ⟨by decide, trivial⟩
  have toRank : Outside s.context none [.member "rows", .item 0, .member "rank"] :=
    ⟨by decide, trivial⟩
  have row : oneRow.at? [.member "rows", .item 0] = some _ := rfl
  have rank : oneRow.at? [.member "rows", .item 0, .member "rank"] = some _ := rfl
  rcases s.shape_resolve row toRow ⟨.start .deterministic 0, []⟩ with ⟨_, there, members, rfl, keys⟩
  rcases s.shape_resolve rank toRank ⟨.start .deterministic 0, []⟩ with ⟨_, last, rfl⟩
  exact ⟨toRow, toRank, ⟨members, there, keys⟩, last⟩

end Scene
end Resolution
end Sensornet
