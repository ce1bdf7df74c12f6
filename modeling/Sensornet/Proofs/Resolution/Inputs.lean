import Sensornet.Proofs.Resolution.Members
import Sensornet.Session.Blueprints

namespace Sensornet

/-!
# What a trigger blueprint asks for in a context

The inputs of a trigger are collected from its resolved calculators, and its
output is read off the resolved blueprint.  Both can be read off the blueprint
as it was written: `Scene.inputsOf` and `Scene.outputOf` do this without
resolving anything, and agree with the compile whenever it resolves.

An entry of a list of metrics is one of three: `[FILL]` for the target of the
context, a descriptor for the metrics it stands for, or anything else for what
is bound under it, else for itself.  Alone, without a list around it, an entry
counts only when it becomes a list.
-/

open Json (Value Fields)

namespace Calculator

/-- The texts that are not empty, out of a list. -/
def filledTexts (items : List Value) : List String :=
  items.filterMap fun item => item.text?.filter fun s => !s.isEmpty

/-- What a calculator has under its metrics. -/
def metrics? (calculator : Value) : Option Value :=
  ((calculator.get? "calc_args").bind (Value.get? "inputs")).bind (Value.get? "metrics")

/-- The texts in a list of metrics, if it is a list. -/
def listedTexts : Option Value -> List String
  | some (.array items) => filledTexts items
  | _ => []

theorem get?_fields (key : String) (value : Value) :
    Entries.get? key value.fields = value.get? key := by
  cases value <;> rfl

theorem get?_membersOf (key other : String) (fields : Fields) :
    Entries.get? other (membersOf key fields) =
      (Entries.get? key fields).bind (Value.get? other) := by
  unfold membersOf
  cases Entries.get? key fields with
  | none => rfl
  | some member => exact get?_fields other member

theorem metrics_completeInputs (inputs : Fields) :
    filledTexts (Value.itemsOf (Entries.get? "metrics" (completeInputs inputs))) =
      listedTexts (Entries.get? "metrics" inputs) := by
  unfold completeInputs
  split
  · next items listed =>
    rw [listed]
    rfl
  · next unlisted =>
    rw [Entries.get?_insert_self]
    unfold listedTexts
    split
    · next items listed => exact absurd listed (unlisted items)
    · rfl

/-- Completing a calculator writes its inputs, and afterwards only members that
are none of them. -/
theorem get?_inputs_complete (calculator : Value) (token : String) :
    ((complete calculator token).get? "calc_args").bind (Value.get? "inputs") =
      some (.object (completeInputs (membersOf "inputs" (membersOf "calc_args"
        calculator.fields)))) := by
  have kept : ∀ (needed : Bool) (key : String) (value : Value) (args : Fields), "inputs" ≠ key ->
      Entries.get? "inputs" (if needed then Entries.insert key value args else args) =
        Entries.get? "inputs" args := by
    intro needed key value args other
    cases needed with
    | false => rfl
    | true => exact Entries.get?_insert_of_ne other value args
  unfold complete
  dsimp only
  rw [Value.get?, Entries.get?_insert_self, Option.bind_some, Value.get?, kept _ _ _ _ (by decide),
    kept _ _ _ _ (by decide), Entries.get?_insert_self]

/-- A completed calculator lists what it listed before. -/
theorem inputs_complete (calculator : Value) (token : String) :
    inputs (complete calculator token) = listedTexts (metrics? calculator) := by
  have read : inputs (complete calculator token) = filledTexts (Value.itemsOf
      ((((complete calculator token).get? "calc_args").bind (Value.get? "inputs")).bind
        (Value.get? "metrics"))) := rfl
  have written : Entries.get? "metrics" (membersOf "inputs" (membersOf "calc_args"
      calculator.fields)) = metrics? calculator := by
    rw [get?_membersOf, get?_membersOf, get?_fields]
    rfl
  rw [read, get?_inputs_complete, Option.bind_some, ← written]
  exact metrics_completeInputs _

end Calculator

/-! ## Lists of metrics -/

namespace Resolution
namespace Scene

/-- What an entry of a list of metrics stands for. -/
def entryTexts (s : Scene) (raw : String) : List String :=
  let text := s.context.fillPlaceholders raw
  if text = fillMark then [s.context.targetId]
  else if Metric.isMarked text then s.metricsOf text
  else [s.nameOf text]

mutual

/-- What a value in a list of metrics stands for. -/
def listed (s : Scene) : Value -> List String
  | .text raw => (s.entryTexts raw).filter fun t => !t.isEmpty
  | .array items => distinct (s.listedAll items)
  | _ => []
termination_by structural v => v

def listedAll (s : Scene) : List Value -> List String
  | [] => []
  | item :: rest => s.listed item ++ s.listedAll rest
termination_by structural v => v

end

/-- What an entry stands for that has no list around it: what becomes a list. -/
def lone (s : Scene) (raw : String) : List String :=
  let text := s.context.fillPlaceholders raw
  if text = fillMark then []
  else if Metric.isMarked text then (s.metricsOf text).filter fun t => !t.isEmpty
  else ((s.bindings.get? text s.context.name).map Fixture.Key.shown).toList.filter fun t =>
    !t.isEmpty

/-- What the metrics of a calculator stand for, if it has any. -/
def metricsInputs (s : Scene) : Option Value -> List String
  | some (.array items) => s.listed (.array items)
  | some (.text raw) => s.lone raw
  | _ => []

def calculatorInputs (s : Scene) (calculator : Value) : List String :=
  s.metricsInputs (Calculator.metrics? calculator)

mutual

/-- The texts of a value and of the lists in it. -/
def leaves : Value -> List String
  | .text raw => [raw]
  | .array items => leavesAll items
  | _ => []
termination_by structural v => v

def leavesAll : List Value -> List String
  | [] => []
  | item :: rest => leaves item ++ leavesAll rest
termination_by structural v => v

end

/-- The entries of the lists of metrics of a blueprint, as they are written. -/
def entriesOf (item : Template.Item) : List String :=
  item.calculators.flatMap fun calculator =>
    ((Calculator.metrics? calculator).map leaves).getD []

/-- What all calculators of a blueprint read. -/
def inputsOf (s : Scene) (item : Template.Item) : List String :=
  distinct (item.calculators.flatMap s.calculatorInputs)

/-- What a blueprint writes. -/
def outputOf (s : Scene) (item : Template.Item) : String :=
  match item.get? "output_metric" with
  | some (.text raw) => s.soleText .outputMetric raw
  | _ => ""

variable {s : Scene} {value result : Value}

theorem filledTexts_map_text (texts : List String) :
    Calculator.filledTexts (texts.map .text) = texts.filter fun t => !t.isEmpty := by
  unfold Calculator.filledTexts
  rw [List.filterMap_map, ← List.filterMap_eq_filter]
  rfl

theorem metricTexts_text (text : String) :
    metricTexts (.text text) = [text].filter fun t => !t.isEmpty := by
  cases filled : text.isEmpty <;> simp [metricTexts, filled]

/-- What a text becomes in a list of metrics. -/
theorem Gives.entry {raw : String} (gives : s.Gives .metricList (.text raw) result) :
    metricTexts result = s.listed (.text raw) ∧
      Calculator.listedTexts (some result) = s.lone raw := by
  rcases gives with ⟨p, rfl⟩
  have same : s.resolveUnder .metricList (.text raw) = s.resolveText .metricList raw := rfl
  rw [same]
  unfold resolveText listed lone entryTexts nameOf
  rw [if_neg (by decide)]
  dsimp only
  split
  · exact ⟨metricTexts_text _, rfl⟩
  · split
    · rw [s.run_resolveDescriptor (by decide)]
      exact ⟨filledTexts_map_text _, filledTexts_map_text _⟩
    · cases s.bindings.get? (s.context.fillPlaceholders raw) s.context.name with
      | none => exact ⟨metricTexts_text _, rfl⟩
      | some key => exact ⟨filledTexts_map_text [key.shown], filledTexts_map_text [key.shown]⟩

theorem filled_of_mem_metricTexts {text : String} (member : text ∈ metricTexts value) :
    text.isEmpty = false := by
  unfold metricTexts at member
  split at member
  · rcases List.mem_filterMap.mp member with ⟨item, _, read⟩
    have filled := (Option.filter_eq_some_iff.mp read).2
    simpa using filled
  · next own =>
    split at member
    · cases member
    · next filled =>
      rw [List.mem_singleton.mp member]
      exact Bool.eq_false_iff.mpr filled
  · cases member

/-- A flattened list has nothing empty left in it. -/
theorem texts_flatten (items : List Value) :
    metricTexts (flatten items) = distinct (items.flatMap metricTexts) ∧
      Calculator.listedTexts (some (flatten items)) = distinct (items.flatMap metricTexts) := by
  have filled : (distinct (items.flatMap metricTexts)).filter (fun t => !t.isEmpty) =
      distinct (items.flatMap metricTexts) := by
    refine List.filter_eq_self.mpr fun text member => ?_
    rcases List.mem_flatMap.mp (mem_distinct.mp member) with ⟨item, _, own⟩
    rw [filled_of_mem_metricTexts own]
    rfl
  exact ⟨(filledTexts_map_text _).trans filled, (filledTexts_map_text _).trans filled⟩

mutual

theorem metricTexts_resolveUnder (s : Scene) :
    ∀ (value : Value) (p : Progress),
      metricTexts ((s.resolveUnder .metricList value).run p).1 = s.listed value
  | .text _, p => (Gives.entry ⟨p, rfl⟩).1
  | .array items, p => (texts_flatten _).1.trans
      (congrArg distinct (flatMap_metricTexts_resolveItems s items p))
  | .number _, _ => rfl
  | .object _, _ => rfl
  | .null, _ => rfl
  | .bool _, _ => rfl

theorem flatMap_metricTexts_resolveItems (s : Scene) :
    ∀ (items : List Value) (p : Progress),
      ((s.resolveItems .metricList items).run p).1.flatMap metricTexts = s.listedAll items
  | [], _ => rfl
  | item :: rest, p => congrArg₂ (· ++ ·) (metricTexts_resolveUnder s item p)
      (flatMap_metricTexts_resolveItems s rest _)

end

/-- What the metrics of a calculator become is what they stand for. -/
theorem listedTexts_of_gives {metrics resolved : Option Value}
    (gives : Option.Rel (s.Gives .metricList) metrics resolved) :
    Calculator.listedTexts resolved = s.metricsInputs metrics := by
  cases gives with
  | none => rfl
  | some gives =>
    rename_i value result
    cases value with
    | text raw => exact gives.entry.2
    | array items =>
      rcases gives with ⟨p, rfl⟩
      exact (texts_flatten _).2.trans
        (congrArg distinct (flatMap_metricTexts_resolveItems s items p))
    | number n => rcases gives with ⟨p, rfl⟩; rfl
    | object fields => rcases gives with ⟨p, rfl⟩; rfl
    | null => rcases gives with ⟨p, rfl⟩; rfl
    | bool flag => rcases gives with ⟨p, rfl⟩; rfl

/-! ## Where an input comes from -/

mutual

/-- What a list stands for, one of its entries stands for. -/
theorem mem_listed {s : Scene} {id : String} :
    ∀ {value : Value}, id ∈ s.listed value ->
      id ≠ "" ∧ ∃ raw ∈ leaves value, id ∈ s.entryTexts raw
  | .text raw, member => by
    rw [listed, List.mem_filter] at member
    exact ⟨by simpa using member.2, raw, List.mem_singleton_self raw, member.1⟩
  | .array items, member => by
    rw [listed, mem_distinct] at member
    exact mem_listedAll member
  | .number _, member => nomatch member
  | .object _, member => nomatch member
  | .null, member => nomatch member
  | .bool _, member => nomatch member

theorem mem_listedAll {s : Scene} {id : String} :
    ∀ {items : List Value}, id ∈ s.listedAll items ->
      id ≠ "" ∧ ∃ raw ∈ leavesAll items, id ∈ s.entryTexts raw
  | [], member => nomatch member
  | item :: rest, member => by
    rw [listedAll, List.mem_append] at member
    rw [leavesAll]
    rcases member with first | later
    · rcases mem_listed first with ⟨filled, raw, leaf, stands⟩
      exact ⟨filled, raw, List.mem_append_left _ leaf, stands⟩
    · rcases mem_listedAll later with ⟨filled, raw, leaf, stands⟩
      exact ⟨filled, raw, List.mem_append_right _ leaf, stands⟩

end

theorem mem_lone {raw id : String} (member : id ∈ s.lone raw) :
    id ≠ "" ∧ id ∈ s.entryTexts raw := by
  unfold lone at member
  unfold entryTexts nameOf
  dsimp only at member ⊢
  split at member
  · cases member
  · next unfilled =>
    rw [if_neg unfilled]
    split at member
    · next marked =>
      rw [if_pos marked]
      rw [List.mem_filter] at member
      exact ⟨by simpa using member.2, member.1⟩
    · next plain =>
      rw [if_neg plain]
      rw [List.mem_filter, Option.mem_toList] at member
      rw [member.1]
      exact ⟨by simpa using member.2, List.mem_singleton_self id⟩

/-- Every input of a blueprint is a text that one of its entries stands for. -/
theorem mem_inputsOf {item : Template.Item} {id : String} (member : id ∈ s.inputsOf item) :
    id ≠ "" ∧ ∃ raw ∈ entriesOf item, id ∈ s.entryTexts raw := by
  rcases List.mem_flatMap.mp (mem_distinct.mp member) with ⟨calculator, own, reads⟩
  have within : ∀ {raw : String} {metrics : Value}, Calculator.metrics? calculator = some metrics ->
      raw ∈ leaves metrics -> raw ∈ entriesOf item := by
    intro raw metrics written leaf
    refine List.mem_flatMap.mpr ⟨calculator, own, ?_⟩
    rw [written]
    exact leaf
  unfold calculatorInputs metricsInputs at reads
  split at reads
  · next items written =>
    rcases mem_listed reads with ⟨filled, raw, leaf, stands⟩
    exact ⟨filled, raw, within written leaf, stands⟩
  · next raw written =>
    rcases mem_lone reads with ⟨filled, stands⟩
    exact ⟨filled, raw, within written (List.mem_singleton_self raw), stands⟩
  · cases reads

/-! ## Calculators and blueprints -/

theorem Gives.member {rule : Rule} {member resolved : Option Value} (key : String)
    (under : Rule.ofKey key s.context = rule) (other : key ≠ "center")
    (gives : Option.Rel (s.Gives .plain) member resolved) :
    Option.Rel (s.Gives rule) (member.bind (Value.get? key)) (resolved.bind (Value.get? key)) := by
  cases gives with
  | none => exact .none
  | some gives => exact under ▸ gives.get? key other

/-- A resolved calculator lists what the calculator asks for. -/
theorem Gives.calculatorInputs (gives : s.Gives .plain value result) :
    Calculator.listedTexts (Calculator.metrics? result) = s.calculatorInputs value := by
  have args : Option.Rel (s.Gives .plain) (value.get? "calc_args") (result.get? "calc_args") :=
    gives.get? "calc_args" (by decide)
  have inputs : Option.Rel (s.Gives .plain) _ _ := Gives.member "inputs" rfl (by decide) args
  exact listedTexts_of_gives (Gives.member "metrics" rfl (by decide) inputs)

theorem forall₂_itemsOf {list resolved : Option Value}
    (gives : Option.Rel (s.Gives .plain) list resolved) :
    List.Forall₂ (s.Gives .plain) (Value.itemsOf list) (Value.itemsOf resolved) := by
  cases gives with
  | none => exact .nil
  | some gives =>
    rename_i value result
    cases value with
    | array items =>
      rcases gives.array (by decide) (by decide) with ⟨results, rfl, each⟩
      exact each
    | object fields =>
      rcases gives.object with ⟨members, rfl, _⟩
      exact .cons gives .nil
    | text raw =>
      have text := gives.text (Or.inl rfl)
      subst text
      exact .cons gives .nil
    | number n =>
      rcases gives with ⟨p, rfl⟩
      exact .cons ⟨p, rfl⟩ .nil
    | null =>
      rcases gives with ⟨p, rfl⟩
      exact .nil
    | bool flag =>
      rcases gives with ⟨p, rfl⟩
      exact .cons ⟨p, rfl⟩ .nil

/-- The calculators of a resolved blueprint list what they ask for. -/
theorem Gives.inputsOf {item : Template.Item} (gives : s.Gives .plain item.value result) :
    distinct ((Value.itemsOf (result.get? "calculators")).flatMap fun calculator =>
      Calculator.listedTexts (Calculator.metrics? calculator)) = s.inputsOf item := by
  have each : List.Forall₂ (s.Gives .plain) item.calculators
      (Value.itemsOf (result.get? "calculators")) :=
    forall₂_itemsOf (gives.get? "calculators" (by decide))
  have same : ((Value.itemsOf (result.get? "calculators")).flatMap fun calculator =>
      Calculator.listedTexts (Calculator.metrics? calculator)) =
        item.calculators.flatMap s.calculatorInputs := by
    generalize item.calculators = written at each
    generalize Value.itemsOf (result.get? "calculators") = resolved at each
    induction each with
    | nil => rfl
    | cons first _ ih =>
      rw [List.flatMap_cons, List.flatMap_cons, first.calculatorInputs, ih]
  exact congrArg distinct same

/-- A resolved blueprint writes what it says. -/
theorem Gives.outputOf {item : Template.Item} (gives : s.Gives .plain item.value result) :
    ((result.get? "output_metric").bind Value.text?).getD "" = s.outputOf item := by
  have written : Option.Rel (s.Gives .outputMetric) (item.get? "output_metric")
      (result.get? "output_metric") := gives.get? "output_metric" (by decide)
  unfold Scene.outputOf
  generalize item.get? "output_metric" = member at written
  generalize result.get? "output_metric" = resolved at written
  cases written with
  | none => rfl
  | some gives =>
    rename_i value result
    cases value with
    | text raw =>
      rw [gives.text (Or.inr rfl)]
      rfl
    | array items => rcases gives with ⟨p, rfl⟩; rfl
    | object fields => rcases gives with ⟨p, rfl⟩; rfl
    | number n => rcases gives with ⟨p, rfl⟩; rfl
    | null => rcases gives with ⟨p, rfl⟩; rfl
    | bool flag => rcases gives with ⟨p, rfl⟩; rfl

/-! ## Scenes that agree -/

/-- Two scenes in which texts stand for the same. -/
structure SeesAlike (a b : Scene) : Prop where
  context : b.context = a.context
  bindings : b.bindings = a.bindings
  metrics : ∀ text, b.metricsOf text = a.metricsOf text

namespace SeesAlike

variable {a b : Scene}

theorem entryTexts (alike : SeesAlike a b) (raw : String) :
    b.entryTexts raw = a.entryTexts raw := by
  unfold Scene.entryTexts nameOf
  dsimp only
  rw [alike.context, alike.bindings, alike.metrics]

mutual

theorem listed (alike : SeesAlike a b) : ∀ value : Value, b.listed value = a.listed value
  | .text raw => congrArg (List.filter _) (alike.entryTexts raw)
  | .array items => congrArg distinct (listedAll alike items)
  | .number _ => rfl
  | .object _ => rfl
  | .null => rfl
  | .bool _ => rfl

theorem listedAll (alike : SeesAlike a b) :
    ∀ items : List Value, b.listedAll items = a.listedAll items
  | [] => rfl
  | item :: rest => congrArg₂ (· ++ ·) (listed alike item) (listedAll alike rest)

end

variable (alike : SeesAlike a b)
include alike

theorem calculatorInputs (calculator : Value) :
    b.calculatorInputs calculator = a.calculatorInputs calculator := by
  unfold Scene.calculatorInputs
  generalize Calculator.metrics? calculator = metrics
  unfold metricsInputs
  split
  · exact alike.listed _
  · unfold lone
    dsimp only
    rw [alike.context, alike.bindings, alike.metrics]
  · rfl

/-- A blueprint reads and writes the same in both. -/
theorem inputsOf (item : Template.Item) : b.inputsOf item = a.inputsOf item := by
  unfold Scene.inputsOf
  rw [funext alike.calculatorInputs]

theorem outputOf (item : Template.Item) : b.outputOf item = a.outputOf item := by
  unfold Scene.outputOf
  split
  · have names : ∀ text, b.nameOf text = a.nameOf text := by
      intro text
      unfold nameOf
      rw [alike.context, alike.bindings]
    exact soleText_congr alike.context (fun _ => names _) (alike.metrics _) .outputMetric
  · rfl

end SeesAlike

end Scene
end Resolution
end Sensornet
