import Mathlib.Data.List.Forall2
import Sensornet.Domain.Item

namespace Sensornet
namespace Domain

/-!
# Which domains are accepted, and what is blamed

An element of a domain is an item when it is an object whose category and label
are texts that are not empty, whose other known members are null or of their
type, and in which no member has both of its spellings.  `IsItem` says this of
a value, and `Describes` says which item it is: a member that is null counts as
missing.

A domain is accepted exactly when it is a list of items.  Otherwise the first
element that is no item is blamed, and of several faults of this element the
first in the order of `Fault` is reported.
-/

open Json (Value Fields)

namespace Item

/-! ## What elements are like -/

/-- A member that is a text and not empty. -/
def Names (members : Fields) (key text : String) : Prop :=
  Entries.get? key members = some (.text text) ∧ text ≠ ""

/-- A member that is missing or null or of a type. -/
def MayHold (typed : Value -> Prop) (members : Fields) (key : String) : Prop :=
  ∀ value, Entries.get? key members = some value -> value = .null ∨ typed value

def IsText (value : Value) : Prop :=
  ∃ text, value = .text text

def IsList (value : Value) : Prop :=
  ∃ items, value = .array items

/-- An integer of 64 bits with its sign. -/
def IsSigned (value : Value) : Prop :=
  ∃ n, value = Value.integer n ∧ -9223372036854775808 ≤ n ∧ n < 9223372036854775808

/-- The optional members that are texts, in both spellings where there are
two. -/
def textKeys : List String :=
  ["inletFor", "inlet_for", "outletFor", "outlet_for", "metric_unit", "metric_interval",
    "metric_category", "notes"]

/-- Two spellings of one member, of which an object may have one. -/
def OneSpelling (members : Fields) (key other : String) : Prop :=
  ¬ (key ∈ Entries.keys members ∧ other ∈ Entries.keys members)

/-- The members of an item. -/
structure WellFormed (members : Fields) : Prop where
  category : ∃ text, Names members "category" text
  label : ∃ text, Names members "label" text
  texts : ∀ key ∈ textKeys, MayHold IsText members key
  table : MayHold IsSigned members "metric_storage_table"
  tags : MayHold IsList members "tags_list"
  inlet : OneSpelling members "inletFor" "inlet_for"
  outlet : OneSpelling members "outletFor" "outlet_for"

/-- An element of a domain that is accepted. -/
def IsItem (element : Value) : Prop :=
  ∃ members, element = .object members ∧ WellFormed members

/-- A member, null being taken for missing. -/
def given? (members : Fields) (key : String) : Option Value :=
  (Entries.get? key members).filter fun value => !value.isNull

/-- The members of an object are those of an item. -/
structure Holds (members : Fields) (item : Item) : Prop where
  category : Names members "category" item.category
  label : Names members "label" item.label
  coords : item.coords = (given? members "coords").getD .null
  inlet : OneSpelling members "inletFor" "inlet_for"
  outlet : OneSpelling members "outletFor" "outlet_for"
  inletFor : (given? members "inletFor").or (given? members "inlet_for") =
    item.inletFor.map .text
  outletFor : (given? members "outletFor").or (given? members "outlet_for") =
    item.outletFor.map .text
  metricUnit : given? members "metric_unit" = item.metricUnit.map .text
  metricInterval : given? members "metric_interval" = item.metricInterval.map .text
  metricCategory : given? members "metric_category" = item.metricCategory.map .text
  metricStorageTable : given? members "metric_storage_table" =
    item.metricStorageTable.map Value.integer
  fits : ∀ n ∈ item.metricStorageTable, Word.fitsSigned n = true
  notes : given? members "notes" = item.notes.map .text
  attributes : given? members "attribute" = item.attributes
  tags : given? members "tags_list" = item.tags.map .array

/-- The item that an element describes. -/
def Describes (element : Value) (item : Item) : Prop :=
  ∃ members, element = .object members ∧ Holds members item

/-- The failure that names the first fault of an element at a position. -/
inductive Fault (index : Nat) : Value -> Failure -> Prop where
  | element {element : Value} (noObject : ∀ members, element ≠ .object members) :
    Fault index element (.notAnObject "domain item" index)
  | category {members : Fields} {label : Option String}
    (missing : ∀ text, ¬ Names members "category" text)
    (own : ∀ text, label = some text ↔ Names members "label" text) :
    Fault index (.object members) (.missingField index "category" label)
  | label {members : Fields} {category : String} (held : Names members "category" category)
    (missing : ∀ text, ¬ Names members "label" text) :
    Fault index (.object members) (.missingField index "label" none)
  | member {members : Fields} {category label : String}
    (held : Names members "category" category) (own : Names members "label" label)
    (faulty : ¬ WellFormed members) :
    Fault index (.object members)
      (.json ("domain item " ++ Failure.position index ++ " (" ++ label ++ ")"))

end Item

/-- The failure of a domain that is not accepted. -/
inductive Blames : Value -> Failure -> Prop where
  | noList {value : Value} (noList : ∀ elements, value ≠ .array elements) :
    Blames value (.notAnArray "domain")
  | first {front rest : List Value} {element : Value} {failure : Failure}
    (accepted : ∀ earlier ∈ front, Item.IsItem earlier)
    (fault : Item.Fault front.length element failure) :
    Blames (.array (front ++ element :: rest)) failure

namespace Item

/-! ## Reading members -/

variable {members : Fields} {key other : String}

theorem filled?_eq_some_iff {text : String} :
    filled? members key = some text ↔ Names members key text := by
  unfold filled? Names
  rw [Option.filter_eq_some_iff, Option.bind_eq_some_iff]
  constructor
  · rintro ⟨⟨value, found, read⟩, filled⟩
    cases value with
    | text s =>
      cases read
      exact ⟨found, fun empty => by simp [empty] at filled⟩
    | _ => cases read
  · rintro ⟨found, filled⟩
    exact ⟨⟨_, found, rfl⟩, by simpa using filled⟩

theorem filled?_eq_none_iff :
    filled? members key = none ↔ ∀ text, ¬ Names members key text := by
  rw [Option.eq_none_iff_forall_not_mem]
  exact forall_congr' fun text => not_congr filled?_eq_some_iff

theorem mayHold_iff {typed : Value -> Prop} :
    MayHold typed members key ↔ ∀ value ∈ given? members key, typed value := by
  unfold MayHold given?
  simp only [Option.mem_def, Option.filter_eq_some_iff, and_imp]
  refine forall_congr' fun value => forall_congr' fun _ => ?_
  cases value <;> simp [Value.isNull]

theorem given?_of_not_mem (absent : key ∉ Entries.keys members) : given? members key = none := by
  unfold given?
  rw [Entries.get?_eq_none_iff.mpr absent, Option.filter_none]

/-- Where there is one spelling, what the other one would hold is missing. -/
theorem OneSpelling.given? (single : OneSpelling members key other) :
    Item.given? members key = none ∨ Item.given? members other = none :=
  (not_and_or.mp single).imp given?_of_not_mem given?_of_not_mem

/-- Null is passed over before a member is read. -/
theorem optional?_eq {A : Type} (read : Value -> Option A) (members : Fields) (key : String) :
    optional? read members key = (given? members key).mapM read := by
  unfold optional? given?
  cases Entries.get? key members with
  | none => rfl
  | some value => cases value <;> rfl

/-- A member is read in the spelling that it has. -/
theorem spelled?_eq {A : Type} (read : Value -> Option A) (single : OneSpelling members key other) :
    spelled? read members key other =
      ((given? members key).or (given? members other)).mapM read := by
  unfold spelled?
  simp only [Bool.and_eq_true, Entries.contains_iff_mem_keys]
  rw [if_neg single, optional?_eq, optional?_eq]
  split
  · next present =>
    have absent : other ∉ Entries.keys members := fun both => single ⟨present, both⟩
    rw [given?_of_not_mem absent, Option.or_none]
  · next absent => rw [given?_of_not_mem absent, Option.none_or]

theorem spelled?_eq_none {A : Type} (read : Value -> Option A)
    (both : ¬ OneSpelling members key other) : spelled? read members key other = none := by
  unfold spelled?
  simp only [Bool.and_eq_true, Entries.contains_iff_mem_keys]
  exact if_pos (not_not.mp both)

section

variable {A : Type} {read : Value -> Option A} {given : Option Value} {held : Option A}

/-- What is read is what was written, if it is read at all. -/
theorem mapM_eq_some_iff {write : A -> Value} {fits : A -> Prop}
    (reads : ∀ value ∈ given, ∀ a, read value = some a ↔ value = write a ∧ fits a) :
    given.mapM read = some held ↔ given = held.map write ∧ ∀ a ∈ held, fits a := by
  cases given with
  | none => cases held <;> simp
  | some value =>
    cases held with
    | none => simp
    | some a => simpa using reads value rfl a

end

/-! ## Values of a type -/

theorem text?_eq_some_iff {value : Value} {text : String} :
    value.text? = some text ↔ value = .text text ∧ True := by
  cases value <;> simp [Value.text?]

theorem array?_eq_some_iff {value : Value} {items : List Value} :
    value.array? = some items ↔ value = .array items ∧ True := by
  cases value <;> simp [Value.array?]

theorem signed?_eq_some_iff {value : Value} {n : Int} :
    signed? value = some n ↔ value = Value.integer n ∧ Word.fitsSigned n = true := by
  unfold signed? Value.integer
  split
  · next m =>
    rw [Option.ite_none_right_eq_some, Value.number.injEq, Json.Number.integer.injEq,
      Option.some.injEq]
    exact ⟨fun ⟨fits, same⟩ => ⟨same, same ▸ fits⟩, fun ⟨same, fits⟩ => ⟨same ▸ fits, same⟩⟩
  · next noInteger =>
    constructor
    · intro read
      cases read
    · rintro ⟨rfl, -⟩
      exact (noInteger n rfl).elim

/-! ## Reading an item -/

theorem getD_given? (members : Fields) (key : String) :
    (given? members key).getD .null = (Entries.get? key members).getD .null := by
  unfold given?
  cases Entries.get? key members with
  | none => rfl
  | some value => cases value <;> rfl

theorem ofMembers?_eq_some_iff {category label : String} {item : Item} :
    ofMembers? category label members = some item ↔
      item.category = category ∧ item.label = label ∧
      item.coords = (Entries.get? "coords" members).getD .null ∧
      spelled? Value.text? members "inletFor" "inlet_for" = some item.inletFor ∧
      spelled? Value.text? members "outletFor" "outlet_for" = some item.outletFor ∧
      optional? Value.text? members "metric_unit" = some item.metricUnit ∧
      optional? Value.text? members "metric_interval" = some item.metricInterval ∧
      optional? Value.text? members "metric_category" = some item.metricCategory ∧
      optional? signed? members "metric_storage_table" = some item.metricStorageTable ∧
      optional? Value.text? members "notes" = some item.notes ∧
      optional? some members "attribute" = some item.attributes ∧
      optional? Value.array? members "tags_list" = some item.tags := by
  unfold ofMembers?
  simp only [Option.bind_eq_bind, Option.bind_eq_some_iff, Option.pure_def, Option.some.injEq]
  constructor
  · rintro ⟨_, inlet, _, outlet, _, unit, _, interval, _, metric, _, table, _, notes, _, attributes,
      _, tags, rfl⟩
    exact ⟨rfl, rfl, rfl, inlet, outlet, unit, interval, metric, table, notes, attributes, tags⟩
  · rintro ⟨rfl, rfl, coords, inlet, outlet, unit, interval, metric, table, notes, attributes, tags⟩
    refine ⟨_, inlet, _, outlet, _, unit, _, interval, _, metric, _, table, _, notes, _, attributes,
      _, tags, ?_⟩
    rw [← coords]

theorem optional?_text {held : Option String} :
    optional? Value.text? members key = some held ↔ given? members key = held.map .text := by
  rw [optional?_eq, mapM_eq_some_iff fun _ _ _ => text?_eq_some_iff]
  simp

theorem optional?_list {held : Option (List Value)} :
    optional? Value.array? members key = some held ↔ given? members key = held.map .array := by
  rw [optional?_eq, mapM_eq_some_iff fun _ _ _ => array?_eq_some_iff]
  simp

theorem optional?_signed {held : Option Int} :
    optional? signed? members key = some held ↔
      given? members key = held.map Value.integer ∧ ∀ n ∈ held, Word.fitsSigned n = true := by
  rw [optional?_eq, mapM_eq_some_iff fun _ _ _ => signed?_eq_some_iff]

theorem optional?_any {held : Option Value} :
    optional? some members key = some held ↔ given? members key = held := by
  rw [optional?_eq]
  cases given? members key <;> simp

theorem spelled?_text {held : Option String} :
    spelled? Value.text? members key other = some held ↔
      OneSpelling members key other ∧
        (given? members key).or (given? members other) = held.map .text := by
  by_cases single : OneSpelling members key other
  · rw [spelled?_eq _ single, mapM_eq_some_iff fun _ _ _ => text?_eq_some_iff]
    simp [single]
  · simp [spelled?_eq_none _ single, single]

/-- What is read is the item that has these members. -/
theorem ofMembers?_iff {category label : String} (held : Names members "category" category)
    (own : Names members "label" label) {item : Item} :
    ofMembers? category label members = some item ↔ Holds members item := by
  have same : ∀ {key first second}, Names members key first -> Names members key second ->
      first = second := fun here there =>
    Value.text.inj (Option.some.inj (here.1.symm.trans there.1))
  simp only [ofMembers?_eq_some_iff, spelled?_text, optional?_text, optional?_list,
    optional?_signed, optional?_any]
  constructor
  · rintro ⟨rfl, rfl, coords, ⟨inlet, inletFor⟩, ⟨outlet, outletFor⟩, unit, interval, metric,
      ⟨table, fits⟩, notes, attributes, tags⟩
    exact ⟨held, own, coords.trans (getD_given? members "coords").symm, inlet, outlet, inletFor,
      outletFor, unit, interval, metric, table, fits, notes, attributes, tags⟩
  · intro d
    exact ⟨same d.category held, same d.label own, d.coords.trans (getD_given? members "coords"),
      ⟨d.inlet, d.inletFor⟩, ⟨d.outlet, d.outletFor⟩, d.metricUnit, d.metricInterval,
      d.metricCategory, ⟨d.metricStorageTable, d.fits⟩, d.notes, d.attributes, d.tags⟩

/-! ## Which elements are items -/

/-- A member may be what it is exactly when it can be read. -/
theorem mayHold_iff_exists {A : Type} {write : A -> Value} {fits : A -> Prop}
    {typed : Value -> Prop} (writes : ∀ value, typed value ↔ ∃ a, value = write a ∧ fits a) :
    MayHold typed members key ↔
      ∃ held : Option A, given? members key = held.map write ∧ ∀ a ∈ held, fits a := by
  simp only [mayHold_iff, writes]
  cases given? members key with
  | none =>
    exact ⟨fun _ => ⟨none, rfl, fun _ member => nomatch member⟩, fun _ _ member => nomatch member⟩
  | some value =>
    constructor
    · intro typed
      rcases typed value rfl with ⟨a, rfl, fit⟩
      exact ⟨some a, rfl, fun _ member => Option.some.inj member ▸ fit⟩
    · rintro ⟨held, same, fit⟩ _ ⟨⟩
      rcases Option.map_eq_some_iff.mp same.symm with ⟨a, rfl, rfl⟩
      exact ⟨a, rfl, fit a rfl⟩

theorem mayHold_text_iff : MayHold IsText members key ↔
    ∃ held : Option String, given? members key = held.map .text := by
  have writes : ∀ value, IsText value ↔ ∃ text, value = .text text ∧ True := by simp [IsText]
  rw [mayHold_iff_exists writes]
  simp

theorem mayHold_list_iff : MayHold IsList members key ↔
    ∃ held : Option (List Value), given? members key = held.map .array := by
  have writes : ∀ value, IsList value ↔ ∃ items, value = .array items ∧ True := by simp [IsList]
  rw [mayHold_iff_exists writes]
  simp

theorem mayHold_signed_iff : MayHold IsSigned members key ↔
    ∃ held : Option Int, given? members key = held.map Value.integer ∧
      ∀ n ∈ held, Word.fitsSigned n = true :=
  mayHold_iff_exists fun value => by simp only [IsSigned, Word.fitsSigned_iff]

/-- With one spelling, both of them may hold a text exactly when the one that
there is can be read. -/
theorem mayHold_spelled_iff (single : OneSpelling members key other) :
    MayHold IsText members key ∧ MayHold IsText members other ↔
      ∃ held : Option String,
        (given? members key).or (given? members other) = held.map .text := by
  have missing : ∃ held : Option String, none = held.map Value.text := ⟨none, rfl⟩
  rw [mayHold_text_iff, mayHold_text_iff]
  rcases single.given? with none | none
  · rw [none, Option.none_or]
    exact and_iff_right missing
  · rw [none, Option.or_none]
    exact and_iff_left missing

theorem wellFormed_iff : WellFormed members ↔ ∃ item, Holds members item := by
  constructor
  · intro w
    have texts := w.texts
    simp only [textKeys, List.forall_mem_cons] at texts
    rcases texts with ⟨inlet, inletToo, outlet, outletToo, unit, interval, metric, notes, -⟩
    rcases w.category with ⟨category, named⟩
    rcases w.label with ⟨label, labelled⟩
    rcases (mayHold_spelled_iff w.inlet).mp ⟨inlet, inletToo⟩ with ⟨inletFor, inlet⟩
    rcases (mayHold_spelled_iff w.outlet).mp ⟨outlet, outletToo⟩ with ⟨outletFor, outlet⟩
    rcases mayHold_text_iff.mp unit with ⟨metricUnit, unit⟩
    rcases mayHold_text_iff.mp interval with ⟨metricInterval, interval⟩
    rcases mayHold_text_iff.mp metric with ⟨metricCategory, metric⟩
    rcases mayHold_signed_iff.mp w.table with ⟨metricStorageTable, table, fits⟩
    rcases mayHold_text_iff.mp notes with ⟨notes, held⟩
    rcases mayHold_list_iff.mp w.tags with ⟨tags, list⟩
    exact ⟨⟨category, label, _, inletFor, outletFor, metricUnit, metricInterval, metricCategory,
      metricStorageTable, notes, _, tags⟩, named, labelled, rfl, w.inlet, w.outlet, inlet, outlet,
      unit, interval, metric, table, fits, held, rfl, list⟩
  · rintro ⟨item, d⟩
    have inlet := (mayHold_spelled_iff d.inlet).mpr ⟨_, d.inletFor⟩
    have outlet := (mayHold_spelled_iff d.outlet).mpr ⟨_, d.outletFor⟩
    have table := mayHold_signed_iff.mpr ⟨_, d.metricStorageTable, d.fits⟩
    have tags := mayHold_list_iff.mpr ⟨_, d.tags⟩
    refine ⟨⟨_, d.category⟩, ⟨_, d.label⟩, ?_, table, tags, d.inlet, d.outlet⟩
    simp only [textKeys, List.forall_mem_cons]
    exact ⟨inlet.1, inlet.2, outlet.1, outlet.2, mayHold_text_iff.mpr ⟨_, d.metricUnit⟩,
      mayHold_text_iff.mpr ⟨_, d.metricInterval⟩, mayHold_text_iff.mpr ⟨_, d.metricCategory⟩,
      mayHold_text_iff.mpr ⟨_, d.notes⟩, fun _ member => nomatch member⟩

/-! ## Reading an element -/

theorem ofJson_eq_ok_iff {index : Nat} {element : Value} {item : Item} :
    ofJson index element = .ok item ↔ Describes element item := by
  constructor
  · intro read
    cases element with
    | object members =>
      unfold ofJson at read
      dsimp only at read
      split at read
      · cases read
      · cases read
      · next category label held own =>
        split at read
        · next found =>
          cases read
          exact ⟨members, rfl, (ofMembers?_iff (filled?_eq_some_iff.mp held)
            (filled?_eq_some_iff.mp own)).mp found⟩
        · cases read
    | _ => cases read
  · rintro ⟨members, rfl, d⟩
    unfold ofJson
    simp only [filled?_eq_some_iff.mpr d.category, filled?_eq_some_iff.mpr d.label,
      (ofMembers?_iff d.category d.label).mpr d]

/-- An element whose category and label are given is read, or it is faulty. -/
theorem ofMembers?_eq_none_iff {category label : String} (held : Names members "category" category)
    (own : Names members "label" label) :
    ofMembers? category label members = none ↔ ¬ WellFormed members := by
  rw [wellFormed_iff, Option.eq_none_iff_forall_not_mem, not_exists]
  exact forall_congr' fun item => not_congr (ofMembers?_iff held own)

theorem ofJson_eq_error_iff {index : Nat} {element : Value} {failure : Failure} :
    ofJson index element = .error failure ↔ Fault index element failure := by
  constructor
  · intro read
    cases element with
    | object members =>
      unfold ofJson at read
      dsimp only at read
      split at read
      · next missing =>
        cases read
        exact .category (filled?_eq_none_iff.mp missing) fun text => filled?_eq_some_iff
      · next category held missing =>
        cases read
        exact .label (filled?_eq_some_iff.mp held) (filled?_eq_none_iff.mp missing)
      · next category label held own =>
        have category := filled?_eq_some_iff.mp held
        have label := filled?_eq_some_iff.mp own
        split at read
        · cases read
        · next unread =>
          cases read
          exact .member category label ((ofMembers?_eq_none_iff category label).mp unread)
    | _ =>
      cases read
      exact .element fun members same => nomatch same
  · intro fault
    unfold ofJson
    cases fault with
    | element noObject =>
      cases element with
      | object members => exact absurd rfl (noObject members)
      | _ => rfl
    | @category members label missing own =>
      have same : filled? members "label" = label :=
        Option.ext fun text => filled?_eq_some_iff.trans (own text).symm
      simp only [filled?_eq_none_iff.mpr missing, same]
    | label held missing =>
      simp only [filled?_eq_some_iff.mpr held, filled?_eq_none_iff.mpr missing]
    | member held own faulty =>
      simp only [filled?_eq_some_iff.mpr held, filled?_eq_some_iff.mpr own,
        (ofMembers?_eq_none_iff held own).mpr faulty]

theorem isItem_iff {element : Value} : IsItem element ↔ ∃ item, Describes element item := by
  simp only [IsItem, wellFormed_iff]
  exact ⟨fun ⟨members, same, item, d⟩ => ⟨item, members, same, d⟩,
    fun ⟨item, members, same, d⟩ => ⟨members, same, item, d⟩⟩

end Item

/-! ## Reading a domain -/

theorem ofItems_eq_ok_iff {index : Nat} {elements : List Value} {items : List Item} :
    ofItems index elements = .ok items ↔ List.Forall₂ Item.Describes elements items := by
  induction elements generalizing index items with
  | nil => cases items <;> simp [ofItems]
  | cons element rest ih =>
    rw [List.forall₂_cons_left_iff, ofItems]
    constructor
    · intro read
      split at read
      · cases read
      · next item first =>
        cases later : ofItems (index + 1) rest with
        | error failure => simp [later, Except.map] at read
        | ok others =>
          simp only [later, Except.map, Except.ok.injEq] at read
          exact ⟨item, others, Item.ofJson_eq_ok_iff.mp first, ih.mp later, read.symm⟩
    · rintro ⟨item, others, first, later, rfl⟩
      rw [Item.ofJson_eq_ok_iff.mpr first, ih.mpr later]
      rfl

theorem ofItems_eq_error_iff {index : Nat} {elements : List Value} {failure : Failure} :
    ofItems index elements = .error failure ↔
      ∃ front element rest, elements = front ++ element :: rest ∧
        (∀ earlier ∈ front, Item.IsItem earlier) ∧
          Item.Fault (index + front.length) element failure := by
  induction elements generalizing index with
  | nil => simp [ofItems]
  | cons element rest ih =>
    rw [ofItems]
    constructor
    · intro read
      split at read
      · next first =>
        cases read
        exact ⟨[], element, rest, rfl, List.forall_mem_nil _, Item.ofJson_eq_error_iff.mp first⟩
      · next item first =>
        cases later : ofItems (index + 1) rest with
        | ok others => simp [later, Except.map] at read
        | error other =>
          simp only [later, Except.map, Except.error.injEq] at read
          rcases ih.mp (read ▸ later) with ⟨front, faulty, behind, rfl, accepted, fault⟩
          have good : Item.IsItem element :=
            Item.isItem_iff.mpr ⟨item, Item.ofJson_eq_ok_iff.mp first⟩
          refine ⟨element :: front, faulty, behind, rfl, List.forall_mem_cons.mpr ⟨good, accepted⟩,
            ?_⟩
          rwa [List.length_cons, Nat.add_comm front.length, ← Nat.add_assoc]
    · rintro ⟨front, faulty, behind, same, accepted, fault⟩
      cases front with
      | nil =>
        rcases List.cons.inj same with ⟨rfl, rfl⟩
        have first : Item.ofJson index element = .error failure :=
          Item.ofJson_eq_error_iff.mpr fault
        rw [first]
      | cons first front =>
        rcases List.cons.inj same with ⟨rfl, rfl⟩
        rcases List.forall_mem_cons.mp accepted with ⟨good, accepted⟩
        rcases Item.isItem_iff.mp good with ⟨item, described⟩
        have shifted : index + 1 + front.length = index + (element :: front).length := by
          rw [List.length_cons, Nat.add_assoc, Nat.add_comm 1]
        have later : ofItems (index + 1) (front ++ faulty :: behind) = .error failure :=
          ih.mpr ⟨front, faulty, behind, rfl, accepted, shifted ▸ fault⟩
        rw [Item.ofJson_eq_ok_iff.mpr described]
        exact congrArg (Except.map (item :: ·)) later

theorem exists_items_iff {elements : List Value} :
    (∃ items, List.Forall₂ Item.Describes elements items) ↔
      ∀ element ∈ elements, Item.IsItem element := by
  induction elements with
  | nil => exact ⟨fun _ => List.forall_mem_nil _, fun _ => ⟨[], .nil⟩⟩
  | cons element rest ih =>
    rw [List.forall_mem_cons, ← ih, Item.isItem_iff]
    constructor
    · rintro ⟨_, _ | ⟨first, later⟩⟩
      exact ⟨⟨_, first⟩, _, later⟩
    · rintro ⟨⟨item, first⟩, items, later⟩
      exact ⟨item :: items, .cons first later⟩

/-- A domain is accepted exactly when it is a list of items.  What is returned
are the items that the elements describe, one for each and in order.  Any other
value is refused, and the failure blames the first element that is no item. -/
theorem ofJson_exact (value : Value) :
    ((∃ items, ofJson value = .ok items) ↔
      ∃ elements, value = .array elements ∧ ∀ element ∈ elements, Item.IsItem element) ∧
    (∀ items, ofJson value = .ok items ↔
      ∃ elements, value = .array elements ∧ List.Forall₂ Item.Describes elements items) ∧
    ∀ failure, ofJson value = .error failure ↔ Blames value failure := by
  have accepted : ∀ items, ofJson value = .ok items ↔
      ∃ elements, value = .array elements ∧ List.Forall₂ Item.Describes elements items := by
    intro items
    cases value with
    | array elements => simp [ofJson, ofItems_eq_ok_iff]
    | _ => simp [ofJson]
  refine ⟨?_, accepted, fun failure => ?_⟩
  · simp only [accepted]
    rw [exists_comm]
    simp only [exists_and_left, exists_items_iff]
  · constructor
    · intro read
      cases value with
      | array elements =>
        rcases ofItems_eq_error_iff.mp read with ⟨front, element, rest, rfl, good, fault⟩
        exact .first good (Nat.zero_add front.length ▸ fault)
      | _ =>
        cases read
        exact .noList fun elements same => nomatch same
    · rintro (noList | ⟨good, fault⟩)
      · cases value with
        | array elements => exact absurd rfl (noList elements)
        | _ => rfl
      · exact ofItems_eq_error_iff.mpr ⟨_, _, _, rfl, good, (Nat.zero_add _).symm ▸ fault⟩

/-- A zone, a meter that says twice which zone it feeds, and an element without
a label. -/
def faultyDomain : Value :=
  .array
    [ .object [("category", .text "zone"), ("label", .text "North"), ("notes", .null)]
    , .object [("category", .text "flow_meter"), ("label", .text "North inlet")
              , ("inletFor", .text "North"), ("inlet_for", .null)]
    , .object [("category", .text "zone"), ("label", .text "")] ]

/-- The second element is blamed, though the third has no label at all. -/
theorem ofJson_exact_faultyDomain :
    Blames faultyDomain (.json "domain item #1 (North inlet)") ∧
      ¬ ∃ elements, faultyDomain = .array elements ∧ ∀ element ∈ elements, Item.IsItem element := by
  have refused : ofJson faultyDomain = .error (.json "domain item #1 (North inlet)") := rfl
  refine ⟨((ofJson_exact faultyDomain).2.2 _).mp refused, fun accepted => ?_⟩
  rcases (ofJson_exact faultyDomain).1.mpr accepted with ⟨items, read⟩
  rw [refused] at read
  cases read

end Domain
end Sensornet
