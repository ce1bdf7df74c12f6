import Sensornet.Proofs.Resolution.Inputs
import Sensornet.Proofs.Resolution.Shape

namespace Sensornet
namespace Resolution

/-!
# Lists of metrics are flattened completely

A list inside a list of metrics is resolved first, flattened by one level, and
freed of repeats on its own.  Then the list around it is treated alike, which
sees the result of the inner one.  Yet dropping repeats early makes no
difference to dropping them at the end.  So however the lists are nested, the
outermost one becomes one list without repeats: of what the texts stand for
that are reached through lists only, in the order of the texts.
-/

open Json (Value Path)

namespace Scene

/-- What the entries of a list of metrics contribute, one after the other. -/
def contributions (s : Scene) (raws : List String) : List String :=
  (raws.flatMap s.entryTexts).filter fun t => !t.isEmpty

theorem contributions_append (s : Scene) (first second : List String) :
    s.contributions (first ++ second) = s.contributions first ++ s.contributions second := by
  simp [contributions]

mutual

/-- What a value stands for adds to any list what its texts contribute. -/
theorem addAllNew_listed (s : Scene) :
    ∀ (value : Value) (seen : List String),
      addAllNew seen (s.listed value) = addAllNew seen (s.contributions (leaves value))
  | .text raw, _ => by simp [listed, leaves, contributions]
  | .array items, seen => by
    rw [listed, leaves, addAllNew_distinct, addAllNew_listedAll s items]
  | .number _, _ => rfl
  | .object _, _ => rfl
  | .null, _ => rfl
  | .bool _, _ => rfl

theorem addAllNew_listedAll (s : Scene) :
    ∀ (items : List Value) (seen : List String),
      addAllNew seen (s.listedAll items) = addAllNew seen (s.contributions (leavesAll items))
  | [], _ => rfl
  | item :: rest, seen => by
    rw [listedAll, leavesAll, contributions_append, addAllNew_append, addAllNew_append,
      addAllNew_listed s item, addAllNew_listedAll s rest]

end

theorem Gives.flattened {s : Scene} {items : List Value} {result : Value}
    (gives : s.Gives .metricList (.array items) result) :
    result = .array ((distinct (s.contributions (leavesAll items))).map .text) := by
  rcases gives with ⟨p, rfl⟩
  have inner := flatMap_metricTexts_resolveItems s items p
  have once : distinct (s.listedAll items) = distinct (s.contributions (leavesAll items)) :=
    s.addAllNew_listedAll items []
  calc
    ((s.resolveUnder .metricList (.array items)).run p).1 =
        flatten ((s.resolveItems .metricList items).run p).1 := rfl
    _ = .array ((distinct (s.listedAll items)).map .text) := by rw [flatten, inner]
    _ = .array ((distinct (s.contributions (leavesAll items))).map .text) := by rw [once]

/-- A list under a key of metrics becomes the list, without repeats and in order of
first occurrence, of all texts but the empty one that the texts contribute which
are reached through lists only.  This holds wherever the key stands; and a path
that led to the list in the written value, without going into a list that does not
keep its items, leads to this in the resolved value. -/
theorem metrics_resolve (s : Scene) (items : List Value) (p : Progress) :
    (∀ key ∈ metricKeys, ((s.resolveUnder (Rule.ofKey key s.context) (.array items)).run p).1 =
      .array ((distinct (s.contributions (leavesAll items))).map .text)) ∧
    ∀ (value : Value) (path : Path), value.at? path = some (.array items) ->
      ListsMetrics path.key? -> Outside s.context none path ->
      ((s.resolve value).run p).1.at? path =
        some (.array ((distinct (s.contributions (leavesAll items))).map .text)) := by
  constructor
  · intro key listed
    have rule : Rule.ofKey key s.context = .metricList :=
      Rule.below_eq_metricList_iff.mpr ⟨key, listed, rfl⟩
    rw [rule]
    exact Gives.flattened ⟨p, rfl⟩
  · intro value path found listed outside
    have rule : Rule.below s.context (path.keyBelow none) = .metricList :=
      Rule.below_eq_metricList_iff.mpr listed
    have gives : s.Gives (Rule.below s.context none) value ((s.resolve value).run p).1 := ⟨p, rfl⟩
    rcases gives.at? outside found with ⟨part, there, made | ⟨_, filled⟩⟩
    · rw [rule] at made
      rw [there, made.flattened]
    · cases filled

/-- A list with repeats in the lists inside it, and with other things than texts. -/
def nestedMetrics : List Value :=
  [ .text "m-1", .array [.text "[FILL]", .array [.text "m-1", .object [("id", .text "m-2")]]]
  , .null, .text "", .array [.array [.text "[[zone_id]]"], .text "[[zone_label]]"] ]

/-- In a zone, it becomes one list of three texts. -/
theorem metrics_resolve_nested :
    let s : Scene := ⟨.empty, .empty, .builtin, .zone ⟨"pl-1", "North", []⟩⟩
    let value := Value.object [("rows", .array [.object [("metrics", .array nestedMetrics)]])]
    let path : Path := [.member "rows", .item 0, .member "metrics"]
    value.at? path = some (.array nestedMetrics) ∧ ListsMetrics path.key? ∧
      Outside s.context none path ∧
      ((s.resolve value).run ⟨.start .deterministic 0, []⟩).1.at? path =
        some (.array [.text "m-1", .text "pl-1", .text "North"]) := by
  intro s value path
  have found : value.at? path = some (.array nestedMetrics) := rfl
  have listed : ListsMetrics path.key? := by decide
  have outside : Outside s.context none path := ⟨by decide, trivial⟩
  have once : distinct (s.contributions (leavesAll nestedMetrics)) = ["m-1", "pl-1", "North"] := by
    decide +kernel
  have resolved := (s.metrics_resolve nestedMetrics ⟨.start .deterministic 0, []⟩).2
    value path found listed outside
  rw [once] at resolved
  exact ⟨found, listed, outside, resolved⟩

end Scene
end Resolution
end Sensornet
