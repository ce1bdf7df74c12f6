import Sensornet.Proofs.Session.Accounts
import Sensornet.Proofs.Session.Attained
import Sensornet.Proofs.Session.Identities
import Sensornet.Proofs.Session.Inventory

namespace Sensornet

/-!
# Which metrics are found again

A metric that is asked for is looked up under canonical words, and a row is
known under the words it was written with.  A session writes its own rows in
canonical words, so it finds them again.  A row that was there before is found
exactly when its words are canonical: otherwise a second row is written for the
same metric, whatever words it is asked for in.
-/

open Fixture (Row)
open Json (Value Fields)

/-- Where keys do not repeat, what is under a key is one value. -/
theorem Entries.Holds.of_get? {K V : Type} [DecidableEq K] {entries : List (K × V)}
    (apart : Entries.Distinct entries) {key : K} {value : V}
    (held : Entries.get? key entries = some value) : Entries.Holds entries key value := by
  intro other
  constructor
  · intro member
    exact Option.some.inj ((Entries.get?_of_mem apart member).symm.trans held)
  · rintro rfl
    exact Entries.mem_of_get? held

namespace Metric
namespace Identity

/-- The identity under canonical words. -/
def canonical (aliases : Aliases) (identity : Identity) : Identity :=
  ⟨aliases.category identity.category, aliases.interval identity.interval, identity.target⟩

/-- One identity is a spelling of another: the canonical one, or one that has the
same canonical one. -/
def Spells (aliases : Aliases) (identity other : Identity) : Prop :=
  identity = other.canonical aliases ∨ identity.canonical aliases = other.canonical aliases

end Identity

/-- Fields that say, once each, what metric is asked for. -/
structure AsksFor (fields : Fields) (asked : Identity) : Prop where
  apart : Entries.Distinct fields
  category : Entries.get? "category" fields = some (.text asked.category)
  interval : Entries.get? "interval" fields = some (.text asked.interval)
  target : Entries.get? "target_id" fields = some (.text asked.target)

end Metric

/-- A metric row that has these words. -/
structure Fixture.Row.IsMetric (row : Row) (identity : Metric.Identity) : Prop where
  model : row.model = Fixture.Model.metric
  category : row.text? "category" = some identity.category
  interval : row.text? "interval" = some identity.interval
  target : row.text? "target_id" = some identity.target

theorem Fixture.Row.IsMetric.identity? {row : Row} {identity : Metric.Identity}
    (metric : row.IsMetric identity) : Network.identity? row = some identity := by
  unfold Network.identity? Network.identityOf Row.textOf
  rw [if_pos metric.model, metric.category, metric.interval, metric.target]
  rfl

/-- The network knows the first metric row of an identity. -/
theorem Network.metric?_index (rows : List Row) (identity : Metric.Identity) :
    (empty.index rows).metric? identity =
      (rows.find? fun row => identity? row = some identity).map fun row => row.key.shown := by
  induction rows using List.reverseRecOn with
  | nil => rfl
  | append_singleton rows row ih =>
    rw [index_concat, metric?_indexRow, ih, List.find?_append, Option.map_or]
    by_cases own : identity? row = some identity
    · rw [if_pos own, List.find?_cons_of_pos (by simpa using own)]
      rfl
    · rw [if_neg own, List.find?_cons_of_neg (by simpa using own)]
      rfl

namespace Session

variable {s t : Session}

theorem identityFor_of_asksFor {fields : Fields} {asked : Metric.Identity}
    (asks : Metric.AsksFor fields asked) : s.identityFor fields = asked.canonical s.aliases :=
  Metric.identity_complete ((Entries.Holds.of_get? asks.apart asks.category).get?_insertAll _)
    ((Entries.Holds.of_get? asks.apart asks.interval).get?_insertAll _)
    ((Entries.Holds.of_get? asks.apart asks.target).get?_insertAll _)

/-- The only row of an identity is the one that the network knows. -/
theorem Indexed.metric?_of_only (indexed : s.Indexed) {position : Nat} {row : Row}
    (stands : s.rows[position]? = some row) {identity : Metric.Identity}
    (own : Network.identity? row = some identity)
    (only : ∀ (place : Nat) (other : Row), s.rows[place]? = some other ->
      Network.identity? other = some identity -> place = position) :
    s.network.metric? identity = some row.key.shown := by
  rw [indexed, Network.metric?_index]
  cases found : s.rows.find? fun row => Network.identity? row = some identity with
  | none =>
    have unknown := List.find?_eq_none.mp found row (List.mem_of_getElem? stands)
    exact absurd own (by simpa using unknown)
  | some first =>
    have same : Network.identity? first = some identity := by simpa using List.find?_some found
    rcases List.getElem?_of_mem (List.mem_of_find?_eq_some found) with ⟨place, there⟩
    cases only place first there same
    rw [Option.some.inj (there.symm.trans stands)]
    rfl

theorem rows_obtainMetric_known {fields : Fields} {id : String}
    (known : s.network.metric? (s.identityFor fields) = some id) :
    (s.obtainMetric fields).1 = id ∧ (s.obtainMetric fields).2.rows = s.rows := by
  rcases s.obtainMetric_known known with ⟨notice, same⟩
  rw [same]
  exact ⟨rfl, rfl⟩

theorem rows_obtainMetric_new {fields : Fields}
    (unknown : s.network.metric? (s.identityFor fields) = none) :
    ∃ row, (s.obtainMetric fields).2.rows = s.rows ++ [row] ∧
      Network.identity? row = some (s.identityFor fields) :=
  ⟨_, s.rows_obtainMetric_of_unknown unknown, Network.identity?_metricRow _ _⟩

theorem aliases_run (options : Options) (supply : Nat) (existing : List Row) (calls : List Call) :
    ((resume options supply existing).run calls).aliases = options.allAliases :=
  (moves_run _ calls).settings.2.1.trans (resume_parts options supply existing).2.1

/-- After any calls, whatever rows they went on from, let a metric have one row, in
whatever words, and let it be asked for in words that mean the same.  If the words
of the row are canonical, the row is found and none is appended.  If they are
not, a second row of the metric is. -/
theorem obtainMetric_recognises (options : Options) (supply : Nat) (existing : List Row)
    (calls : List Call) {position : Nat} {row : Row} {identity asked : Metric.Identity}
    {fields : Fields} :
    let s := (resume options supply existing).run calls
    s.rows[position]? = some row -> row.IsMetric identity ->
    (∀ (place : Nat) (other : Row), s.rows[place]? = some other ->
      ∀ known, Network.identity? other = some known ->
        known.Spells options.allAliases identity -> place = position) ->
    Metric.AsksFor fields asked ->
    asked.canonical options.allAliases = identity.canonical options.allAliases ->
      let result := s.obtainMetric fields
      if identity.canonical options.allAliases = identity then
        result.1 = row.key.shown ∧ result.2.rows = s.rows
      else
        ∃ second, result.2.rows = s.rows ++ [second] ∧
          Network.identity? second = some (identity.canonical options.allAliases) := by
  intro s stands metric only asks same result
  have indexed : s.Indexed := (indexed_resume options supply existing).moves (moves_run _ calls)
  have wanted : s.identityFor fields = identity.canonical options.allAliases := by
    rw [identityFor_of_asksFor asks, aliases_run, same]
  split
  · next canonical =>
    have known : s.network.metric? (s.identityFor fields) = some row.key.shown := by
      rw [wanted, canonical]
      exact indexed.metric?_of_only stands metric.identity? fun place other there own =>
        only place other there identity own (Or.inr rfl)
    exact rows_obtainMetric_known known
  · next spelled =>
    have unknown : s.network.metric? (s.identityFor fields) = none := by
      rw [wanted, indexed, Network.metric?_index_eq_none_iff]
      intro among
      rcases List.mem_filterMap.mp among with ⟨other, member, own⟩
      rcases List.getElem?_of_mem member with ⟨place, there⟩
      -- a row with canonical words would be the only row, which has other words
      cases only place other there _ own (Or.inl rfl)
      cases Option.some.inj (there.symm.trans stands)
      exact spelled (Option.some.inj (own.symm.trans metric.identity?))
    rw [← wanted]
    exact rows_obtainMetric_new unknown

/-- A metric row for the demand of a zone. -/
def demandRow (interval : String) : Row :=
  ⟨Fixture.Model.metric, .text "m-1",
    [ ("id", .text "m-1"), ("category", .text "zone_demand"), ("interval", .text interval)
    , ("target_id", .text "pl-1") ]⟩

/-- What the demand of the zone is asked for by. -/
def demandFields (interval : String) : Fields :=
  [("category", .text "zone_demand"), ("interval", .text interval), ("target_id", .text "pl-1")]

theorem isMetric_demandRow (interval : String) :
    (demandRow interval).IsMetric ⟨"zone_demand", interval, "pl-1"⟩ :=
  ⟨rfl, rfl, rfl, rfl⟩

theorem asksFor_demandFields (interval : String) :
    Metric.AsksFor (demandFields interval) ⟨"zone_demand", interval, "pl-1"⟩ where
  apart := by
    have keys : Entries.keys (demandFields interval) = ["category", "interval", "target_id"] := rfl
    unfold Entries.Distinct
    rw [keys]
    decide
  category := rfl
  interval := rfl
  target := rfl

/-- Asked for by its short word, a metric that is stored under the long one is
found. -/
theorem obtainMetric_recognises_long :
    let row := demandRow "QUARTER_HOUR"
    let s := resume Options.default 0 [row]
    s.rows = [row] ∧ (s.obtainMetric (demandFields "qh")).1 = "m-1" ∧
      (s.obtainMetric (demandFields "qh")).2.rows = [row] := by
  intro row s
  have rows : s.rows = [row] := rows_resume _ _ _
  have stands : s.rows[0]? = some row := congrArg (·[0]?) rows
  have alone : ∀ (place : Nat) (other : Row), s.rows[place]? = some other -> place = 0 := by
    intro place other there
    rw [rows] at there
    exact Nat.lt_one_iff.mp (List.getElem?_eq_some_iff.mp there).1
  have found := obtainMetric_recognises Options.default 0 [row] [] stands (isMetric_demandRow _)
    (fun place other there known own spells => alone place other there)
    (asksFor_demandFields "qh") (by decide +kernel)
  rw [if_pos (by decide +kernel)] at found
  exact ⟨rows, found.1, found.2.trans rows⟩

/-- A metric that is stored under the short word is not found, and another row is
written for it. -/
theorem obtainMetric_twice_short :
    let row := demandRow "qh"
    let result := (resume Options.default 0 [row]).obtainMetric (demandFields "qh")
    row.IsMetric ⟨"zone_demand", "qh", "pl-1"⟩ ∧
      Metric.AsksFor (demandFields "qh") ⟨"zone_demand", "qh", "pl-1"⟩ ∧
      result.1 ≠ row.key.shown ∧
      result.2.rows.map Network.identity? =
        [some ⟨"zone_demand", "qh", "pl-1"⟩, some ⟨"zone_demand", "QUARTER_HOUR", "pl-1"⟩] := by
  intro row result
  exact ⟨isMetric_demandRow "qh", asksFor_demandFields "qh", by decide +kernel, by decide +kernel⟩

end Session
end Sensornet
