import Sensornet.Proofs.Metric.Grammar
import Sensornet.Proofs.Metric.Spelling
import Sensornet.Proofs.Session.Longer
import Sensornet.Proofs.Session.Recognition

namespace Sensornet

/-!
# One row for each metric that is asked for

Metrics are asked for by fields that may hold anything.  What is meant is the
identity that these fields have in canonical words, and nothing else of them
decides which metric is given.  The first time that an identity is asked for, a
row is written, which has the other fields as well; later calls find this row,
and what else their fields hold is not looked at.

A descriptor of zones is read with the same synonyms, so it stands for the
metric that was asked for in the words of the descriptor.
-/

open Fixture (Row)
open Json (Value Fields)

/-- What is written over a table is what is found there, and elsewhere the table. -/
theorem Entries.get?_insertAll {K V : Type} [DecidableEq K] {more : List (K × V)}
    (apart : Entries.Distinct more) (key : K) (entries : List (K × V)) :
    Entries.get? key (Entries.insertAll entries more) =
      (Entries.get? key more).or (Entries.get? key entries) := by
  cases found : Entries.get? key more with
  | some value => exact (Holds.of_get? apart found).get?_insertAll entries
  | none =>
    rw [Option.none_or]
    clear apart
    induction more generalizing entries with
    | nil => rfl
    | cons entry rest ih =>
      rw [get?_eq_none_iff, keys, List.map_cons, List.mem_cons, not_or] at found
      exact (ih _ (get?_eq_none_iff.mpr found.2)).trans (get?_insert_of_ne found.1 _ entries)

namespace Metric

/-! ## What fields ask for -/

/-- A value with the canonical word in the place of a text. -/
def respell (canonical : String -> String) : Value -> Value
  | .text word => .text (canonical word)
  | value => value

/-- The canonical word for a value.  What is missing or no text counts as the empty
text, and this is not a word that is looked up. -/
def wordOf (canonical : String -> String) (value : Option Value) : String :=
  ((value.bind Value.text?).map canonical).getD ""

/-- The identity that fields ask for. -/
def Identity.asked (aliases : Aliases) (fields : Fields) : Identity where
  category := wordOf aliases.category (Entries.get? "category" fields)
  interval := wordOf aliases.interval (Entries.get? "interval" fields)
  target := wordOf id (Entries.get? "target_id" fields)

theorem bind_text?_respell (canonical : String -> String) (value : Option Value) :
    (value.map (respell canonical)).bind Value.text? = (value.bind Value.text?).map canonical := by
  cases value with
  | none => rfl
  | some value => cases value <;> rfl

theorem get?_canonicalize (synonyms : List (String × String)) (key : String) (fields : Fields) :
    Entries.get? key (canonicalize synonyms key fields) =
      (Entries.get? key fields).map
        (respell fun word => (Entries.get? word synonyms).getD word) := by
  cases held : Entries.get? key fields with
  | none =>
    unfold canonicalize
    simp only [held]
    rfl
  | some value =>
    cases value with
    | text word => exact get?_canonicalize_self held
    | _ =>
      unfold canonicalize
      simp only [held]
      rfl

section

variable {fields : Fields} (aliases : Aliases) (table : Int)

theorem get?_complete_category (apart : Entries.Distinct fields) :
    Entries.get? "category" (complete aliases table fields) =
      (Entries.get? "category" fields).map (respell aliases.category) := by
  unfold complete
  rw [get?_canonicalize_of_ne (by decide), get?_canonicalize, Entries.get?_insertAll apart]
  exact congrArg _ (Option.or_none ..)

theorem get?_complete_interval (apart : Entries.Distinct fields) :
    Entries.get? "interval" (complete aliases table fields) =
      (Entries.get? "interval" fields).map (respell aliases.interval) := by
  unfold complete
  rw [get?_canonicalize, get?_canonicalize_of_ne (by decide), Entries.get?_insertAll apart]
  exact congrArg _ (Option.or_none ..)

theorem get?_complete_of_ne (apart : Entries.Distinct fields) {key : String}
    (noCategory : key ≠ "category") (noInterval : key ≠ "interval") :
    Entries.get? key (complete aliases table fields) =
      (Entries.get? key fields).or (Entries.get? key (defaults table)) := by
  unfold complete
  rw [get?_canonicalize_of_ne noInterval, get?_canonicalize_of_ne noCategory,
    Entries.get?_insertAll apart]

theorem asked_eq_ofFields (apart : Entries.Distinct fields) :
    Identity.ofFields (complete aliases table fields) = .asked aliases fields := by
  have target : Entries.get? "target_id" (complete aliases table fields) =
      (Entries.get? "target_id" fields).or none :=
    get?_complete_of_ne aliases table apart (by decide) (by decide)
  unfold Identity.ofFields Identity.asked textOf wordOf
  rw [get?_complete_category aliases table apart, get?_complete_interval aliases table apart,
    target, bind_text?_respell, bind_text?_respell, Option.or_none, Option.map_id_fun, id]

end

/-- The words of fields that have words, in canonical form. -/
theorem AsksFor.asked {fields : Fields} {identity : Identity} (asks : AsksFor fields identity)
    (aliases : Aliases) : Identity.asked aliases fields = identity.canonical aliases := by
  unfold Identity.asked
  rw [asks.category, asks.interval, asks.target]
  rfl

end Metric

/-! ## What a first call writes -/

/-- A metric row under an id, with the fields that it was asked for over what every
metric has, and with canonical words. -/
structure Fixture.Row.Completes (row : Row) (aliases : Metric.Aliases) (table : Int)
    (fields : Fields) (id : String) : Prop where
  model : row.model = Fixture.Model.metric
  key : row.key = .text id
  apart : Entries.Distinct row.fields
  id : row.field? "id" = some (.text id)
  category : row.field? "category" =
    (Entries.get? "category" fields).map (Metric.respell aliases.category)
  interval : row.field? "interval" =
    (Entries.get? "interval" fields).map (Metric.respell aliases.interval)
  others : ∀ key ∉ ["id", "category", "interval"],
    row.field? key = (Entries.get? key fields).or (Entries.get? key (Metric.defaults table))

theorem Metric.distinct_canonicalize {fields : Fields} (apart : Entries.Distinct fields)
    (synonyms : List (String × String)) (key : String) :
    Entries.Distinct (canonicalize synonyms key fields) := by
  unfold canonicalize
  split
  · split
    · exact Entries.distinct_insert apart key _
    · exact apart
  · exact apart

theorem Metric.completes_row (aliases : Aliases) (table : Int) {fields : Fields}
    (apart : Entries.Distinct fields) (id : String) :
    (row (complete aliases table fields) id).Completes aliases table fields id where
  model := rfl
  key := rfl
  apart := by
    have defaults : Entries.Distinct (defaults table) := by
      have keys : Entries.keys (Metric.defaults table) = Entries.keys (Metric.defaults 0) := rfl
      unfold Entries.Distinct
      rw [keys]
      decide
    exact Entries.distinct_insert (distinct_canonicalize (distinct_canonicalize
      (Entries.distinct_insertAll defaults fields) _ _) _ _) _ _
  id := Entries.get?_insert_self _ _ _
  category := (Entries.get?_insert_of_ne (by decide) _ _).trans
    (get?_complete_category aliases table apart)
  interval := (Entries.get?_insert_of_ne (by decide) _ _).trans
    (get?_complete_interval aliases table apart)
  others := by
    intro key other
    rw [List.mem_cons, List.mem_cons, List.mem_singleton, not_or, not_or] at other
    exact (Entries.get?_insert_of_ne other.1 _ _).trans
      (get?_complete_of_ne aliases table apart other.2.1 other.2.2)

namespace Session

variable {s t : Session}

theorem identityFor_eq_asked (s : Session) {fields : Fields} (apart : Entries.Distinct fields) :
    s.identityFor fields = .asked s.aliases fields :=
  Metric.asked_eq_ofFields _ _ apart

/-- The metrics that are known are those that have rows. -/
theorem Indexed.mem_identities_iff (indexed : s.Indexed) {identity : Metric.Identity} :
    identity ∈ s.identities ↔ identity ∈ s.rows.filterMap Network.identity? := by
  have unknown := Network.metric?_index_eq_none_iff s.rows identity
  rw [← indexed] at unknown
  exact not_iff_not.mp (Entries.get?_eq_none_iff.symm.trans unknown)

/-- A metric that is not known yet is given a row, and of a metric that is known no row
changes. -/
theorem rows_obtainMetric (s : Session) {fields : Fields} (apart : Entries.Distinct fields) :
    let result := s.obtainMetric fields
    if Metric.Identity.asked s.aliases fields ∈ s.identities then result.2.rows = s.rows
    else
      ∃ row, result.2.rows = s.rows ++ [row] ∧
        row.Completes s.aliases s.options.storageTable fields result.1 := by
  intro result
  rw [← s.identityFor_eq_asked apart]
  split
  · next among =>
    obtain ⟨id, known⟩ := Option.isSome_iff_exists.mp ((s.mem_identities_iff _).mp among)
    exact (rows_obtainMetric_known known).2
  · next absent =>
    have unknown : s.network.metric? (s.identityFor fields) = none :=
      Entries.get?_eq_none_iff.mpr absent
    exact ⟨_, s.rows_obtainMetric_of_unknown unknown, Metric.completes_row _ _ apart _⟩

/-! ## One after the other -/

theorem moves_obtainAll (s : Session) (asked : List Fields) : Moves s (s.obtainAll asked) :=
  Moves.foldl s asked fun t fields _ => moves_obtainMetric t fields

/-- The metrics that are asked for become known. -/
theorem identities_obtainAll (s : Session) (asked : List Fields) :
    (s.obtainAll asked).identities = addAllNew s.identities (asked.map s.identityFor) := by
  induction asked generalizing s with
  | nil => rfl
  | cons fields rest ih =>
    have later : rest.map (s.obtainMetric fields).2.identityFor = rest.map s.identityFor :=
      List.map_congr_left fun others _ => identityFor_of_moves (moves_obtainMetric s fields) others
    have onward : s.obtainAll (fields :: rest) = (s.obtainMetric fields).2.obtainAll rest := rfl
    rw [onward, ih, later, identities_obtainMetric]
    rfl

section

variable {asked before : List Fields} {fields : Fields}
  (apart : ∀ fields ∈ asked, Entries.Distinct fields) (call : before ++ [fields] <+: asked)

include apart call

/-- What a call gives is known at the end. -/
theorem metric?_obtainAll (s : Session) :
    (s.obtainAll asked).network.metric? (.asked s.aliases fields) =
      some ((s.obtainAll before).obtainMetric fields).1 := by
  rw [← s.identityFor_eq_asked (apart fields (call.subset List.mem_concat_self))]
  rcases call with ⟨after, rfl⟩
  have onward : s.obtainAll (before ++ [fields] ++ after) =
      ((s.obtainAll before).obtainMetric fields).2.obtainAll after := by
    unfold obtainAll
    rw [List.foldl_append, List.foldl_append, List.foldl_cons, List.foldl_nil]
  have known := (s.obtainAll before).metric?_obtainMetric fields
  rw [identityFor_of_moves (moves_obtainAll s before)] at known
  rw [onward]
  exact (moves_obtainAll _ after).metric? known

/-- The first call for a metric without a row has its row written, and no other call
changes a row. -/
theorem rows_obtainAll (indexed : s.Indexed) :
    let u := s.obtainAll before
    let result := u.obtainMetric fields
    if Metric.Identity.asked s.aliases fields ∈
        s.rows.filterMap Network.identity? ++ before.map (Metric.Identity.asked s.aliases) then
      result.2.rows = u.rows
    else
      ∃ row, result.2.rows = u.rows ++ [row] ∧
        row.Completes s.aliases s.options.storageTable fields result.1 := by
  have run := moves_obtainAll s before
  have written := (s.obtainAll before).rows_obtainMetric
    (apart fields (call.subset List.mem_concat_self))
  have earlier : before.map s.identityFor = before.map (Metric.Identity.asked s.aliases) :=
    List.map_congr_left fun others among =>
      s.identityFor_eq_asked (apart others (call.subset (List.mem_append_left _ among)))
  simp only [identities_obtainAll, earlier, mem_addAllNew, indexed.mem_identities_iff,
    ← List.mem_append, run.settings.1, run.settings.2.1] at written
  exact written

end

/-- If no id is there twice, identities with one id are one identity. -/
theorem eq_iff_of_metric? (unique : t.metricIds.Nodup) {first second : Metric.Identity}
    {id other : String} (known : t.network.metric? first = some id)
    (knownToo : t.network.metric? second = some other) : id = other ↔ first = second := by
  constructor
  · intro same
    by_contra different
    exact ne_of_metric? unique known knownToo different same
  · rintro rfl
    exact Option.some.inj (known.symm.trans knownToo)

/-- A descriptor of zones stands for the metric that was asked for in its words. -/
theorem metricIds_of_asksFor {fields : Fields} {word category interval target id : String}
    (asks : Metric.AsksFor fields ⟨category, interval, target⟩)
    (noPoints : '.' ∉ category.toList ∧ '.' ∉ interval.toList)
    (zones : Text.lowerAscii word = "zone")
    (known : s.network.metric? (.asked s.aliases fields) = some id) :
    ∃ d, Metric.Descriptor.ofText? s.aliases
        (Metric.Descriptor.text ⟨word, category, interval⟩) = some d ∧
      ∀ zone : Zone, zone.id = target -> s.network.metricIds d (.zone zone) = [id] := by
  have plain : '.' ∉ word.toList := by
    refine (Metric.not_mem_of_known ?_).1
    rw [zones]
    exact List.mem_cons_self
  refine ⟨_, Metric.Descriptor.ofText?_text s.aliases plain noPoints.1 noPoints.2, ?_⟩
  rintro zone rfl
  rw [asks.asked] at known
  have means : Metric.Descriptor.meansZones
      ⟨word, s.aliases.category category, s.aliases.interval interval⟩ = true :=
    beq_iff_eq.mpr zones
  have own : s.network.metricIdsInZone
      ⟨word, s.aliases.category category, s.aliases.interval interval⟩ zone =
        (s.network.metric? (Metric.Identity.canonical s.aliases
          ⟨category, interval, zone.id⟩)).toList := if_pos means
  exact own.trans (congrArg Option.toList known)

/-! ## Whole histories -/

/-- After any calls to a session without a past, let metrics be asked for one after
the other, by fields that may hold anything.  If there is a free key for whatever is
written, two of them are given one id if and only if they have one identity in
canonical words.  The first for an identity without a row has a row written, and for
the others no row is changed.  Where the words have no points, a descriptor of zones
with these words stands for that id, and for no other, in a zone that is the target. -/
theorem ids_obtainAll {options : Options} {supply : Nat} {calls : List Call}
    {asked : List Fields} (apart : ∀ fields ∈ asked, Entries.Distinct fields)
    (nameable : ∀ row ∈ (((start options supply).run calls).obtainAll asked).rows,
      row.Nameable (((start options supply).run calls).obtainAll asked).registry) :
    let s := (start options supply).run calls
    let aliases := options.allAliases
    (∀ before fields others more, before ++ [fields] <+: asked -> others ++ [more] <+: asked ->
      (((s.obtainAll before).obtainMetric fields).1 = ((s.obtainAll others).obtainMetric more).1 ↔
        Metric.Identity.asked aliases fields = Metric.Identity.asked aliases more)) ∧
    (∀ before fields, before ++ [fields] <+: asked ->
      let u := s.obtainAll before
      let result := u.obtainMetric fields
      if Metric.Identity.asked aliases fields ∈
          s.rows.filterMap Network.identity? ++ before.map (Metric.Identity.asked aliases) then
        result.2.rows = u.rows
      else
        ∃ row, result.2.rows = u.rows ++ [row] ∧
          row.Completes aliases options.storageTable fields result.1) ∧
    ∀ before fields word category interval target, before ++ [fields] <+: asked ->
      Metric.AsksFor fields ⟨category, interval, target⟩ ->
      '.' ∉ category.toList ∧ '.' ∉ interval.toList -> Text.lowerAscii word = "zone" ->
      ∃ d, Metric.Descriptor.ofText? aliases
          (Metric.Descriptor.text ⟨word, category, interval⟩) = some d ∧
        ∀ zone : Zone, zone.id = target ->
          (s.obtainAll asked).network.metricIds d (.zone zone) =
            [((s.obtainAll before).obtainMetric fields).1] := by
  intro s aliases
  have begun : Moves (start options supply) s := moves_run _ calls
  have began : (start options supply).Indexed := rfl
  have whole : Moves (start options supply) (s.obtainAll asked) :=
    begun.trans (moves_obtainAll s asked)
  have synonyms : s.aliases = aliases := begun.settings.2.1
  have unique : (s.obtainAll asked).metricIds.Nodup :=
    ((catalogued_start options supply).moves began whole).nodup_metricIds
      (fresh_of_nameable whole nameable)
  refine ⟨fun before fields others more call callToo => ?_, fun before fields call => ?_,
    fun before fields word category interval target call asks noPoints zones => ?_⟩
  · rw [← synonyms]
    exact eq_iff_of_metric? unique (metric?_obtainAll apart call s)
      (metric?_obtainAll apart callToo s)
  · have written := rows_obtainAll apart call (began.moves begun)
    rw [synonyms, begun.settings.1] at written
    exact written
  · have synonymsToo : (s.obtainAll asked).aliases = aliases := whole.settings.2.1
    have known := metric?_obtainAll apart call s
    rw [synonyms, ← synonymsToo] at known
    rw [← synonymsToo]
    exact metricIds_of_asksFor asks noPoints zones known

/-- The demand of a zone is asked for by a short word, by the long word for the same
interval, and at another interval. -/
def demandsAsked : List Fields :=
  [demandFields "qh", demandFields "QUARTER_HOUR", demandFields "daily"]

/-- The first two are one metric with one row, and the third is another one. -/
theorem ids_obtainAll_demandsAsked :
    let s := (start .default 0).run []
    let t := s.obtainAll demandsAsked
    let twice := s.obtainAll [demandFields "qh", demandFields "QUARTER_HOUR"]
    let first := (s.obtainAll []).obtainMetric (demandFields "qh")
    let second := (s.obtainAll [demandFields "qh"]).obtainMetric (demandFields "QUARTER_HOUR")
    let third := twice.obtainMetric (demandFields "daily")
    (∀ fields ∈ demandsAsked, Entries.Distinct fields) ∧
      (∀ row ∈ t.rows, row.Nameable t.registry) ∧
      first.1 = second.1 ∧ first.1 ≠ third.1 ∧
      second.2.rows = (s.obtainAll [demandFields "qh"]).rows ∧
      (∃ row, third.2.rows = twice.rows ++ [row] ∧
        row.Completes Options.default.allAliases Options.default.storageTable
          (demandFields "daily") third.1) ∧
      ∃ d, Metric.Descriptor.ofText? Options.default.allAliases
          (Metric.Descriptor.text ⟨"Zone", "zone_demand", "qh"⟩) = some d ∧
        t.network.metricIds d (.zone ⟨"pl-1", "North", []⟩) = [first.1] := by
  -- the abbreviations are written out, as no session is to be computed for comparing terms
  dsimp only
  have apart : ∀ fields ∈ demandsAsked, Entries.Distinct fields := by
    unfold demandsAsked
    simp only [List.forall_mem_cons, (asksFor_demandFields _).apart, true_and]
    exact List.forall_mem_nil _
  have policy : (((start .default 0).run []).obtainAll demandsAsked).registry.policy =
      .deterministic := by
    decide +kernel
  have nameable : ∀ row ∈ (((start .default 0).run []).obtainAll demandsAsked).rows,
      row.Nameable (((start .default 0).run []).obtainAll demandsAsked).registry :=
    Row.nameable_of_all policy (by decide : 1 < Fixture.Registry.maxAttempts) (by decide +kernel)
  have firstCall : [] ++ [demandFields "qh"] <+: demandsAsked := ⟨_, rfl⟩
  have secondCall : [demandFields "qh"] ++ [demandFields "QUARTER_HOUR"] <+: demandsAsked :=
    ⟨_, rfl⟩
  have thirdCall : [demandFields "qh", demandFields "QUARTER_HOUR"] ++ [demandFields "daily"] <+:
      demandsAsked := ⟨_, rfl⟩
  rcases ids_obtainAll apart nameable with ⟨sameId, rows, descriptors⟩
  have again := rows _ _ secondCall
  have new := rows _ _ thirdCall
  rw [if_pos (by decide +kernel)] at again
  rw [if_neg (by decide +kernel)] at new
  rcases descriptors _ _ "Zone" _ _ _ firstCall (asksFor_demandFields "qh") (by decide +kernel)
    (by decide +kernel) with ⟨d, read, stands⟩
  refine ⟨apart, nameable, ?_, ?_, again, new, d, read, stands _ rfl⟩
  · exact (sameId _ _ _ _ firstCall secondCall).mpr (by decide +kernel)
  · intro same
    exact absurd ((sameId _ _ _ _ firstCall thirdCall).mp same) (by decide +kernel)

end Session
end Sensornet
