import Sensornet.Proofs.Session.Readings

namespace Sensornet

/-!
# What is there to stay

A session that goes on never takes anything back.  A target keeps its place
under its category and label, a link stays written, and the trigger of an
output stays in its row, under its key.  Rows that are no triggers are not
touched at all.  So what was found once is found again, at the same place, by
anybody who starts from the rows of the end.
-/

open Fixture (Key Row Registry)

namespace Session

variable {models : List String} {asks : Session -> Trigger -> Prop} {s t : Session}

/-! ## Targets -/

theorem targetsNamed_noteTarget (n : Network) (kind label id category under : String) :
    n.targetsNamed category under <+: (n.noteTarget kind label id).targetsNamed category under := by
  by_cases same : (category, under) = (kind, label)
  · cases same
    rw [n.targetsNamed_noteTarget_self]
    exact prefix_addNew _ _
  · rw [n.targetsNamed_noteTarget_of_ne same]

theorem targetsNamed_indexRow (n : Network) (row : Row) (position : Nat) (kind label : String) :
    n.targetsNamed kind label <+: (n.indexRow row position).targetsNamed kind label := by
  by_cases polygon : row.model = Fixture.Model.polygon
  · rw [n.indexRow_polygon polygon]
    exact targetsNamed_noteTarget n _ _ _ kind label
  · by_cases point : row.model = Fixture.Model.point
    · rw [n.indexRow_point point]
      split <;> exact targetsNamed_noteTarget n _ _ _ kind label
    · unfold Network.targetsNamed
      rw [(targets_indexRow n polygon point position).2.2]

/-- Targets stay under their category and label, in their order. -/
theorem Moves.targetsNamed (run : Moves s t) (kind label : String) :
    s.network.targetsNamed kind label <+: t.network.targetsNamed kind label := by
  induction run with
  | refl => exact List.prefix_refl _
  | @tail u v _ move ih =>
    cases move with
    | quiet same =>
      rw [same.network]
      exact ih
    | @enter registry row issued new =>
      exact ih.trans (targetsNamed_indexRow u.network row u.rows.length kind label)
    | rewrite complete known stands => exact ih

/-! ## Rows -/

/-- A row stays at its place, with its model and its key. -/
theorem Moves.rowAt (run : Moves s t) {position : Nat} {row : Row}
    (stands : s.rows[position]? = some row) :
    ∃ later, t.rows[position]? = some later ∧ later.model = row.model ∧ later.key = row.key := by
  have head : (t.rows.map Row.head)[position]? = some row.head := by
    rcases run.heads with ⟨more, whole⟩
    have below : position < (s.rows.map Row.head).length := by
      rw [List.length_map]
      exact (List.getElem?_eq_some_iff.mp stands).1
    rw [← whole, List.getElem?_append_left below, List.getElem?_map, stands, Option.map_some]
  rw [List.getElem?_map] at head
  rcases Option.map_eq_some_iff.mp head with ⟨later, place, same⟩
  exact ⟨later, place, congrArg Prod.fst same, congrArg Prod.snd same⟩

/-- A row that is no trigger stays as it is. -/
theorem Moves.passive (run : Moves s t) (indexed : s.Indexed) {position : Nat} {row : Row}
    (stands : s.rows[position]? = some row) (other : row.model ≠ Fixture.Model.trigger) :
    t.rows[position]? = some row := by
  induction run with
  | refl => exact stands
  | @tail u v before move ih =>
    cases move with
    | quiet same =>
      rw [same.rows]
      exact ih
    | @enter registry entered issued new =>
      have below : position < u.rows.length := (List.getElem?_eq_some_iff.mp ih).1
      exact (List.getElem?_append_left below).trans ih
    | @rewrite wanted place found complete known held =>
      rcases (indexed.moves before).output?_of_known known with ⟨own, there, writes⟩
      have apart : place ≠ position := by
        rintro rfl
        cases Option.some.inj (there.symm.trans ih)
        exact other (Network.model_of_output? writes)
      exact (List.getElem?_modify_ne _ _ apart).trans ih

/-- Rows without triggers stay, and others come behind them. -/
theorem Moves.rows_prefix (run : Moves s t) (indexed : s.Indexed)
    (others : ∀ row ∈ s.rows, row.model ≠ Fixture.Model.trigger) : s.rows <+: t.rows := by
  apply List.prefix_iff_getElem?.mpr
  intro position below
  exact run.passive indexed (List.getElem?_eq_getElem below) (others _ (List.getElem_mem below))

/-- What is read off rows that are no triggers is read there again. -/
theorem Moves.map_take (run : Moves s t) (indexed : s.Indexed) {A : Type} {read : Row -> Option A}
    (unread : ∀ row : Row, row.model = Fixture.Model.trigger -> read row = none) :
    (t.rows.take s.rows.length).map read = s.rows.map read := by
  apply List.ext_getElem?
  intro position
  rw [List.getElem?_map, List.getElem?_map]
  cases stands : s.rows[position]? with
  | none =>
    have beyond : s.rows.length ≤ position := List.getElem?_eq_none_iff.mp stands
    rw [List.getElem?_take_eq_none beyond]
  | some row =>
    have below : position < s.rows.length := (List.getElem?_eq_some_iff.mp stands).1
    rw [List.getElem?_take_of_lt below]
    by_cases trigger : row.model = Fixture.Model.trigger
    · rcases run.rowAt stands with ⟨later, place, model, _⟩
      rw [place, Option.map_some, Option.map_some, unread row trigger,
        unread later (model.trans trigger)]
    · rw [run.passive indexed stands trigger]

theorem Moves.filterMap_take (run : Moves s t) (indexed : s.Indexed) {A : Type}
    {read : Row -> Option A}
    (unread : ∀ row : Row, row.model = Fixture.Model.trigger -> read row = none) :
    (t.rows.take s.rows.length).filterMap read = s.rows.filterMap read := by
  have same := congrArg (List.filterMap id) (run.map_take indexed unread)
  rw [List.filterMap_map, List.filterMap_map] at same
  exact same

/-- Links stay, in their order. -/
theorem Moves.links (run : Moves s t) (indexed : s.Indexed) :
    s.rows.filterMap Link.ofRow? <+: t.rows.filterMap Link.ofRow? := by
  have unread : ∀ row : Row, row.model = Fixture.Model.trigger -> Link.ofRow? row = none := by
    intro row trigger
    apply ofRow?_eq_none
    rw [trigger]
    decide
  rw [← run.filterMap_take indexed unread]
  exact (List.take_prefix _ _).filterMap _

/-- A metric whose row was written on the way from one session to another. -/
def Adds (s t : Session) (id : String) : Prop :=
  ∃ row ∈ t.rows.drop s.rows.length, row.model = Fixture.Model.metric ∧ row.key = .text id

/-- The metrics that are known later are those from before and then those that
were written. -/
theorem Moves.added_metrics (run : Moves s t) (indexed : s.Indexed) (catalogued : s.Catalogued) :
    ∃ more, t.network.metrics = s.network.metrics ++ more ∧ ∀ entry ∈ more, Adds s t entry.2 := by
  have later := catalogued.moves indexed run
  have unread : ∀ row : Row, row.model = Fixture.Model.trigger -> row.metric? = none := by
    intro row trigger
    apply metric?_eq_none
    rw [trigger]
    decide
  refine ⟨(t.rows.drop s.rows.length).filterMap Row.metric?, ?_, ?_⟩
  · rw [later.metrics, catalogued.metrics, ← run.filterMap_take indexed unread,
      ← List.filterMap_append, List.take_append_drop]
  · intro entry member
    rcases List.mem_filterMap.mp member with ⟨row, among, own⟩
    have metric : row.model = Fixture.Model.metric := by
      by_contra other
      rw [metric?_eq_none other] at own
      cases own
    rcases later.named row (List.mem_of_mem_drop among) metric with ⟨id, key, _⟩
    refine ⟨row, among, metric, ?_⟩
    rcases Option.map_eq_some_iff.mp own with ⟨identity, _, rfl⟩
    rw [key]
    rfl

/-- A trigger that is put adds a trigger row or none. -/
theorem heads_putTrigger (s : Session) (wanted : Trigger) :
    ∃ more, (s.putTrigger wanted).2.rows.map Row.head = s.rows.map Row.head ++ more ∧
      ∀ head ∈ more, head.1 = Fixture.Model.trigger := by
  cases complete : wanted.isComplete with
  | false =>
    rw [s.putTrigger_incomplete complete]
    exact ⟨[], (List.append_nil _).symm, fun _ member => absurd member List.not_mem_nil⟩
  | true =>
    rcases s.stands_or_unknown wanted.outputMetric with ⟨position, row, known, stands⟩ | unknown
    · rw [s.putTrigger_known complete known stands]
      refine ⟨[], ?_, fun _ member => absurd member List.not_mem_nil⟩
      rw [List.append_nil]
      exact map_head_replaceFields _ position _
    · rw [s.putTrigger_new complete unknown]
      refine ⟨[_], List.map_append, fun head member => ?_⟩
      rw [List.mem_singleton.mp member]
      rfl

theorem Deeds.added_heads (run : Deeds models asks s t) :
    ∃ more, t.rows.map Row.head = s.rows.map Row.head ++ more ∧
      ∀ head ∈ more, head.1 ∈ models ∨ head.1 = Fixture.Model.trigger := by
  induction run with
  | refl => exact ⟨[], (List.append_nil _).symm, fun _ member => absurd member List.not_mem_nil⟩
  | @tail u v before deed ih =>
    rcases ih with ⟨more, whole, each⟩
    cases deed with
    | still same =>
      rw [same.rows]
      exact ⟨more, whole, each⟩
    | @bind id context key named =>
      rw [(Quiet.bind u id context key).rows]
      exact ⟨more, whole, each⟩
    | @enter registry row model issued new named own among passive =>
      have grown : (u.enter registry row).rows.map Row.head =
          u.rows.map Row.head ++ [row.head] := List.map_append
      refine ⟨more ++ [row.head], ?_, ?_⟩
      · rw [grown, whole, List.append_assoc]
      · intro head member
        rcases List.mem_append.mp member with old | new'
        · exact each head old
        · rw [List.mem_singleton.mp new']
          have model : row.head.1 = model := own
          exact Or.inl (model ▸ among)
    | @ask wanted asked =>
      rcases heads_putTrigger u wanted with ⟨last, grown, trigger⟩
      refine ⟨more ++ last, ?_, ?_⟩
      · rw [grown, whole, List.append_assoc]
      · intro head member
        rcases List.mem_append.mp member with old | new'
        · exact each head old
        · exact Or.inr (trigger head new')

/-- The rows that a stage adds are of its models, or triggers. -/
theorem Deeds.added (run : Deeds models asks s t) {row : Row}
    (member : row ∈ t.rows.drop s.rows.length) :
    row.model ∈ models ∨ row.model = Fixture.Model.trigger := by
  rcases run.added_heads with ⟨more, whole, each⟩
  apply each row.head
  have dropped : (t.rows.drop s.rows.length).map Row.head = more := by
    rw [List.map_drop, whole]
    exact List.drop_left' (List.length_map _)
  rw [← dropped]
  exact List.mem_map_of_mem member

/-! ## Triggers -/

/-- The only trigger rows that are entered are those of outputs without one. -/
theorem Enters.of_trigger {row : Row} (new : s.Enters row)
    (trigger : row.model = Fixture.Model.trigger) :
    ∃ wanted id, row = Trigger.row wanted id ∧ wanted.isComplete = true ∧
      ∀ position, s.network.triggerPosition? wanted.outputMetric = some position ->
        s.rows[position]? = none := by
  cases new with
  | trigger id complete unknown => exact ⟨_, id, rfl, complete, unknown⟩
  | zone item id =>
    have other : Fixture.Model.polygon ≠ Fixture.Model.trigger := by decide
    exact absurd trigger other
  | point item id sensor =>
    have other : Fixture.Model.point ≠ Fixture.Model.trigger := by decide
    exact absurd trigger other
  | metric id unknown =>
    have other : Fixture.Model.metric ≠ Fixture.Model.trigger := by decide
    exact absurd trigger other
  | link id unwritten =>
    have other : Fixture.Model.link ≠ Fixture.Model.trigger := by decide
    exact absurd trigger other
  | shown key fields shown named => exact absurd trigger (mem_shownModels shown named).2

/-- Every trigger row says what it writes. -/
def Titled (rows : List Row) : Prop :=
  ∀ row ∈ rows, row.model = Fixture.Model.trigger -> ∃ output, Network.output? row = some output

theorem Titled.moves (titled : Titled s.rows) (run : Moves s t) :
    Titled t.rows := by
  induction run with
  | refl => exact titled
  | @tail u v before move ih =>
    cases move with
    | quiet same =>
      rw [same.rows]
      exact ih
    | @enter registry row issued new =>
      intro other member trigger
      rcases List.mem_append.mp member with old | new'
      · exact ih other old trigger
      · cases List.mem_singleton.mp new'
        rcases new.of_trigger trigger with ⟨wanted, id, rfl, complete, _⟩
        exact ⟨_, Network.output?_triggerRow complete id⟩
    | @rewrite wanted place found complete known stands =>
      intro other member trigger
      rcases List.getElem?_of_mem member with ⟨position, holds⟩
      rw [rows_replaceFields, List.getElem?_modify] at holds
      rcases Option.map_eq_some_iff.mp holds with ⟨old, there, same⟩
      have oldMember := List.mem_of_getElem? there
      by_cases here : place = position
      · rw [if_pos here] at same
        have text : other.textOf "output_metric" = wanted.outputMetric := by
          rw [← same]
          rfl
        refine ⟨wanted.outputMetric, ?_⟩
        unfold Network.output?
        rw [text]
        exact if_pos ⟨trigger, (Trigger.isComplete_iff.mp complete).1⟩
      · rw [if_neg here] at same
        exact ih other (same ▸ oldMember) trigger

/-- The trigger of an output stays where it is. -/
theorem Moves.triggerPosition? (run : Moves s t) (indexed : s.Indexed) {output : String}
    {position : Nat} (known : s.network.triggerPosition? output = some position) :
    t.network.triggerPosition? output = some position := by
  induction run with
  | refl => exact known
  | @tail u v before move ih =>
    cases move with
    | quiet same =>
      rw [same.network]
      exact ih
    | @enter registry row issued new =>
      rw [network_enter, Network.triggerPosition?_indexRow, if_neg ?_, ih]
      intro writes
      have trigger := Network.model_of_output? writes
      rcases new.of_trigger trigger with ⟨wanted, id, rfl, complete, unknown⟩
      rw [Network.output?_triggerRow complete] at writes
      cases writes
      rcases (indexed.moves before).output?_of_known ih with ⟨held, place, _⟩
      rw [unknown position ih] at place
      cases place
    | rewrite complete place stands => exact ih

/-- Every row keeps its key, and that of a trigger its output. -/
theorem Moves.triggerRow? (run : Moves s t) (indexed : s.Indexed) {output : String} {row : Row}
    (found : s.triggerRow? output = some row) :
    ∃ later, t.triggerRow? output = some later ∧ later.key = row.key := by
  rcases Option.bind_eq_some_iff.mp found with ⟨position, known, stands⟩
  have still := run.triggerPosition? indexed known
  rcases (indexed.moves run).output?_of_known still with ⟨later, place, writes⟩
  rcases run.rowAt stands with ⟨held, there, _, key⟩
  cases Option.some.inj (place.symm.trans there)
  refine ⟨later, ?_, key⟩
  unfold Session.triggerRow?
  rw [still, Option.bind_some, place]

end Session
end Sensornet
