import Sensornet.Proofs.Session.Sequence

namespace Sensornet

/-!
# One target for each item

Targets are handed out by position: the n-th item of a category and label takes
the n-th target under them.  So within a call no target is given twice, as long
as the lists are apart, and over many calls a list grows to the longest demand
that any single call made of it and no further.

Both rest on what is known of targets being what the rows say: under every
category and label the keys of the rows that have them, in the order of the
rows.  Every move keeps this whose key is fresh.  A key that was listed before
would not be listed again, and the list would be shorter than the rows.
-/

open Fixture (Key Row)
open Relation (ReflTransGen)

namespace Fixture.Row

/-- Whether a row is that of a target with this category and label. -/
def isTarget (kind label : String) (row : Row) : Bool :=
  Session.targetModels.contains row.model && row.textOf "category" == kind &&
    row.textOf "label" == label

/-- The key of a row that is that of a target with this category and label. -/
def targetKey? (kind label : String) (row : Row) : Option Key :=
  if row.isTarget kind label then some row.key else none

theorem isSome_targetKey? (kind label : String) (row : Row) :
    (row.targetKey? kind label).isSome = row.isTarget kind label := by
  unfold targetKey?
  split
  · next own => exact own.symm
  · next other => exact (Bool.eq_false_iff.mpr other).symm

theorem isTarget_iff {row : Row} (target : row.model ∈ Session.targetModels) (kind label : String) :
    row.isTarget kind label = true ↔
      (kind, label) = (row.textOf "category", row.textOf "label") := by
  unfold isTarget
  rw [List.contains_iff_mem.mpr target, Bool.true_and, Bool.and_eq_true, beq_iff_eq, beq_iff_eq,
    Prod.mk.injEq, eq_comm, @eq_comm _ label]

theorem targetKey?_eq_none {row : Row} (other : row.model ∉ Session.targetModels)
    (kind label : String) : row.targetKey? kind label = none := by
  refine if_neg fun own => other ?_
  unfold isTarget at own
  rw [Bool.and_eq_true, Bool.and_eq_true] at own
  exact List.contains_iff_mem.mp own.1.1

end Fixture.Row

/-- Whether an item has this category, in lower case, and this label. -/
def Domain.Item.isNamed (kind label : String) (item : Domain.Item) : Bool :=
  item.kind == kind && item.label == label

namespace Session

variable {s t : Session} {placed : List Placement}

/-! ## What is listed -/

/-- Under every category and label the network lists the keys of the rows of
targets that have them. -/
def Listed (s : Session) : Prop :=
  ∀ kind label, s.rows.filterMap (Row.targetKey? kind label) =
    (s.network.targetsNamed kind label).map Key.text

theorem listed_start (options : Options) (supply : Nat) : (start options supply).Listed :=
  fun _ _ => rfl

/-- A new target goes to the end of its list and leaves the others alone. -/
theorem Listed.enterTarget (listed : s.Listed) (registry : Fixture.Registry) {row : Row}
    {kind label id : String} (target : row.model ∈ targetModels) (key : row.key = .text id)
    (own : (row.textOf "category", row.textOf "label") = (kind, label))
    (noted : ∀ category under, (s.network.indexRow row s.rows.length).targetsNamed category under =
      (s.network.noteTarget kind label id).targetsNamed category under)
    (free : id ∉ s.network.targetsNamed kind label) : (s.enter registry row).Listed := by
  intro category under
  rw [rows_enter, network_enter, noted, List.filterMap_append, listed category under]
  have chosen := Row.isTarget_iff target category under
  rw [own] at chosen
  by_cases same : (category, under) = (kind, label)
  · have here : row.targetKey? category under = some (.text id) :=
      (if_pos (chosen.mpr same)).trans (congrArg some key)
    cases same
    rw [s.network.targetsNamed_noteTarget_self, List.filterMap_cons_some here,
      addNew_of_not_mem free, List.map_append]
    rfl
  · have elsewhere : row.targetKey? category under = none :=
      if_neg fun here => same (chosen.mp here)
    rw [s.network.targetsNamed_noteTarget_of_ne same, List.filterMap_cons_none elsewhere]
    exact List.append_nil _

/-- Rows of other models are no targets. -/
theorem Listed.enterOther (listed : s.Listed) (registry : Fixture.Registry) {row : Row}
    (other : row.model ∉ targetModels) : (s.enter registry row).Listed := by
  intro kind label
  have polygon : row.model ≠ Fixture.Model.polygon :=
    fun same => other (same ▸ List.mem_cons_self)
  have point : row.model ≠ Fixture.Model.point :=
    fun same => other (same ▸ List.mem_cons_of_mem _ List.mem_cons_self)
  have targets : (s.network.indexRow row s.rows.length).targetsNamed kind label =
      s.network.targetsNamed kind label := by
    unfold Network.targetsNamed
    rw [(targets_indexRow s.network polygon point s.rows.length).2.2]
  rw [rows_enter, network_enter, targets, List.filterMap_append, listed kind label,
    List.filterMap_cons_none (Row.targetKey?_eq_none other kind label)]
  exact List.append_nil _

theorem Listed.enter (listed : s.Listed) (booked : s.Booked) {registry : Fixture.Registry}
    {row : Row} (issued : s.registry.Issues row.key registry) (new : s.Enters row)
    (fresh : FreshSince s (s.enter registry row)) : (s.enter registry row).Listed := by
  have free : ∀ id, row.key = .text id -> ∀ kind label,
      id ∉ s.network.targetsNamed kind label := by
    intro id key
    rw [key] at issued
    cases issued with
    | text record seed =>
      exact booked.not_listed (fresh _ _ (List.suffix_refl _) (List.suffix_refl _))
  cases new with
  | zone item id =>
    refine listed.enterTarget registry (by decide : Fixture.Model.polygon ∈ targetModels) rfl rfl
      (fun category under => ?_) (free id rfl Domain.zoneKind item.label)
    rw [Network.indexRow_zoneRow]
    rfl
  | @point item kind id sensor =>
    refine listed.enterTarget registry (by decide : Fixture.Model.point ∈ targetModels) rfl rfl
      (fun category under => ?_) (free id rfl kind item.label)
    rw [Network.indexRow_pointRow]
    split <;> rfl
  | metric id unknown => exact listed.enterOther registry (by decide : Fixture.Model.metric ∉ _)
  | trigger id complete unknown =>
    exact listed.enterOther registry (by decide : Fixture.Model.trigger ∉ _)
  | link id unwritten => exact listed.enterOther registry (by decide : Fixture.Model.link ∉ _)
  | shown key fields shown named =>
    have unread := Network.not_reads_shown shown named
    simp only [Network.Reads, not_or] at unread
    refine listed.enterOther registry fun among => ?_
    rcases List.mem_cons.mp among with polygon | others
    · exact unread.1 polygon
    · exact unread.2.1 (List.mem_singleton.mp others)

/-- Replacing the fields of a trigger changes no target. -/
theorem Listed.replaceFields (listed : s.Listed) (indexed : s.Indexed) {wanted : Trigger}
    {position : Nat} (known : s.network.triggerPosition? wanted.outputMetric = some position)
    (id : Json.Value) : (s.replaceFields position (wanted.fields id)).Listed := by
  intro kind label
  rcases indexed.output?_of_known known with ⟨held, place, writes⟩
  have same : (s.replaceFields position (wanted.fields id)).rows.filterMap
      (Row.targetKey? kind label) = s.rows.filterMap (Row.targetKey? kind label) := by
    refine filterMap_modify fun row stands => ?_
    have trigger : row.model = Fixture.Model.trigger := by
      rw [Option.some.inj (stands.symm.trans place)]
      exact Network.model_of_output? writes
    have other : row.model ∉ targetModels := trigger ▸ by decide
    have rewritten : ({ row with fields := wanted.fields id } : Row).model ∉ targetModels := other
    rw [Row.targetKey?_eq_none other, Row.targetKey?_eq_none rewritten]
  exact same.trans (listed kind label)

/-- Targets stay listed as long as keys are fresh. -/
theorem Listed.moves (listed : s.Listed) (booked : s.Booked) (run : Moves s t)
    (fresh : FreshSince s t) : t.Listed := by
  induction run with
  | refl => exact listed
  | @tail u v before move ih =>
    have then' := ih (fresh.within .refl (.single move))
    cases move with
    | quiet same =>
      intro kind label
      rw [same.rows, same.network]
      exact then' kind label
    | enter issued new named =>
      exact then'.enter (booked.moves before) issued new (fresh.within before .refl)
    | rewrite complete known stands =>
      exact then'.replaceFields (booked.indexed.moves before) known _

/-- The number of targets under a category and label is that of the rows. -/
theorem Listed.count (listed : s.Listed) (kind label : String) :
    s.rows.countP (Row.isTarget kind label) = (s.network.targetsNamed kind label).length := by
  have lengths := congrArg List.length (listed kind label)
  rw [List.length_map, List.length_filterMap_eq_countP] at lengths
  rw [← lengths]
  exact List.countP_congr fun row _ => by rw [Row.isSome_targetKey?]

/-! ## No target is given twice -/

/-- A listed target is the key of a row with its category and label. -/
theorem Listed.exists_row (listed : s.Listed) {kind label id : String}
    (member : id ∈ s.network.targetsNamed kind label) :
    ∃ row ∈ s.rows, row.key = .text id ∧ row.isTarget kind label = true := by
  have among := List.mem_map_of_mem (f := Key.text) member
  rw [← listed kind label] at among
  rcases List.mem_filterMap.mp among with ⟨row, stands, own⟩
  unfold Row.targetKey? at own
  split at own
  · next target => exact ⟨row, stands, Option.some.inj own, target⟩
  · cases own

/-- A target stands under one category and label. -/
theorem Listed.named_eq (listed : s.Listed) (unique : (s.rows.map Row.key).Nodup)
    {kind label category under id : String} (here : id ∈ s.network.targetsNamed kind label)
    (there : id ∈ s.network.targetsNamed category under) : (category, under) = (kind, label) := by
  rcases listed.exists_row here with ⟨row, stands, key, own⟩
  rcases listed.exists_row there with ⟨other, standsToo, keyToo, ownToo⟩
  cases List.inj_on_of_nodup_map unique standsToo stands (keyToo.trans key.symm)
  have target : row.model ∈ targetModels := by
    by_contra apart
    have none := Row.targetKey?_eq_none apart kind label
    unfold Row.targetKey? at none
    rw [if_pos own] at none
    cases none
  rw [Row.isTarget_iff target] at own ownToo
  exact ownToo.trans own.symm

/-- A target stands once under its category and label. -/
theorem Listed.nodup (listed : s.Listed) (unique : (s.rows.map Row.key).Nodup)
    (kind label : String) : (s.network.targetsNamed kind label).Nodup := by
  have keys : (s.rows.filterMap (Row.targetKey? kind label)).Sublist (s.rows.map Row.key) := by
    rw [← List.filterMap_eq_map]
    refine filterMap_sublist fun row _ key own => ?_
    unfold Row.targetKey? at own
    split at own
    · exact own
    · cases own
  have texts := unique.sublist keys
  rw [listed kind label] at texts
  exact texts.of_map Key.text

/-- Items that were given the first targets under their categories and labels
share none. -/
theorem Counted.nodup_ids (counted : s.Counted placed) (listed : s.Listed)
    (unique : (s.rows.map Row.key).Nodup) : (placed.map Placement.id).Nodup := by
  rw [List.nodup_iff_count_le_one]
  intro id
  by_cases among : id ∈ placed.map Placement.id
  · rcases List.mem_map.mp among with ⟨p, member, rfl⟩
    -- all items with this target have one category and label
    have own : ∀ q ∈ placed, q.id ∈ s.network.targetsNamed q.kind q.item.label := by
      intro q there
      refine (counted q.kind q.item.label).subset (List.mem_map_of_mem ?_)
      exact List.mem_filter.mpr ⟨there, by simp⟩
    have alone : (given placed p.kind p.item.label).count p.id ≤ 1 :=
      List.nodup_iff_count_le_one.mp
        ((listed.nodup unique p.kind p.item.label).sublist
          (counted p.kind p.item.label).sublist) p.id
    refine le_trans (le_of_eq ?_) alone
    unfold given
    rw [List.count_eq_countP, List.count_eq_countP, List.countP_map, List.countP_map,
      List.countP_filter]
    refine List.countP_congr fun q there => ?_
    simp only [Function.comp_apply, Bool.and_eq_true, beq_iff_eq]
    refine ⟨fun same => ⟨same, ?_⟩, And.left⟩
    have one := listed.named_eq unique (own p member) (same ▸ own q there)
    exact Prod.mk.injEq .. ▸ one
  · rw [List.count_eq_zero_of_not_mem among]
    exact Nat.zero_le 1

/-- All items are given the first targets under their categories and labels. -/
theorem Counted.placeItems (counted : s.Counted placed) (booked : s.Booked)
    (items : List Domain.Item) (fresh : FreshSince s (s.placeItems placed items).2) :
    (s.placeItems placed items).2.Counted (s.placeItems placed items).1 := by
  induction items generalizing s placed with
  | nil => exact counted
  | cons item rest ih =>
    have one : Moves s (s.placeItem placed item).2 := moves_placeItem s placed item
    have others : Moves (s.placeItem placed item).2 (s.placeItems placed (item :: rest)).2 :=
      moves_placeItems _ _ rest
    rcases counted.placeItem booked item (fresh.within .refl others) with ⟨id, whole, next⟩
    rw [← whole] at next
    exact ih next (booked.moves one) (fresh.within one .refl)

/-! ## How long a list grows -/

/-- Under a category and label there are as many targets as before, or as many
as the call has items for them, whichever is more. -/
theorem length_targetsNamed_addDomain (booked : s.Booked) (items : List Domain.Item)
    (fresh : FreshSince s (s.addDomain items)) (kind label : String) :
    ((s.addDomain items).network.targetsNamed kind label).length =
      max (s.network.targetsNamed kind label).length
        (items.countP (Domain.Item.isNamed kind label)) := by
  let u := (s.placeItems [] items).2
  have later : Deeds [Fixture.Model.link, Fixture.Model.metric] Any u (s.addDomain items) :=
    ((deeds_placeItems_linked s items).widen (by decide)).trans
      ((deeds_addDomain_of_linked s items).widen (by decide))
  have targets : (s.addDomain items).network.targetsNamed kind label =
      u.network.targetsNamed kind label := by
    unfold Network.targetsNamed
    rw [(later.targets (by decide) (by decide)).2.2]
  have counted : u.Counted (s.placeItems [] items).1 :=
    (counted_nil s).placeItems booked items (fresh.within .refl later.moves)
  rcases (extends_nil s).placeItems items with ⟨more, all, each, kinds, _, extends'⟩
  rw [List.nil_append] at all extends'
  have asked : (given more kind label).length =
      items.countP (Domain.Item.isNamed kind label) := by
    unfold given
    rw [List.length_map, ← List.countP_eq_length_filter, ← each, List.countP_map]
    refine List.countP_congr fun p member => ?_
    rw [kinds p member]
    rfl
  have atLeast := (counted kind label).length_le
  rw [all, asked] at atLeast
  have most := extends'.most kind label
  rw [asked] at most
  rw [targets]
  exact le_antisymm most (max_le (extends'.least kind label) atLeast)

/-- Over several calls a list grows to the greatest number of items that one
call has for it. -/
theorem length_targetsNamed_foldl (booked : s.Booked) (domains : List (List Domain.Item))
    (fresh : FreshSince s (domains.foldl addDomain s)) (kind label : String) :
    ((domains.foldl addDomain s).network.targetsNamed kind label).length =
      max (s.network.targetsNamed kind label).length
        ((domains.map (List.countP (Domain.Item.isNamed kind label))).foldr max 0) := by
  induction domains generalizing s with
  | nil => exact (Nat.max_zero _).symm
  | cons items rest ih =>
    have one : Moves s (s.addDomain items) := moves_addDomain s items
    have others : Moves (s.addDomain items) ((items :: rest).foldl addDomain s) :=
      Moves.foldl _ rest fun t items _ => moves_addDomain t items
    rw [List.foldl_cons, ih (booked.moves one) (fresh.within one .refl),
      length_targetsNamed_addDomain booked items (fresh.within .refl others), List.map_cons,
      List.foldr_cons, max_assoc]

/-- In a session without a past no call gives two of its items one target, and
after any calls there are as many targets of a category and label as the call
with the most items for them has. -/
theorem targets_addDomains {options : Options} {supply : Nat} {domains : List (List Domain.Item)}
    {s : Session} (ran : domains.foldl addDomain (start options supply) = s)
    (nameable : ∀ row ∈ s.rows, row.Nameable s.registry) :
    (∀ before items after, domains = before ++ items :: after ->
      let placed := ((before.foldl addDomain (start options supply)).placeItems [] items).1
      placed.map Placement.item = items ∧ (placed.map Placement.id).Nodup) ∧
    ∀ kind label, s.rows.countP (Row.isTarget kind label) =
      (domains.map (List.countP (Domain.Item.isNamed kind label))).foldr max 0 := by
  subst ran
  have booked : (start options supply).Booked := booked_resume options supply []
  have listed := listed_start options supply
  have moves : ∀ (u : Session) (domains : List (List Domain.Item)),
      Moves u (domains.foldl addDomain u) := fun u domains =>
    Moves.foldl u domains fun t items _ => moves_addDomain t items
  have run := moves (start options supply) domains
  have fresh : FreshSince (start options supply) (domains.foldl addDomain (start options supply)) :=
    (fresh_of_nameable run nameable).since _
  refine ⟨fun before items after whole => ?_, fun kind label => ?_⟩
  · subst whole
    generalize entered : before.foldl addDomain (start options supply) = u
    have first : Moves (start options supply) u := entered ▸ moves _ before
    have placing : Moves u (u.placeItems [] items).2 := moves_placeItems u [] items
    have rest : Moves (u.placeItems [] items).2
        ((before ++ items :: after).foldl addDomain (start options supply)) := by
      rw [List.foldl_append, entered]
      have linked : Deeds [Fixture.Model.link] Silent (u.placeItems [] items).2 (u.linked items) :=
        deeds_placeItems_linked u items
      have later := linked.moves.trans (deeds_addDomain_of_linked u items).moves
      exact later.trans (moves _ after)
    have early := fresh.within .refl rest
    have unique : ((u.placeItems [] items).2.rows.map Row.key).Nodup :=
      early.nodup (Moves.keysGrow (first.trans placing))
    refine ⟨(u.appended_placeItems items).1, ?_⟩
    exact ((counted_nil u).placeItems (booked.moves first) items
      (early.within first .refl)).nodup_ids
        (listed.moves booked (first.trans placing) early) unique
  · rw [(listed.moves booked run fresh).count, length_targetsNamed_foldl booked domains fresh]
    exact Nat.zero_max _

/-- Two zones and a valve, then three zones in two spellings of their category. -/
def yards : List (List Domain.Item) :=
  let zone (category label : String) : Domain.Item :=
    ⟨category, label, .null, none, none, none, none, none, none, none, none, none⟩
  [ [zone "zone" "Yard", zone "Valve" "Yard", zone "zone" "Yard"]
  , [zone "ZONE" "Yard", zone "zone" "North", zone "zone" "Yard", zone "Zone" "Yard"] ]

/-- The second call adds one Yard to the two of the first. -/
theorem targets_addDomains_yards :
    let s := yards.foldl addDomain (start { Options.default with starterMetrics := false } 0)
    (∀ row ∈ s.rows, row.Nameable s.registry) ∧
      (∀ before items after, yards = before ++ items :: after ->
        let placed := ((before.foldl addDomain
          (start { Options.default with starterMetrics := false } 0)).placeItems [] items).1
        placed.map Placement.item = items ∧ (placed.map Placement.id).Nodup) ∧
      (∀ kind label, s.rows.countP (Row.isTarget kind label) =
        (yards.map (List.countP (Domain.Item.isNamed kind label))).foldr max 0) ∧
      s.rows.countP (Row.isTarget "zone" "Yard") = 3 ∧
      s.rows.countP (Row.isTarget "valve" "Yard") = 1 := by
  intro s
  have policy : s.registry.policy = .deterministic := by
    decide +kernel
  have nameable : ∀ row ∈ s.rows, row.Nameable s.registry :=
    Row.nameable_of_all policy (by decide : 3 < Fixture.Registry.maxAttempts) (by decide +kernel)
  rcases targets_addDomains (s := s) rfl nameable with ⟨apart, count⟩
  exact ⟨nameable, apart, count, (count _ _).trans (by decide +kernel),
    (count _ _).trans (by decide +kernel)⟩

end Session
end Sensornet
