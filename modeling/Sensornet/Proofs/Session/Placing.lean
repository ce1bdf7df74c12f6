import Sensornet.Proofs.Decimal.Numerals
import Sensornet.Proofs.Session.Freshness
import Sensornet.Proofs.Session.Lasting

namespace Sensornet

/-!
# Placing the same items again

The n-th item of a category and label is given the n-th target under them: one
that is known, or a new one at the end of the list.  Whoever knows these
targets gives the same items the same targets and writes none.  The keys have
to be fresh here: a target is listed once, so a key that was listed before
would leave the list too short.

That a key is free does not say at once that no target has it, as targets are
also known by integer keys.  These look different from issued ones, however,
and the text keys of all rows are taken.

Links go the same way: what the items call for was written the first time.
-/

open Fixture (Key Row Registry)
open Relation (ReflTransGen)

namespace Domain.Item

/-- The row of the target of an item. -/
def targetRow (item : Item) (id : String) : Row :=
  if item.kind = zoneKind then item.zoneRow id else item.pointRow item.kind id

variable (item : Item)

theorem targetRow_zone (zone : item.kind = zoneKind) (id : String) :
    item.targetRow id = item.zoneRow id :=
  if_pos zone

theorem targetRow_point (sensor : item.kind ≠ zoneKind) (id : String) :
    item.targetRow id = item.pointRow item.kind id :=
  if_neg sensor

end Domain.Item

/-! ## Issued texts and integers -/

/-- What is issued begins with a letter, unlike an integer. -/
theorem Fixture.Registry.make_ne_integer (r : Registry) (kind : Fixture.Record) (seed : String)
    (n : Int) : (r.make kind seed).1 ≠ (Key.integer n).shown := by
  intro same
  have letters : (Decimal.integer n).head? = kind.mark.toList.head? := by
    have texts := congrArg (fun text => text.toList.head?) same
    unfold Fixture.Registry.make Fixture.Registry.candidate Key.shown at texts
    dsimp only at texts
    rw [String.toList_append, String.toList_ofList, String.toList_ofList] at texts
    rw [← texts]
    cases kind <;> rfl
  cases kind with
  | polygon => exact absurd (Decimal.isDigit_of_head?_integer letters) (by decide)
  | point => exact absurd (Decimal.isDigit_of_head?_integer letters) (by decide)
  | metric => exact absurd (Decimal.isDigit_of_head?_integer letters) (by decide)
  | trigger => exact absurd (Decimal.isDigit_of_head?_integer letters) (by decide)

namespace Network

theorem mem_targetsNamed_noteTarget {n : Network} {kind label id category under target : String}
    (listed : target ∈ (n.noteTarget kind label id).targetsNamed category under) :
    target ∈ n.targetsNamed category under ∨ target = id := by
  by_cases same : (category, under) = (kind, label)
  · cases same
    rw [n.targetsNamed_noteTarget_self] at listed
    exact mem_addNew.mp listed
  · rw [n.targetsNamed_noteTarget_of_ne same] at listed
    exact Or.inl listed

theorem mem_targetsNamed_indexRow {n : Network} {row : Row} {position : Nat}
    {kind label target : String}
    (listed : target ∈ (n.indexRow row position).targetsNamed kind label) :
    target ∈ n.targetsNamed kind label ∨ target = row.key.shown := by
  by_cases polygon : row.model = Fixture.Model.polygon
  · rw [n.indexRow_polygon polygon] at listed
    exact mem_targetsNamed_noteTarget listed
  · by_cases point : row.model = Fixture.Model.point
    · rw [n.indexRow_point point] at listed
      split at listed <;> exact mem_targetsNamed_noteTarget listed
    · unfold targetsNamed at listed
      rw [(Session.targets_indexRow n polygon point position).2.2] at listed
      exact Or.inl listed

/-- The row of a target stands for the target under its category and label. -/
theorem targetsNamed_targetRow (n : Network) (item : Domain.Item) (id : String) (position : Nat)
    (kind label : String) : (n.indexRow (item.targetRow id) position).targetsNamed kind label =
      (n.noteTarget item.kind item.label id).targetsNamed kind label := by
  by_cases zone : item.kind = Domain.zoneKind
  · rw [item.targetRow_zone zone, indexRow_zoneRow, zone]
    rfl
  · rw [item.targetRow_point zone, indexRow_pointRow]
    split <;> rfl

/-- A known target is one of the rows. -/
theorem key_of_mem_targetsNamed {rows : List Row} {kind label target : String}
    (listed : target ∈ (empty.index rows).targetsNamed kind label) :
    ∃ row ∈ rows, row.key.shown = target := by
  induction rows using List.reverseRecOn with
  | nil => cases listed
  | append_singleton rest row ih =>
    rw [index_concat] at listed
    rcases mem_targetsNamed_indexRow listed with old | own
    · rcases ih old with ⟨other, member, same⟩
      exact ⟨other, List.mem_append_left _ member, same⟩
    · exact ⟨row, List.mem_append_right _ List.mem_cons_self, own.symm⟩

end Network

namespace Session

variable {s t : Session} {placed : List Placement}

/-! ## Keys of rows are taken -/

/-- The network is that of the rows, and the text keys of the rows are taken. -/
structure Booked (s : Session) : Prop where
  indexed : s.Indexed
  taken : ∀ id, .text id ∈ s.rows.map Row.key -> id ∈ s.registry.taken

theorem booked_resume (options : Options) (supply : Nat) (existing : List Row) :
    (resume options supply existing).Booked where
  indexed := indexed_resume options supply existing
  taken id among := by
    rcases resume_parts options supply existing with ⟨_, _, registry, _, rows⟩
    rw [rows] at among
    rw [registry]
    rcases List.mem_map.mp among with ⟨row, member, key⟩
    have covered := (Registry.covers_seed (.start options.policy supply) member).1
    rw [key] at covered
    exact covered

theorem Booked.moves (booked : s.Booked) (run : Moves s t) : t.Booked := by
  refine ⟨booked.indexed.moves run, ?_⟩
  induction run with
  | refl => exact booked.taken
  | @tail u v _ move ih =>
    cases move with
    | quiet same =>
      rw [same.rows, same.keys.taken]
      exact ih
    | @enter registry row issued new named =>
      intro id among
      have own : (u.enter registry row).registry = registry := rfl
      rw [rows_enter, List.map_append, List.mem_append, List.map_singleton,
        List.mem_singleton] at among
      rw [own]
      rcases among with old | last
      · exact (Registry.Before.issues issued).taken.subset (ih id old)
      · rw [← last] at issued
        cases issued with
        | text kind seed => exact List.mem_cons_self
    | rewrite complete known stands =>
      rw [map_key_replaceFields]
      exact ih

/-- A free key is no target's. -/
theorem Booked.not_listed (booked : s.Booked) {record : Fixture.Record} {seed : String}
    (free : (s.registry.make record seed).1 ∉ s.registry.taken) (kind label : String) :
    (s.registry.make record seed).1 ∉ s.network.targetsNamed kind label := by
  intro listed
  rw [booked.indexed] at listed
  rcases Network.key_of_mem_targetsNamed listed with ⟨row, member, same⟩
  cases key : row.key with
  | integer n =>
    rw [key] at same
    exact s.registry.make_ne_integer record seed n same.symm
  | text id =>
    rw [key] at same
    have known : Key.text id ∈ s.rows.map Row.key := key ▸ List.mem_map_of_mem member
    exact free (same ▸ booked.taken id known)

/-! ## Targets -/

/-- The targets that items of a category and label were given. -/
def given (placed : List Placement) (kind label : String) : List String :=
  (placed.filter fun p => p.kind == kind && p.item.label == label).map Placement.id

theorem length_given (placed : List Placement) (item : Domain.Item) :
    (given placed item.kind item.label).length = earlier placed item := by
  unfold given earlier
  rw [List.length_map, List.countP_eq_length_filter]

theorem given_concat_self (placed : List Placement) (item : Domain.Item) (id : String) :
    given (placed ++ [⟨item, item.kind, id⟩]) item.kind item.label =
      given placed item.kind item.label ++ [id] := by
  unfold given
  rw [List.filter_append, List.map_append]
  simp

theorem given_concat_of_ne (placed : List Placement) {item : Domain.Item} {kind label : String}
    (different : (kind, label) ≠ (item.kind, item.label)) (id : String) :
    given (placed ++ [⟨item, item.kind, id⟩]) kind label = given placed kind label := by
  have other : (item.kind == kind && item.label == label) = false := by
    apply Bool.eq_false_iff.mpr
    intro both
    rw [Bool.and_eq_true, beq_iff_eq, beq_iff_eq] at both
    exact different (by rw [both.1, both.2])
  unfold given
  rw [List.filter_append, List.map_append]
  simp [other]

/-- The targets that the items were given are the first ones under their
category and label. -/
def Counted (s : Session) (placed : List Placement) : Prop :=
  ∀ kind label, given placed kind label <+: s.network.targetsNamed kind label

theorem counted_nil (s : Session) : s.Counted [] :=
  fun _ _ => List.nil_prefix

/-- An item without a target is given a new one, whose row is entered. -/
theorem placeItem_new {item : Domain.Item}
    (unknown : (s.network.targetsNamed item.kind item.label)[earlier placed item]? = none) :
    ∃ record seed,
      (s.placeItem placed item).1 = ⟨item, item.kind, (s.registry.make record seed).1⟩ ∧
      Quiet (s.enter (s.registry.make record seed).2
        (item.targetRow (s.registry.make record seed).1)) (s.placeItem placed item).2 := by
  have noted : ∀ registry row, Quiet (s.enter registry row)
      ((s.noteShared placed item).enter registry row) := by
    intro registry row
    have same := Quiet.noteShared s placed item
    unfold Session.enter
    rw [same.options, same.aliases, same.rows, same.network]
    exact ⟨rfl, rfl, rfl, rfl, .refl registry⟩
  have registry : (s.noteShared placed item).registry = s.registry := by
    unfold Session.noteShared
    split <;> rfl
  by_cases zone : item.kind = Domain.zoneKind
  · refine ⟨.polygon, "zone|" ++ item.label, ?_⟩
    rw [s.placeItem_zone unknown zone, placeAsZone_eq, registry, item.targetRow_zone zone]
    exact ⟨rfl, (noted _ _).trans (Quiet.noteZone _ item)⟩
  · refine ⟨.point, "point|" ++ item.kind ++ "|" ++ item.label, ?_⟩
    rw [s.placeItem_point unknown zone, placeAsPoint_eq, registry, item.targetRow_point zone]
    exact ⟨rfl, (noted _ _).trans (Quiet.notePoint _ item item.kind)⟩

/-- The next item is given the next target. -/
theorem Counted.placeItem (counted : s.Counted placed) (booked : s.Booked) (item : Domain.Item)
    (fresh : FreshSince s (s.placeItem placed item).2) :
    ∃ id, (s.placeItem placed item).1 = ⟨item, item.kind, id⟩ ∧
      (s.placeItem placed item).2.Counted (placed ++ [⟨item, item.kind, id⟩]) := by
  have first := counted item.kind item.label
  cases known : (s.network.targetsNamed item.kind item.label)[earlier placed item]? with
  | some id =>
    refine ⟨id, by rw [s.placeItem_known known], fun kind label => ?_⟩
    rw [s.placeItem_known known]
    dsimp only [network_note]
    by_cases same : (kind, label) = (item.kind, item.label)
    · cases same
      rw [given_concat_self]
      rcases first with ⟨rest, whole⟩
      rw [← whole, ← length_given, List.getElem?_append_right le_rfl, Nat.sub_self] at known
      cases rest with
      | nil => cases known
      | cons next others =>
        cases known
        exact ⟨others, by rw [← whole, List.append_assoc]; rfl⟩
    · rw [given_concat_of_ne placed same]
      exact counted kind label
  | none =>
    rcases placeItem_new known with ⟨record, seed, whole, entered⟩
    have free : (s.registry.make record seed).1 ∉ s.registry.taken :=
      fresh _ _ (List.suffix_refl _) (entered.keys.taken ▸ List.suffix_refl _)
    refine ⟨_, whole, fun kind label => ?_⟩
    rw [entered.network, network_enter, Network.targetsNamed_targetRow]
    by_cases same : (kind, label) = (item.kind, item.label)
    · cases same
      have all : given placed item.kind item.label =
          s.network.targetsNamed item.kind item.label := by
        apply first.eq_of_length_le
        rw [length_given]
        exact List.getElem?_eq_none_iff.mp known
      rw [given_concat_self, s.network.targetsNamed_noteTarget_self, all,
        addNew_of_not_mem (booked.not_listed free item.kind item.label)]
    · rw [given_concat_of_ne placed same, s.network.targetsNamed_noteTarget_of_ne same]
      exact counted kind label

/-- Where the targets are known, an item is given the one that it was given
when they were placed. -/
theorem Counted.placeItem_again (counted : s.Counted placed) (booked : s.Booked)
    (item : Domain.Item) (fresh : FreshSince s (s.placeItem placed item).2)
    (known : ∀ kind label, (s.placeItem placed item).2.network.targetsNamed kind label <+:
      t.network.targetsNamed kind label) :
    ∃ notice, t.placeItem placed item = ((s.placeItem placed item).1, t.note notice) := by
  rcases counted.placeItem booked item fresh with ⟨id, whole, later⟩
  have listed : (t.network.targetsNamed item.kind item.label)[earlier placed item]? = some id := by
    have goesOn := (later item.kind item.label).trans (known item.kind item.label)
    rw [given_concat_self] at goesOn
    rcases goesOn with ⟨more, same⟩
    rw [← same, List.append_assoc, ← length_given, List.getElem?_append_right le_rfl,
      Nat.sub_self]
    rfl
  exact ⟨_, (t.placeItem_known listed).trans (by rw [whole])⟩

/-- Where the targets are known, placing the items again places nothing. -/
theorem Counted.placeItems_again (counted : s.Counted placed) (booked : s.Booked)
    (items : List Domain.Item) (fresh : FreshSince s (s.placeItems placed items).2)
    (known : ∀ kind label, (s.placeItems placed items).2.network.targetsNamed kind label <+:
      t.network.targetsNamed kind label) :
    (t.placeItems placed items).1 = (s.placeItems placed items).1 ∧
      Still t (t.placeItems placed items).2 := by
  induction items generalizing s t placed with
  | nil => exact ⟨rfl, .refl t⟩
  | cons item rest ih =>
    have one : Moves s (s.placeItem placed item).2 := moves_placeItem s placed item
    have others : Moves (s.placeItem placed item).2 (s.placeItems placed (item :: rest)).2 :=
      moves_placeItems _ _ rest
    have first : FreshSince s (s.placeItem placed item).2 := fresh.within .refl others
    have second := fresh.within one (ReflTransGen.refl : Moves _ _)
    rcases counted.placeItem_again booked item first fun kind label =>
      (others.targetsNamed kind label).trans (known kind label) with ⟨notice, again⟩
    rcases counted.placeItem booked item first with ⟨id, whole, next⟩
    rw [← whole] at next
    have later := ih next (booked.moves one) second (t := t.note notice) known
    unfold placeItems
    dsimp only
    rw [again]
    exact ⟨later.1, (Still.note t notice).trans later.2⟩

/-! ## Links -/

/-- What was written or is wanted is written afterwards. -/
theorem mem_foldl_writeLink {links : List Link} {link : Link} {state : List Link × Session}
    (wanted : link ∈ state.1 ∨ link ∈ links) : link ∈ (links.foldl writeLink state).1 := by
  induction links generalizing state with
  | nil =>
    rcases wanted with written | impossible
    · exact written
    · cases impossible
  | cons first rest ih =>
    apply ih
    have grows : ∀ other ∈ state.1, other ∈ (writeLink state first).1 := by
      intro other member
      unfold writeLink
      dsimp only
      split
      · exact member
      · exact List.mem_append_left _ member
    have here : first ∈ (writeLink state first).1 := by
      unfold writeLink
      dsimp only
      split
      · assumption
      · exact List.mem_append_right _ List.mem_cons_self
    rcases wanted with written | wanted
    · exact Or.inl (grows link written)
    · rcases List.mem_cons.mp wanted with rfl | later
      · exact Or.inl here
      · exact Or.inr later

theorem written_foldl_writeLink {written : List Link}
    (carried : written = s.rows.filterMap Link.ofRow?) (links : List Link) :
    (links.foldl writeLink (written, s)).1 =
      (links.foldl writeLink (written, s)).2.rows.filterMap Link.ofRow? := by
  induction links generalizing s written with
  | nil => exact carried
  | cons first rest ih => exact ih (written_writeLink s carried first)

/-- The links that items call for are carried by rows afterwards. -/
theorem mem_links_writeLinks (s : Session) {placed : List Placement} {link : Link}
    (wanted : link ∈ Link.links (placed.flatMap (Link.wantedBy s.network))) :
    link ∈ (s.writeLinks placed).rows.filterMap Link.ofRow? := by
  have carried : s.rows.filterMap Link.ofRow? = (s.noteAll (Link.notices
      (placed.flatMap (Link.wantedBy s.network)))).rows.filterMap Link.ofRow? := rfl
  unfold writeLinks
  dsimp only
  rw [← written_foldl_writeLink carried]
  exact mem_foldl_writeLink (Or.inr wanted)

/-- Where all that is called for is written, nothing is written again. -/
theorem writeLinks_again
    (written : ∀ link ∈ Link.links (placed.flatMap (Link.wantedBy t.network)),
      link ∈ t.rows.filterMap Link.ofRow?) : Still t (t.writeLinks placed) := by
  have idle : ∀ (links : List Link) (state : List Link × Session),
      (∀ link ∈ links, link ∈ state.1) -> links.foldl writeLink state = state := by
    intro links
    induction links with
    | nil => exact fun _ _ => rfl
    | cons link rest ih =>
      intro state known
      have first : writeLink state link = state := if_pos (known link List.mem_cons_self)
      rw [List.foldl_cons, first]
      exact ih state fun other member => known other (List.mem_cons_of_mem link member)
  unfold writeLinks
  dsimp only
  rw [idle _ _ written]
  exact .noteAll t _

end Session
end Sensornet
