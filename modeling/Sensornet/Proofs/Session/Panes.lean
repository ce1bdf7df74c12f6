import Sensornet.Proofs.Resolution.Inputs
import Sensornet.Proofs.Session.Pages
import Sensornet.Proofs.Template.Kept

namespace Sensornet

/-!
# What side panes list

The side pane of a page is made of blocks, which list widgets as the page
itself does.  The resolution reads three lists of a block: its charts, its
cards and its maps.  The slice reads the charts and the cards.  So a chart,
card or map that a block lists under one of these two keys is kept, and the row
of the page lists its key in the same block.  What a block lists as a map is
there only if something else has kept it.
-/

open Fixture (Key Row)
open Json (Value Fields)
open List (Forall₂)
open Template (Item Kind)
open Resolution (Rule Scene)

/-! ## Blocks -/

namespace Template

/-- Where the blocks of a side pane are listed among the arguments of a page. -/
def paneOf (args : Option Value) : Option Value :=
  (args.bind (Value.get? "sidepane")).bind (Value.get? "by_target_category")

/-- The blocks of a side pane: what is listed, or stands alone, and the objects
held by that. -/
inductive IsBlock (pane : Option Value) : Value -> Prop where
  | top {block : Value} (listed : block ∈ Value.itemsOf pane) : IsBlock pane block
  | keyed {outer block : Value} {key : String} (listed : outer ∈ Value.itemsOf pane)
    (held : (key, block) ∈ outer.fields) (object : block.isObject = true) : IsBlock pane block

theorem mem_paneBlocks_iff {pane : Option Value} {block : Value} :
    block ∈ Item.paneBlocks pane ↔ IsBlock pane block := by
  unfold Item.paneBlocks
  rw [List.mem_flatMap]
  constructor
  · rintro ⟨outer, listed, among⟩
    rcases List.mem_cons.mp among with rfl | inner
    · exact .top listed
    · obtain ⟨member, object⟩ := List.mem_filter.mp inner
      obtain ⟨⟨key, _⟩, held, rfl⟩ := List.mem_map.mp member
      exact .keyed listed held object
  · rintro (listed | ⟨listed, held, object⟩)
    · exact ⟨block, listed, List.mem_cons_self⟩
    · exact ⟨_, listed, List.mem_cons_of_mem _
        (List.mem_filter.mpr ⟨List.mem_map.mpr ⟨_, held, rfl⟩, object⟩)⟩

/-- An id that is not empty and is referred to in a list is one of its codes. -/
theorem mem_codesOf_of_references {value : Option Value} {id : String}
    (member : id ∈ Scene.references value) (filled : id ≠ "") : id ∈ Item.codesOf value := by
  obtain ⟨item, among, refers⟩ := List.mem_filterMap.mp member
  refine List.mem_filterMap.mpr ⟨item, among, ?_⟩
  cases item <;> cases refers
  · rfl
  · exact if_neg fun empty => filled (String.isEmpty_iff.mp empty)

/-- The slice keeps the widgets that blocks of the pages it keeps list under
some keys. -/
def KeepsListed (keys : List String) (template : List Item) (sections : List String)
    (aliases : Metric.Aliases) : Prop :=
  ∀ page ∈ (slice template sections aliases).items template, page.kind = .page ->
    ∀ block, IsBlock (paneOf (Entries.get? "args" page.fields)) block ->
      ∀ key ∈ keys, ∀ id ∈ Scene.references (block.get? key),
        ∀ (index : Nat) (widget : Item), template[index]? = some widget ->
          widget.kind.isWidget = true -> widget.abstractionId? = some id ->
            index ∈ (slice template sections aliases).kept

theorem Item.mem_mentionedWidgets_of_block {page : Item} {block : Value}
    (isBlock : IsBlock (paneOf (Entries.get? "args" page.fields)) block) {key id : String}
    (listed : key ∈ ["charts", "cards"]) (member : id ∈ Scene.references (block.get? key))
    (filled : id ≠ "") : id ∈ page.mentionedWidgets := by
  have code := mem_codesOf_of_references member filled
  rw [page.get?_fields] at isBlock
  have shown : id ∈ Item.codesOf (block.get? "charts") ++ Item.codesOf (block.get? "cards") := by
    simp only [List.mem_cons, List.not_mem_nil, or_false] at listed
    rcases listed with rfl | rfl
    · exact List.mem_append_left _ code
    · exact List.mem_append_right _ code
  unfold Item.mentionedWidgets
  exact mem_distinct.mpr (List.mem_append_left _ (List.mem_append_right _
    (List.mem_flatMap.mpr ⟨block, mem_paneBlocks_iff.mpr isBlock, shown⟩)))

theorem keepsListed_charts_cards (template : List Item) (sections : List String)
    (aliases : Metric.Aliases) : KeepsListed ["charts", "cards"] template sections aliases := by
  intro page kept isPage block isBlock key listed id member index widget stands isWidget own
  refine mem_kept.mpr ⟨widget, stands, ?_⟩
  have mentions := page.mem_mentionedWidgets_of_block isBlock listed member
    (Item.ne_empty_of_abstractionId? own)
  have named : ∃ id, widget.abstractionId? = some id ∧
      ∃ page ∈ (slice template sections aliases).items template,
        page.kind = .page ∧ id ∈ page.mentionedWidgets :=
    ⟨id, own, page, kept, isPage, mentions⟩
  unfold Justified
  revert isWidget
  cases widget.kind with
  | chart | card | map => exact fun _ => named
  | page | metric | trigger | other => exact fun none' => nomatch none'

/-- A page whose side pane has a block for zones, and this block has a map. -/
def paneBlueprints : List Item :=
  [ ⟨[ ("model", .text Fixture.Model.page)
     , ("abstraction_id", .text "page")
     , ("fields", .object
         [ ("page", .text "OPS")
         , ("args", .object [("sidepane", .object [("by_target_category", .object
             [("zone", .object [("maps", .array [.text "map"])])])])]) ]) ]⟩
  , ⟨[("model", .text Fixture.Model.map), ("abstraction_id", .text "map")]⟩ ]

/-- Nothing keeps the map. -/
theorem keepsListed_lost_map :
    ¬ KeepsListed ["charts", "cards", "maps"] paneBlueprints ["OPS"]
      Options.default.allAliases := by
  intro keeps
  have kept : (slice paneBlueprints ["OPS"] Options.default.allAliases).kept = [0] := by
    decide +kernel
  have block : IsBlock (paneOf (Entries.get? "args" paneBlueprints[0].fields))
      (.object [("maps", .array [.text "map"])]) :=
    .keyed List.mem_cons_self List.mem_cons_self rfl
  have among : paneBlueprints[0] ∈
      (slice paneBlueprints ["OPS"] Options.default.allAliases).items paneBlueprints := by
    rw [Slice.items, kept]
    exact List.mem_cons_self
  have there := keeps _ among (by decide) _ block "maps" (by decide) "map" List.mem_cons_self
    1 _ rfl (by decide) rfl
  rw [kept] at there
  exact absurd there (by decide)

end Template

/-! ## What becomes of a block -/

namespace Resolution
namespace Scene

variable {s : Scene} {rule : Rule} {value result : Value}

theorem isObject_center (s : Scene) : s.center.isObject = false := by
  have each : ∀ position : Option Geometry.Position,
      ((position.map Geometry.Position.toJson).getD .null).isObject = false := by
    intro position
    cases position <;> rfl
  exact each _

/-- No text becomes an object. -/
theorem isObject_resolveText (s : Scene) (rule : Rule) (raw : String) (p : Progress) :
    ((s.resolveText rule raw).run p).1.isObject = false := by
  unfold resolveText
  split
  · rfl
  · dsimp only
    split
    · cases rule <;> first | rfl | exact s.isObject_center
    · split
      · by_cases kept : rule = .keepDescriptors
        · rw [kept]
          rfl
        · rw [s.run_resolveDescriptor kept]
          cases rule <;> rfl
      · split
        · split <;> rfl
        · rfl

/-- Objects become objects, and nothing else does. -/
theorem Gives.isObject (gives : s.Gives rule value result) : result.isObject = value.isObject := by
  obtain ⟨p, rfl⟩ := gives
  cases value with
  | text raw => exact s.isObject_resolveText rule raw p
  | object | null | bool => rfl
  | number n => cases rule <;> rfl
  | array items => cases rule <;> rfl

/-- The lists of a value and of what it becomes. -/
def Mirrors (s : Scene) (value result : Value) : Prop :=
  ∀ key, key ≠ "center" ->
    Option.Rel (s.Gives (Rule.ofKey key s.context)) (value.get? key) (result.get? key)

/-- The objects among the members of an object. -/
def inner (fields : Fields) : List Value :=
  (fields.map Prod.snd).filter Value.isObject

/-- Writing the centre over what is no object changes none of them. -/
theorem inner_insert {key : String} {value : Value} {fields : Fields}
    (plain : value.isObject = false)
    (old : ∀ v, Entries.get? key fields = some v -> v.isObject = false) :
    inner (Entries.insert key value fields) = inner fields := by
  induction fields with
  | nil => exact List.filter_cons_of_neg (Bool.eq_false_iff.mp plain)
  | cons entry rest ih =>
    obtain ⟨k, v⟩ := entry
    rw [Entries.insert]
    split
    · next same =>
      have gone : v.isObject = false := old v (if_pos same)
      unfold inner
      rw [List.map_cons, List.map_cons, List.filter_cons_of_neg (Bool.eq_false_iff.mp plain),
        List.filter_cons_of_neg (Bool.eq_false_iff.mp gone)]
    · next other =>
      have later := ih fun w found => old w ((if_neg other).trans found)
      unfold inner at later ⊢
      rw [List.map_cons, List.map_cons, List.filter_cons, List.filter_cons, later]

theorem inner_withNetworkCenter (s : Scene) (fields : Fields) :
    inner (s.withNetworkCenter fields) = inner fields := by
  rcases s.withNetworkCenter_cases fields with same | ⟨old, held, left, position, filled⟩
  · rw [same]
  · rw [filled]
    refine inner_insert rfl fun v found => ?_
    cases Option.some.inj (held.symm.trans found)
    rcases left with rfl | rfl <;> rfl

theorem Gives.mirrors_of_object {fields : Fields} (gives : s.Gives rule (.object fields) result) :
    s.Mirrors (.object fields) result := by
  obtain ⟨members, rfl, each⟩ := gives.object
  exact each

theorem forall₂_inner {fields members : Fields} (each : Forall₂ s.GivesMember fields members) :
    Forall₂ s.Mirrors (inner fields) (inner members) := by
  induction each with
  | nil => exact .nil
  | @cons entry result rest others first _ ih =>
    obtain ⟨key, value⟩ := entry
    obtain ⟨_, own⟩ := first
    have same := own.isObject
    unfold inner at ih ⊢
    rw [List.map_cons, List.map_cons, List.filter_cons, List.filter_cons, same]
    cases value with
    | object fields => exact .cons own.mirrors_of_object ih
    | null | bool | number | text | array => exact ih

/-- The blocks of a side pane stay in their places. -/
theorem forall₂_paneBlocks {pane resolved : Option Value}
    (gives : Option.Rel (s.Gives .plain) pane resolved) :
    Forall₂ s.Mirrors (Item.paneBlocks pane) (Item.paneBlocks resolved) := by
  refine List.rel_flatMap (forall₂_itemsOf gives) fun block shown gives => .cons gives.get? ?_
  cases block with
  | object fields =>
    obtain ⟨members, rfl, each⟩ := gives.members
    change Forall₂ s.Mirrors (inner fields) (inner (s.withNetworkCenter members))
    rw [s.inner_withNetworkCenter]
    exact forall₂_inner each
  | null | bool | number | text | array =>
    have plain := gives.isObject
    cases shown with
    | object => cases plain
    | null | bool | number | text | array => exact .nil

end Scene
end Resolution

/-! ## The rows of pages -/

theorem Widget.get?_page_of_not_mem {key : String} (other : key ∉ ["charts", "cards", "maps"])
    (fields : Fields) : Entries.get? key (page fields) = Entries.get? key fields := by
  simp only [List.mem_cons, List.not_mem_nil, or_false, not_or] at other
  unfold page
  rw [List.foldl_cons, List.foldl_cons, List.foldl_cons, List.foldl_nil,
    Entries.get?_insert_of_ne other.2.2, Entries.get?_insert_of_ne other.2.1,
    Entries.get?_insert_of_ne other.1]

namespace Session

variable {s m : Session} {page widget : Item} {row : Row}

/-- The row of a page has the blocks of the page. -/
theorem Depicts.forall₂_paneBlocks (depicts : m.Depicts page row) (isPage : page.kind = .page) :
    Forall₂ (m.scene .global).Mirrors
      (Item.paneBlocks (Template.paneOf (Entries.get? "args" page.fields)))
      (Item.paneBlocks (Template.paneOf (row.field? "args"))) := by
  obtain ⟨model, n, fields, _, gives, rfl⟩ := depicts
  obtain ⟨members, same, each⟩ := gives.object
  cases same
  have args : (Widget.row model n (Widget.finished m.network m.aliases page.kind fields)).field?
      "args" = Entries.get? "args" fields := by
    rw [Widget.field?_row (by decide), isPage]
    exact Widget.get?_page_of_not_mem (by decide) fields
  have given : Option.Rel ((m.scene .global).Gives .plain) (Entries.get? "args" page.fields)
      (Entries.get? "args" fields) := each "args" (by decide)
  rw [args]
  exact Scene.forall₂_paneBlocks (Scene.Gives.member "by_target_category" rfl (by decide)
    (Scene.Gives.member "sidepane" rfl (by decide) given))

/-- A kept widget is bound before the first page is made, and to the end. -/
theorem bound_of_kept {template : List Item} {sections : List String}
    (kept : widget ∈ s.keptItems template sections) (isWidget : widget.kind.isWidget = true)
    {id : String} (own : widget.abstractionId? = some id) (i : Nat) :
    ∃ known, (s.atItem template sections .page i).bindings.get? id .global = some known ∧
      (s.addTemplate template sections).bindings.get? id .global = some known := by
  have made : widget.kind ∈ shownKinds.takeWhile (fun earlier => decide (earlier ≠ .page)) := by
    revert isWidget
    cases widget.kind <;> decide
  have shown : ∀ items : List Item, (∀ item ∈ items, item ∈ s.keptPages template sections) ->
      ∀ item ∈ items, item.kind.isShown = true :=
    fun items among item member => shown_of_mem_ofKind rfl (among item member)
  obtain ⟨known, bound⟩ := bound_afterKinds (fun _ => shown_before) kept made own
    (s.prepared template sections)
  have atPage := bound_foldl_makeShown
    (shown ((s.keptPages template sections).take i) fun _ => List.mem_of_mem_take) bound
  obtain ⟨notice, whole⟩ := s.addTemplate_of_page template sections i
  refine ⟨known, atPage, ?_⟩
  rw [whole]
  exact bound_foldl_makeShown
    (shown ((s.keptPages template sections).drop i) fun _ => List.mem_of_mem_drop) atPage

/-- A block of a page row lists the key of every kept widget that the block of
the page lists. -/
def ShowsBlock (kept : List Item) (t : Session) (block shown : Value) : Prop :=
  ∀ key ∈ ["charts", "cards", "maps"], ∀ id ∈ Scene.references (block.get? key),
    ∀ widget ∈ kept, widget.kind.isWidget = true -> widget.abstractionId? = some id ->
      ∃ known, t.bindings.get? id .global = some known ∧
        known.toJson ∈ Value.itemsOf (shown.get? key)

/-- Only lists of references refer to anything. -/
theorem isReferenceList_of_mem {value : Option Value} {id : String}
    (member : id ∈ Scene.references value) : Scene.isReferenceList value = true := by
  cases value with
  | none => rfl
  | some value =>
    cases value with
    | null | number | text | array => rfl
    | bool flag => cases member
    | object fields => cases member

theorem showsBlock_of_mirrors {template : List Item} {sections : List String} {i : Nat}
    {block shown : Value}
    (mirrors : ((s.atItem template sections .page i).scene .global).Mirrors block shown) :
    ShowsBlock (s.keptItems template sections) (s.addTemplate template sections) block shown := by
  intro key listed id member widget kept isWidget own
  obtain ⟨known, atPage, bound⟩ := bound_of_kept kept isWidget own i
  have names : key ≠ "center" ∧ Rule.ofKey key .global = .widgets := by
    simp only [List.mem_cons, List.not_mem_nil, or_false] at listed
    rcases listed with rfl | rfl | rfl <;> decide
  have resolved := mirrors key names.1
  have rule : Rule.ofKey key ((s.atItem template sections .page i).scene .global).context =
      .widgets := names.2
  rw [rule] at resolved
  refine ⟨known, bound, ?_⟩
  rw [Scene.itemsOf_of_gives_widgets resolved (isReferenceList_of_mem member)]
  exact List.mem_map_of_mem (mem_distinct.mpr (List.mem_filterMap.mpr ⟨id, member, atPage⟩))

/-- After any calls, whatever rows they went on from, a template is compiled.
The charts, cards and maps that blocks of kept pages list as charts or cards are
kept.  Each page row has the blocks of its page, and every kept widget that a
block lists is listed there by its key. -/
theorem panes_addTemplate (options : Options) (supply : Nat) (existing : List Row)
    (calls : List Call) (template : List Item) (sections : List String) :
    let s := (resume options supply existing).run calls
    let t := s.addTemplate template sections
    let pages := s.keptPages template sections
    let rows := (t.rows.drop s.rows.length).filter fun row => row.model == Fixture.Model.page
    (∀ aliases, Template.KeepsListed ["charts", "cards"] template sections aliases) ∧
      rows.length = pages.length ∧
      ∀ (i : Nat) (page : Item) (row : Row), pages[i]? = some page -> rows[i]? = some row ->
        Forall₂ (ShowsBlock (s.keptItems template sections) t)
          (Item.paneBlocks (Template.paneOf (Entries.get? "args" page.fields)))
          (Item.paneBlocks (Template.paneOf (row.field? "args"))) := by
  intro s t pages rows
  have lists : (s.atKind template sections .page).Lists pages rows :=
    s.lists_addTemplate template sections rfl rfl
  refine ⟨Template.keepsListed_charts_cards template sections, lists.length, ?_⟩
  intro i page row stands place
  have depicts : (s.atItem template sections .page i).Depicts page row :=
    lists.depicts i page row stands place
  have isPage : page.kind = .page := (mem_ofKind.mp (List.mem_of_getElem? stands)).2
  exact (depicts.forall₂_paneBlocks isPage).imp fun _ _ => showsBlock_of_mirrors

end Session
end Sensornet
