import Sensornet.Proofs.Resolution.References
import Sensornet.Proofs.Session.Anchored
import Sensornet.Proofs.Template.Dependencies

namespace Sensornet

/-!
# What pages list

A page lists charts, cards and maps by their ids, and its row lists their
keys.  Two readers go over these lists.  The slice keeps every widget whose id
it finds there, and the resolution later looks the ids up.  What the second
one refers to was mentioned for the first one too, unless it is the empty
text, which is no id.  As widgets are made before pages, every kept one is
bound when the page is made.
-/

open Fixture (Key Row)
open Json (Value Fields)
open Template (Item Kind)
open Resolution (Scene)

/-! ## The fields of a page row -/

namespace Widget

theorem field?_row {key : String} (other : key ≠ "id") (model : String) (n : Int)
    (fields : Fields) : (Widget.row model n fields).field? key = Entries.get? key fields := by
  have skipped : (Widget.row model n fields).field? key =
      Entries.get? key (Entries.erase "id" fields) := if_neg (Ne.symm other)
  rw [skipped]
  exact Entries.get?_erase_of_ne other fields

/-- A finished page has a list under each of its keys for widgets. -/
theorem get?_page {key : String} (listed : key ∈ ["charts", "cards", "maps"]) (fields : Fields) :
    Entries.get? key (page fields) =
      some (.array (Value.itemsOf (Entries.get? key fields))) := by
  have charts : "charts" ≠ "cards" ∧ "charts" ≠ "maps" ∧ "cards" ≠ "maps" := by decide
  rcases charts with ⟨first, second, third⟩
  unfold page
  rw [List.foldl_cons, List.foldl_cons, List.foldl_cons, List.foldl_nil]
  simp only [List.mem_cons, List.not_mem_nil, or_false] at listed
  rcases listed with rfl | rfl | rfl
  · rw [Entries.get?_insert_of_ne second, Entries.get?_insert_of_ne first,
      Entries.get?_insert_self]
  · rw [Entries.get?_insert_of_ne third, Entries.get?_insert_self,
      Entries.get?_insert_of_ne first.symm]
  · rw [Entries.get?_insert_self, Entries.get?_insert_of_ne third.symm,
      Entries.get?_insert_of_ne second.symm]

end Widget

/-! ## The two readers -/

namespace Template.Item

/-- The ids that an item lists under a key. -/
def listedIds (item : Item) (key : String) : List String :=
  Scene.references (Entries.get? key item.fields)

theorem get?_fields (item : Item) (key : String) :
    Entries.get? key item.fields = (item.get? "fields").bind (Value.get? key) := by
  unfold fields fields?
  cases item.get? "fields" with
  | none => rfl
  | some value => cases value <;> rfl

/-- An id that a page lists is one that the slice sees mentioned. -/
theorem mem_mentionedWidgets {item : Item} {key id : String}
    (listed : key ∈ ["charts", "cards", "maps"]) (member : id ∈ item.listedIds key)
    (filled : id ≠ "") : id ∈ item.mentionedWidgets := by
  have seen : id ∈ codesOf ((item.get? "fields").bind (Value.get? key)) := by
    unfold listedIds Scene.references at member
    rw [item.get?_fields] at member
    rcases List.mem_filterMap.mp member with ⟨value, among, refers⟩
    refine List.mem_filterMap.mpr ⟨value, among, ?_⟩
    cases value <;> cases refers
    · rfl
    · exact if_neg (fun empty => filled (String.isEmpty_iff.mp empty))
  unfold mentionedWidgets
  exact mem_distinct.mpr (List.mem_append_left _ (List.mem_append_left _
    (List.mem_flatMap.mpr ⟨key, listed, seen⟩)))

end Template.Item

namespace Session

variable {s t m : Session} {page : Item} {row : Row}

/-- The keys that the ids listed by an item are bound to in a session. -/
def listedKeys (s : Session) (item : Item) (key : String) : List Key :=
  (s.scene .global).keysOf (item.listedIds key)

/-- The row of a page lists the keys of what the page lists. -/
theorem Depicts.field?_page (depicts : m.Depicts page row) (isPage : page.kind = .page)
    {key : String} (listed : key ∈ ["charts", "cards", "maps"])
    (list : Scene.isReferenceList (Entries.get? key page.fields) = true) :
    row.field? key = some (.array ((m.listedKeys page key).map Key.toJson)) := by
  rcases depicts with ⟨model, n, fields, _, gives, rfl⟩
  rcases gives.object with ⟨members, same, each⟩
  cases same
  have names : key ≠ "id" ∧ key ≠ "center" ∧
      Resolution.Rule.ofKey key .global = .widgets := by
    simp only [List.mem_cons, List.not_mem_nil, or_false] at listed
    rcases listed with rfl | rfl | rfl <;> decide
  have resolved := each key names.2.1
  have rule : Resolution.Rule.ofKey key (m.scene .global).context = .widgets := names.2.2
  rw [rule] at resolved
  rw [isPage, Widget.field?_row names.1]
  unfold Widget.finished
  dsimp only
  rw [Widget.get?_page listed, Scene.itemsOf_of_gives_widgets resolved list]
  rfl

/-- What a page row says under a key for widgets, if the page is made in one
session, another one stands at the end, and some pages are still to be made. -/
structure ListsWidgets (template rest : List Item) (m t : Session) (page : Item) (row : Row)
    (key : String) : Prop where
  /-- the row lists the keys of the ids that the page lists -/
  keys : row.field? key = some (.array ((m.listedKeys page key).map Key.toJson))
  /-- these are integer keys of rows that are shown to users -/
  shown : ∀ known ∈ m.listedKeys page key, (∃ n, known = .integer n) ∧
    ∃ shown ∈ t.rows, shown.key = known ∧ shown.model ∈ shownModels
  /-- no chart, card or map of the template is left out -/
  complete : ∀ widget ∈ template, widget.kind.isWidget = true ->
    ∀ id ∈ page.listedIds key, widget.abstractionId? = some id ->
      ∃ known ∈ m.listedKeys page key, m.bindings.get? id .global = some known
  /-- the keys are those of the end, but for pages that are still to be made -/
  settled : ∀ id ∈ page.listedIds key, m.bindings.get? id .global = t.bindings.get? id .global ∨
    m.bindings.get? id .global = none ∧ ∃ later ∈ rest, later.abstractionId? = some id

/-! ## A call -/

variable {template : List Item} {sections : List String}

/-- The pages that a call keeps. -/
def keptPages (s : Session) (template : List Item) (sections : List String) : List Item :=
  ofKind (s.keptItems template sections) .page

/-- Pages are made last, so a call ends with those that are still to be made. -/
theorem addTemplate_of_page (s : Session) (template : List Item) (sections : List String)
    (i : Nat) : ∃ notice, s.addTemplate template sections =
      (((s.keptPages template sections).drop i).foldl makeShown
        (s.atItem template sections .page i)).note notice := by
  rcases s.addTemplate_eq template sections with ⟨notice, made⟩
  refine ⟨notice, ?_⟩
  unfold atItem keptPages
  rw [← List.foldl_append, List.take_append_drop]
  exact made

/-- Every widget of the template that a kept page lists is bound before the first
page is made. -/
theorem bound_atItem {widget : Item} (member : widget ∈ template)
    (isWidget : widget.kind.isWidget = true) {id : String} (own : widget.abstractionId? = some id)
    (kept : page ∈ s.keptPages template sections) {key : String}
    (listed : key ∈ ["charts", "cards", "maps"]) (mentioned : id ∈ page.listedIds key) (i : Nat) :
    ∃ known, (s.atItem template sections .page i).bindings.get? id .global = some known := by
  rcases mem_ofKind.mp kept with ⟨chosen, isPage⟩
  rcases (Template.mem_items_slice_of_page isPage).mp chosen with ⟨inTemplate, selected⟩
  have seen : id ∈ Template.mentionedIds template sections :=
    Template.mem_mentionedIds.mpr ⟨page, inTemplate, isPage, selected,
      Item.mem_mentionedWidgets listed mentioned (Item.ne_empty_of_abstractionId? own)⟩
  have keptToo : widget ∈ s.keptItems template sections := by
    refine (Template.mem_items_slice_of_widget isWidget).mpr
      (Template.mem_itemsAt_widgetPositions.mpr ⟨member, isWidget, ?_⟩)
    rw [own]
    exact List.contains_iff_mem.mpr seen
  have made : widget.kind ∈ shownKinds.takeWhile (fun earlier => decide (earlier ≠ .page)) := by
    revert isWidget
    cases widget.kind <;> decide
  rcases bound_afterKinds (fun _ => shown_before) keptToo made own (s.prepared template sections)
    with ⟨known, bound⟩
  exact ⟨known, bound_foldl_makeShown
    (fun other among => shown_of_mem_ofKind rfl (List.mem_of_mem_take among)) bound⟩

/-- After any calls, whatever rows they went on from, a template is compiled.
Its page rows are those of the kept pages, in their order.  Under each key for
widgets whose value is a list, one reference, null or absent, a page row lists
the keys of the ids that the page lists. -/
theorem pages_addTemplate (options : Options) (supply : Nat) (existing : List Row)
    (calls : List Call) (template : List Item) (sections : List String) :
    let s := (resume options supply existing).run calls
    let t := s.addTemplate template sections
    let pages := s.keptPages template sections
    let rows := (t.rows.drop s.rows.length).filter fun row => row.model == Fixture.Model.page
    rows.length = pages.length ∧
      ∀ (i : Nat) (page : Item) (row : Row), pages[i]? = some page -> rows[i]? = some row ->
        ∀ key ∈ ["charts", "cards", "maps"],
          Scene.isReferenceList (Entries.get? key page.fields) = true ->
            ListsWidgets template (pages.drop i) (s.atItem template sections .page i) t page row key := by
  intro s t pages rows
  have anchored : s.Anchored := (Anchored.resume options supply existing).run calls
  have lists : (s.atKind template sections .page).Lists pages rows :=
    s.lists_addTemplate template sections rfl rfl
  refine ⟨lists.length, fun i page row stands place key listed list => ?_⟩
  have kept : page ∈ pages := List.mem_of_getElem? stands
  have made : t.Anchored := anchored.addTemplate template sections
  rcases s.addTemplate_of_page template sections i with ⟨notice, whole⟩
  have rest : ∀ item ∈ pages.drop i, item.kind.isShown = true :=
    fun item member => shown_of_mem_ofKind rfl (List.mem_of_mem_drop member)
  have bindings : t.bindings =
      ((pages.drop i).foldl makeShown (s.atItem template sections .page i)).bindings :=
    (congrArg Session.bindings whole).trans rfl
  have lasting : ∀ {id : String} {known : Key},
      (s.atItem template sections .page i).bindings.get? id .global = some known ->
        t.bindings.get? id .global = some known := by
    intro id known bound
    rw [bindings]
    exact bound_foldl_makeShown rest bound
  constructor
  · exact (lists.depicts i page row stands place).field?_page (mem_ofKind.mp kept).2 listed list
  · intro known member
    rcases List.mem_filterMap.mp (mem_distinct.mp member) with ⟨id, _, bound⟩
    exact made.shown (lasting bound)
  · intro widget member isWidget id mentioned own
    rcases bound_atItem member isWidget own kept listed mentioned i with ⟨known, bound⟩
    exact ⟨known, mem_distinct.mpr (List.mem_filterMap.mpr ⟨id, mentioned, bound⟩), bound⟩
  · intro id mentioned
    cases bound : (s.atItem template sections .page i).bindings.get? id .global with
    | some known => exact Or.inl (lasting bound).symm
    | none =>
      by_cases later : ∃ other ∈ pages.drop i, other.abstractionId? = some id
      · exact Or.inr ⟨rfl, later⟩
      · left
        rw [bindings, get?_foldl_makeShown rest
          (fun other member own => later ⟨other, member, own⟩), bound]

end Session
end Sensornet
