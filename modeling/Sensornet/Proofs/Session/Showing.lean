import Sensornet.Proofs.Resolution.Members
import Sensornet.Proofs.Session.Lasting
import Sensornet.Proofs.Session.Recompile

namespace Sensornet

/-!
# What is shown to users, row by row

A card, chart, map or page becomes one row, and nothing but this row and a
binding comes of it.  The rows of a kind stand in the order of the items that
were kept, each as it could be made at its moment: after the metrics and
triggers, after the kinds that come before, and after the items of its own kind
that stand in front of it.  The network is the same at all these moments.
-/

open Fixture (Key Row)
open Json (Value Fields)
open Template (Item Kind)

/-! ## Bindings -/

namespace Bindings

variable {b : Bindings} {id other : String} {context elsewhere : Context.Name} {key : Key}

/-- What is bound was bound before, or is bound now. -/
theorem get?_bind_self :
    (b.bind id context key).get? id context = some ((b.get? id context).getD key) := by
  cases bound : b.get? id context with
  | some known => exact get?_bind_of_bound bound
  | none =>
    have free : b.isFree id context = true := by
      unfold isFree
      rw [bound]
      rfl
    have absent : Entries.get? (id, context) b.entries = none := bound
    unfold bind get?
    rw [if_pos free, ← Entries.insert_of_unknown absent, Entries.get?_insert_self]
    rfl

/-- Nothing else is bound. -/
theorem get?_bind_of_ne (different : (id, context) ≠ (other, elsewhere)) :
    (b.bind other elsewhere key).get? id context = b.get? id context := by
  unfold bind
  split
  · next free =>
    have absent : Entries.get? (other, elsewhere) b.entries = none :=
      Option.isNone_iff_eq_none.mp free
    unfold get?
    rw [← Entries.insert_of_unknown absent, Entries.get?_insert_of_ne different]
  · rfl

end Bindings

namespace Session

variable {s t : Session} {item : Item}

/-! ## One row -/

/-- A row that an item may become in a session. -/
def Depicts (s : Session) (item : Item) (row : Row) : Prop :=
  ∃ (model : String) (key : Int) (fields : Fields), item.kind.model? = some model ∧
    (s.scene .global).Gives .plain (.object item.fields) (.object fields) ∧
    row = Widget.row model key (Widget.finished s.network s.aliases item.kind fields)

/-- What comes of an item: a row, and a binding to it. -/
structure Shows (s : Session) (item : Item) (row : Row) (t : Session) : Prop where
  depicts : s.Depicts item row
  rows : t.rows = s.rows ++ [row]
  bindings : t.bindings = (s.bind item.abstractionId? .global row.key).bindings
  network : t.network = s.network
  aliases : t.aliases = s.aliases

theorem model?_of_isShown {kind : Kind} (shown : kind.isShown = true) :
    ∃ model, kind.model? = some model := by
  cases kind <;> cases shown <;> exact ⟨_, rfl⟩

theorem shows_makeShown (s : Session) (shown : item.kind.isShown = true) :
    ∃ row, s.Shows item row (s.makeShown item) := by
  rcases model?_of_isShown shown with ⟨model, named⟩
  let resolved := (s.nextInteger.2.resolve .global (.object item.fields)).1
  have gives : (s.scene .global).Gives .plain (.object item.fields) resolved :=
    ⟨⟨s.nextInteger.2.registry, s.notices⟩, rfl⟩
  have object : resolved = .object resolved.fields := by
    rcases gives.members with ⟨members, made, _⟩
    rw [made]
    rfl
  rw [object] at gives
  let row := Widget.row model s.nextInteger.1
    (Widget.finished s.network s.aliases item.kind resolved.fields)
  have parts : (s.makeShown item).rows = s.rows ++ [row] ∧
      (s.makeShown item).bindings = (s.bind item.abstractionId? .global row.key).bindings ∧
      (s.makeShown item).network = s.network ∧ (s.makeShown item).aliases = s.aliases := by
    unfold makeShown
    rw [named]
    dsimp only
    cases item.abstractionId? <;> exact ⟨rfl, rfl, rfl, rfl⟩
  exact ⟨row, ⟨model, _, _, named, gives, rfl⟩, parts.1, parts.2.1, parts.2.2.1, parts.2.2.2⟩

/-! ## The rows of some items -/

theorem network_foldl_makeShown (items : List Item)
    (shown : ∀ item ∈ items, item.kind.isShown = true) (s : Session) :
    (items.foldl makeShown s).network = s.network ∧
      (items.foldl makeShown s).aliases = s.aliases := by
  induction items generalizing s with
  | nil => exact ⟨rfl, rfl⟩
  | cons item rest ih =>
    rcases shows_makeShown s (shown item List.mem_cons_self) with ⟨row, shows⟩
    rcases ih (fun other member => shown other (List.mem_cons_of_mem item member)) (s.makeShown item)
      with ⟨network, aliases⟩
    exact ⟨network.trans shows.network, aliases.trans shows.aliases⟩

/-- Rows that items became one after the other, each at its moment. -/
structure Lists (s : Session) (items : List Item) (rows : List Row) : Prop where
  length : rows.length = items.length
  depicts : ∀ (i : Nat) (item : Item) (row : Row), items[i]? = some item -> rows[i]? = some row ->
    ((items.take i).foldl makeShown s).Depicts item row

theorem lists_foldl_makeShown (items : List Item)
    (shown : ∀ item ∈ items, item.kind.isShown = true) (s : Session) :
    ∃ added, (items.foldl makeShown s).rows = s.rows ++ added ∧ s.Lists items added := by
  induction items generalizing s with
  | nil => exact ⟨[], (List.append_nil _).symm, rfl, fun i item row stands => by cases stands⟩
  | cons item rest ih =>
    rcases shows_makeShown s (shown item List.mem_cons_self) with ⟨row, shows⟩
    rcases ih (fun other member => shown other (List.mem_cons_of_mem item member)) (s.makeShown item)
      with ⟨added, whole, lists⟩
    refine ⟨row :: added, ?_, congrArg Nat.succ lists.length, ?_⟩
    · rw [List.foldl_cons, whole, shows.rows, List.append_assoc, List.singleton_append]
    · intro i depicted rowThen stands place
      cases i with
      | zero =>
        cases stands
        cases place
        exact shows.depicts
      | succ i => exact lists.depicts i depicted rowThen stands place

/-- The rows of items of one kind have the model of the kind. -/
theorem Lists.model {items : List Item} {rows : List Row} (lists : s.Lists items rows) {kind : Kind}
    (same : ∀ item ∈ items, item.kind = kind) {row : Row} (member : row ∈ rows) :
    kind.model? = some row.model := by
  rcases List.mem_iff_getElem?.mp member with ⟨i, place⟩
  have below : i < items.length := lists.length ▸ (List.getElem?_eq_some_iff.mp place).1
  rcases lists.depicts i items[i] row (List.getElem?_eq_getElem below) place with
    ⟨model, key, fields, named, _, rfl⟩
  rw [← same items[i] (List.getElem_mem below)]
  exact named

/-! ## The rows of some kinds -/

theorem ofModel_of_model? {kind : Kind} {model : String} (named : kind.model? = some model) :
    Kind.ofModel model = kind := by
  cases kind <;> cases named <;> decide

/-- The kept items of a kind. -/
def ofKind (kept : List Item) (kind : Kind) : List Item :=
  kept.filter fun item => item.kind = kind

theorem mem_ofKind {kept : List Item} {kind : Kind} :
    item ∈ ofKind kept kind ↔ item ∈ kept ∧ item.kind = kind := by
  unfold ofKind
  rw [List.mem_filter, decide_eq_true_eq]

/-- The session after some kinds have been shown, one after the other. -/
def afterKinds (s : Session) (kept : List Item) (kinds : List Kind) : Session :=
  kinds.foldl (makeKind makeShown kept) s

theorem network_afterKinds (kept : List Item) {kinds : List Kind}
    (shown : ∀ kind ∈ kinds, kind.isShown = true) (s : Session) :
    (s.afterKinds kept kinds).network = s.network ∧
      (s.afterKinds kept kinds).aliases = s.aliases := by
  refine List.foldlRecOn (motive := fun t => t.network = s.network ∧ t.aliases = s.aliases) kinds
    (makeKind makeShown kept) ⟨rfl, rfl⟩ fun t now kind member => ?_
  rcases network_foldl_makeShown (ofKind kept kind)
    (fun item inside => (mem_ofKind.mp inside).2 ▸ shown kind member) t with ⟨network, aliases⟩
  exact ⟨network.trans now.1, aliases.trans now.2⟩

/-- What some kinds add is the rows of each, in the order of the kinds. -/
theorem lists_afterKinds (kept : List Item) {kinds : List Kind} (unique : kinds.Nodup)
    (shown : ∀ kind ∈ kinds, kind.isShown = true) (s : Session) :
    ∃ added, (s.afterKinds kept kinds).rows = s.rows ++ added ∧
      (∀ row ∈ added, ∃ kind ∈ kinds, kind.model? = some row.model) ∧
      ∀ kind ∈ kinds, ∀ model, kind.model? = some model ->
        (s.afterKinds kept (kinds.takeWhile fun earlier => decide (earlier ≠ kind))).Lists
          (ofKind kept kind) (added.filter fun row => row.model == model) := by
  induction kinds generalizing s with
  | nil =>
    exact ⟨[], (List.append_nil _).symm, fun row member => absurd member List.not_mem_nil,
      fun kind member => absurd member List.not_mem_nil⟩
  | cons first rest ih =>
    have own : ∀ item ∈ ofKind kept first, item.kind = first :=
      fun item member => (mem_ofKind.mp member).2
    have ownShown : ∀ item ∈ ofKind kept first, item.kind.isShown = true :=
      fun item member => own item member ▸ shown first List.mem_cons_self
    rcases lists_foldl_makeShown (ofKind kept first) ownShown s with ⟨front, here, lists⟩
    rcases List.nodup_cons.mp unique with ⟨absent, apart⟩
    rcases ih apart (fun kind member => shown kind (List.mem_cons_of_mem first member))
      (makeKind makeShown kept s first) with ⟨back, there, models, others⟩
    have frontModel : ∀ row ∈ front, first.model? = some row.model :=
      fun row member => lists.model own member
    refine ⟨front ++ back, ?_, ?_, ?_⟩
    · have whole : (s.afterKinds kept (first :: rest)).rows =
          ((makeKind makeShown kept s first).afterKinds kept rest).rows := rfl
      have made : (makeKind makeShown kept s first).rows = s.rows ++ front := here
      rw [whole, there, made, List.append_assoc]
    · intro row member
      rcases List.mem_append.mp member with old | new
      · exact ⟨first, List.mem_cons_self, frontModel row old⟩
      · rcases models row new with ⟨kind, among, named⟩
        exact ⟨kind, List.mem_cons_of_mem first among, named⟩
    · intro kind member model named
      rw [List.filter_append]
      by_cases same : first = kind
      · subst same
        have all : front.filter (fun row => row.model == model) = front := by
          refine List.filter_eq_self.mpr fun row among => beq_iff_eq.mpr ?_
          exact Option.some.inj ((frontModel row among).symm.trans named)
        have none' : back.filter (fun row => row.model == model) = [] := by
          refine List.filter_eq_nil_iff.mpr fun row among equal => ?_
          rcases models row among with ⟨kind, later, named'⟩
          rw [beq_iff_eq.mp equal] at named'
          exact absent ((ofModel_of_model? named).symm.trans (ofModel_of_model? named') ▸ later)
        rw [all, none', List.append_nil, List.takeWhile_cons_of_neg (by simp)]
        exact lists
      · have none' : front.filter (fun row => row.model == model) = [] := by
          refine List.filter_eq_nil_iff.mpr fun row among equal => ?_
          have other := frontModel row among
          rw [beq_iff_eq.mp equal] at other
          exact same ((ofModel_of_model? other).symm.trans (ofModel_of_model? named))
        rw [none', List.nil_append, List.takeWhile_cons_of_pos (by simpa using same)]
        exact others kind ((List.mem_cons.mp member).resolve_left (Ne.symm same)) model named

/-! ## What is bound on the way -/

/-- What one step of a fold brings about, and all of them keep, is there at the
end. -/
theorem foldl_of_mem {A B : Type} {step : B -> A -> B} {motive : B -> Prop} {items : List A}
    (keeps : ∀ b, ∀ a ∈ items, motive b -> motive (step b a)) {a : A} (member : a ∈ items)
    (made : ∀ b, motive (step b a)) (b : B) : motive (items.foldl step b) := by
  induction items generalizing b with
  | nil => cases member
  | cons first rest ih =>
    have later : ∀ b, motive b -> motive (rest.foldl step b) := fun b here =>
      List.foldlRecOn rest step here fun c now a among =>
        keeps c a (List.mem_cons_of_mem first among) now
    rcases List.mem_cons.mp member with rfl | among
    · exact later _ (made b)
    · exact ih (fun c a inside => keeps c a (List.mem_cons_of_mem first inside)) among _

section

variable {text : String} {name : Context.Name}

/-- What is bound under another id, or elsewhere, leaves a look-up as it is. -/
theorem get?_bind_apart {id : Option String} {elsewhere : Context.Name}
    (apart : id ≠ some text ∨ elsewhere ≠ name) (s : Session) (key : Key) :
    (s.bind id elsewhere key).bindings.get? text name = s.bindings.get? text name := by
  unfold Session.bind
  cases id with
  | none => rfl
  | some own =>
    refine Bindings.get?_bind_of_ne ?_
    rintro ⟨⟩
    exact apart.elim (fun other => other rfl) fun other => other rfl

/-- A fold leaves a look-up as it is when each step does. -/
theorem get?_foldl {A : Type} {step : Session -> A -> Session} {items : List A}
    (each : ∀ (t : Session) (a : A), a ∈ items ->
      (step t a).bindings.get? text name = t.bindings.get? text name) (s : Session) :
    (items.foldl step s).bindings.get? text name = s.bindings.get? text name :=
  List.foldlRecOn (motive := fun t => t.bindings.get? text name = s.bindings.get? text name)
    items step rfl fun t now a member => (each t a member).trans now

theorem get?_makeShown (shown : item.kind.isShown = true)
    (apart : item.abstractionId? ≠ some text ∨ Context.Name.global ≠ name) (s : Session) :
    (s.makeShown item).bindings.get? text name = s.bindings.get? text name := by
  rcases shows_makeShown s shown with ⟨row, shows⟩
  rw [shows.bindings, get?_bind_apart apart]

end

variable {id : String} {key : Key}

theorem bound_makeShown_of_bound (shown : item.kind.isShown = true)
    (bound : s.bindings.get? id .global = some key) :
    (s.makeShown item).bindings.get? id .global = some key := by
  rcases shows_makeShown s shown with ⟨row, shows⟩
  rw [shows.bindings]
  cases item.abstractionId? with
  | none => exact bound
  | some own => exact Bindings.get?_bind_of_bound bound

/-- An item that was shown is bound. -/
theorem bound_makeShown (shown : item.kind.isShown = true) (own : item.abstractionId? = some id)
    (s : Session) : ∃ key, (s.makeShown item).bindings.get? id .global = some key := by
  rcases shows_makeShown s shown with ⟨row, shows⟩
  rw [shows.bindings, own]
  exact ⟨_, Bindings.get?_bind_self⟩

theorem bound_foldl_makeShown {items : List Item}
    (shown : ∀ item ∈ items, item.kind.isShown = true)
    (bound : s.bindings.get? id .global = some key) :
    (items.foldl makeShown s).bindings.get? id .global = some key :=
  List.foldlRecOn (motive := fun t => t.bindings.get? id .global = some key) items makeShown bound
    fun _ now item member => bound_makeShown_of_bound (shown item member) now

/-- Nothing is bound under an id that no item has. -/
theorem get?_foldl_makeShown {items : List Item}
    (shown : ∀ item ∈ items, item.kind.isShown = true)
    (absent : ∀ item ∈ items, item.abstractionId? ≠ some id) (s : Session) :
    (items.foldl makeShown s).bindings.get? id .global = s.bindings.get? id .global :=
  get?_foldl (fun t item member => get?_makeShown (shown item member)
    (Or.inl (absent item member)) t) s

/-- The kept items of the kinds that have been shown are bound. -/
theorem bound_afterKinds {kept : List Item} {kinds : List Kind}
    (shown : ∀ kind ∈ kinds, kind.isShown = true) (member : item ∈ kept)
    (made : item.kind ∈ kinds) (own : item.abstractionId? = some id) (s : Session) :
    ∃ key, (s.afterKinds kept kinds).bindings.get? id .global = some key := by
  have each : ∀ kind ∈ kinds, ∀ item ∈ ofKind kept kind, item.kind.isShown = true :=
    fun kind among item inside => (mem_ofKind.mp inside).2 ▸ shown kind among
  refine foldl_of_mem (motive := fun t : Session => ∃ key, t.bindings.get? id .global = some key)
    ?_ made ?_ s
  · rintro t kind among ⟨key, bound⟩
    exact ⟨key, bound_foldl_makeShown (each kind among) bound⟩
  · intro t
    exact foldl_of_mem (motive := fun t : Session => ∃ key, t.bindings.get? id .global = some key)
      (fun u other inside ⟨key, bound⟩ =>
        ⟨key, bound_makeShown_of_bound (each _ made other inside) bound⟩)
      (mem_ofKind.mpr ⟨member, rfl⟩)
      (bound_makeShown (each _ made item (mem_ofKind.mpr ⟨member, rfl⟩)) own) t

/-! ## Templates -/

/-- The kinds that are shown, in the order in which they are made. -/
def shownKinds : List Kind :=
  [.card, .chart, .map, .page]

theorem mem_shownKinds {kind : Kind} : kind ∈ shownKinds ↔ kind.isShown = true := by
  cases kind <;> decide

/-- What a call keeps of a template. -/
def keptItems (s : Session) (template : List Item) (sections : List String) : List Item :=
  (Template.slice template sections s.aliases).items template

theorem keptItems_congr {s t : Session} (aliases : t.aliases = s.aliases) (template : List Item)
    (sections : List String) : t.keptItems template sections = s.keptItems template sections := by
  unfold keptItems
  rw [aliases]

/-- The session in which a call begins to make the items of a kind. -/
def atKind (s : Session) (template : List Item) (sections : List String) (kind : Kind) : Session :=
  (s.prepared template sections).afterKinds (s.keptItems template sections)
    (shownKinds.takeWhile fun earlier => decide (earlier ≠ kind))

/-- The session in which a call makes the item of a kind that is kept at some
position. -/
def atItem (s : Session) (template : List Item) (sections : List String) (kind : Kind) (i : Nat) :
    Session :=
  ((ofKind (s.keptItems template sections) kind).take i).foldl makeShown
    (s.atKind template sections kind)

theorem keptItems_of_isEmpty {template : List Item} {sections : List String}
    (empty : (Template.slice template sections s.aliases).isEmpty = true) :
    s.keptItems template sections = [] := by
  unfold keptItems Template.Slice.items
  rw [List.isEmpty_iff.mp empty]
  rfl

/-- After metrics and triggers, the kinds that are shown are made. -/
theorem addTemplate_eq (s : Session) (template : List Item) (sections : List String) :
    ∃ notice, s.addTemplate template sections =
      ((s.prepared template sections).afterKinds (s.keptItems template sections)
        shownKinds).note notice := by
  unfold addTemplate prepared
  dsimp only
  split
  · next empty =>
    rw [keptItems_of_isEmpty empty]
    exact ⟨_, rfl⟩
  · exact ⟨_, rfl⟩

/-- Up to there a call adds metrics and triggers. -/
theorem deeds_toPrepared (s : Session) (template : List Item) (sections : List String) :
    Deeds [Fixture.Model.metric] Any s (s.prepared template sections) := by
  have noted : Deeds [Fixture.Model.metric] Any s
      (s.noteAll (Template.sliceNotices template sections s.aliases)) := (Still.noteAll s _).deeds
  unfold prepared blueprinted
  dsimp only
  split
  · exact noted
  · have metrics := noted.trans (deeds_makeMetricKind _
      ((Template.slice template sections s.aliases).items template))
    exact metrics.trans (deeds_makeKind _ _ .trigger fun t item _ _ =>
      (deeds_makeTriggers_any t item).widen (List.nil_subset _))

/-- The rows of a kind that a call adds are what the kept items of the kind
became, in their order. -/
theorem lists_addTemplate (s : Session) (template : List Item) (sections : List String)
    {kind : Kind} (shown : kind.isShown = true) {model : String}
    (named : kind.model? = some model) :
    (s.atKind template sections kind).Lists (ofKind (s.keptItems template sections) kind)
      (((s.addTemplate template sections).rows.drop s.rows.length).filter
        fun row => row.model == model) := by
  have unique : shownKinds.Nodup := by decide
  rcases lists_afterKinds (s.keptItems template sections) unique (fun _ => mem_shownKinds.mp)
    (s.prepared template sections) with ⟨added, whole, _, lists⟩
  rcases s.addTemplate_eq template sections with ⟨notice, made⟩
  have early := s.deeds_toPrepared template sections
  have longer : s.rows.length ≤ (s.prepared template sections).rows.length := by
    simpa using early.moves.heads.length_le
  have hidden : ((s.prepared template sections).rows.drop s.rows.length).filter
      (fun row => row.model == model) = [] := by
    refine List.filter_eq_nil_iff.mpr fun row member equal => ?_
    have others : model ≠ Fixture.Model.metric ∧ model ≠ Fixture.Model.trigger := by
      cases kind <;> cases shown <;> cases named <;> decide
    rcases early.added member with metric | trigger
    · exact others.1 ((beq_iff_eq.mp equal).symm.trans (List.mem_singleton.mp metric))
    · exact others.2 ((beq_iff_eq.mp equal).symm.trans trigger)
  rw [made, rows_note, whole, List.drop_append_of_le_length longer, List.filter_append, hidden,
    List.nil_append]
  exact lists kind (mem_shownKinds.mpr shown) model named

theorem shown_before {kind earlier : Kind}
    (member : earlier ∈ shownKinds.takeWhile fun earlier => decide (earlier ≠ kind)) :
    earlier.isShown = true :=
  mem_shownKinds.mp ((List.takeWhile_prefix _).subset member)

theorem shown_of_mem_ofKind {kept : List Item} {kind : Kind} (shown : kind.isShown = true)
    (member : item ∈ ofKind kept kind) : item.kind.isShown = true :=
  (mem_ofKind.mp member).2 ▸ shown

theorem aliases_prepared (s : Session) (template : List Item) (sections : List String) :
    (s.prepared template sections).aliases = s.aliases :=
  (s.deeds_toPrepared template sections).settings.2

/-- The network is the same whenever something is shown. -/
theorem network_atItem (s : Session) (template : List Item) (sections : List String) {kind : Kind}
    (shown : kind.isShown = true) (i : Nat) :
    (s.atItem template sections kind i).network = (s.addTemplate template sections).network ∧
      (s.atItem template sections kind i).aliases = s.aliases := by
  rcases network_afterKinds (s.keptItems template sections) (fun _ => shown_before)
    (s.prepared template sections) with ⟨before, aliases⟩
  rcases network_foldl_makeShown ((ofKind (s.keptItems template sections) kind).take i)
    (fun item member => shown_of_mem_ofKind shown (List.mem_of_mem_take member))
    (s.atKind template sections kind) with ⟨own, ownAliases⟩
  rcases network_afterKinds (s.keptItems template sections) (fun _ => mem_shownKinds.mp)
    (s.prepared template sections) with ⟨whole, _⟩
  rcases s.addTemplate_eq template sections with ⟨notice, made⟩
  constructor
  · rw [made, network_note, whole]
    exact own.trans before
  · exact (ownAliases.trans aliases).trans (s.aliases_prepared template sections)

end Session
end Sensornet
