import Sensornet.Proofs.Metric.Spelling
import Sensornet.Proofs.Resolution.Descriptors
import Sensornet.Proofs.Session.Again
import Sensornet.Proofs.Session.Twins
import Sensornet.Proofs.Template.Kept

namespace Sensornet

/-!
# Slices of respelled templates

A slice compares descriptors as they are written, the letters of their targets
included.  Whether another spelling changes what is kept therefore depends on
the template as a whole: a descriptor may be respelled wherever it stands, as
long as descriptors that were the same stay the same and different ones stay
different.

The texts of a template and those of a respelled one are compared through a
relation that says what may stand in place of what.  Every descriptor that a
slice needs has a partner in this relation that the other slice needs, since the
descriptors of a slice are the least closed set.
-/

theorem rel_bind {A B C D : Type} {R : A -> B -> Prop} {P : C -> D -> Prop} {x : Option A}
    {y : Option B} (related : Option.Rel R x y) {f : A -> Option C} {g : B -> Option D}
    (each : ∀ a b, R a b -> Option.Rel P (f a) (g b)) : Option.Rel P (x.bind f) (y.bind g) := by
  cases related with
  | none => exact .none
  | some own => exact each _ _ own

namespace Json
namespace Value

/-! ## Values with other texts -/

mutual

/-- A value differs from another one in its texts only, each of which stands in
place of a related one. -/
inductive Rewritten (R : String -> String -> Prop) : Value -> Value -> Prop
  | null : Rewritten R .null .null
  | bool (flag : Bool) : Rewritten R (.bool flag) (.bool flag)
  | number (n : Number) : Rewritten R (.number n) (.number n)
  | text {raw written : String} (related : R raw written) : Rewritten R (.text raw) (.text written)
  | array {items others : List Value} (each : RewrittenItems R items others) :
      Rewritten R (.array items) (.array others)
  | object {fields others : Fields} (each : RewrittenFields R fields others) :
      Rewritten R (.object fields) (.object others)

/-- Items do so, one beside the other. -/
inductive RewrittenItems (R : String -> String -> Prop) : List Value -> List Value -> Prop
  | nil : RewrittenItems R [] []
  | cons {item other : Value} {rest others : List Value} (first : Rewritten R item other)
      (later : RewrittenItems R rest others) : RewrittenItems R (item :: rest) (other :: others)

/-- Members do so, under the same keys. -/
inductive RewrittenFields (R : String -> String -> Prop) : Fields -> Fields -> Prop
  | nil : RewrittenFields R [] []
  | cons (key : String) {value other : Value} {rest others : Fields}
      (first : Rewritten R value other) (later : RewrittenFields R rest others) :
      RewrittenFields R ((key, value) :: rest) ((key, other) :: others)

end

variable {R : String -> String -> Prop} {value other : Value}

mutual

theorem Rewritten.texts {value other : Value} :
    Rewritten R value other -> List.Forall₂ R value.texts other.texts
  | .null => .nil
  | .bool _ => .nil
  | .number _ => .nil
  | .text related => .cons related .nil
  | .array each => each.texts
  | .object each => each.texts

theorem RewrittenItems.texts {items others : List Value} :
    RewrittenItems R items others -> List.Forall₂ R (textsOfItems items) (textsOfItems others)
  | .nil => .nil
  | .cons first later => List.rel_append first.texts later.texts

theorem RewrittenFields.texts {fields others : Fields} :
    RewrittenFields R fields others ->
      List.Forall₂ R (textsOfFields fields) (textsOfFields others)
  | .nil => .nil
  | .cons _ first later => List.rel_append first.texts later.texts

end

mutual

theorem Rewritten.flip {value other : Value} :
    Rewritten R value other -> Rewritten (flip R) other value
  | .null => .null
  | .bool flag => .bool flag
  | .number n => .number n
  | .text related => .text related
  | .array each => .array each.flip
  | .object each => .object each.flip

theorem RewrittenItems.flip {items others : List Value} :
    RewrittenItems R items others -> RewrittenItems (flip R) others items
  | .nil => .nil
  | .cons first later => .cons first.flip later.flip

theorem RewrittenFields.flip {fields others : Fields} :
    RewrittenFields R fields others -> RewrittenFields (flip R) others fields
  | .nil => .nil
  | .cons key first later => .cons key first.flip later.flip

end

/-! ## What is read off a value -/

theorem RewrittenItems.forall₂ {items others : List Value} (each : RewrittenItems R items others) :
    List.Forall₂ (Rewritten R) items others := by
  induction items generalizing others with
  | nil =>
    cases each
    exact .nil
  | cons item rest ih =>
    cases each with
    | cons first later => exact .cons first (ih later)

theorem RewrittenFields.get? {fields others : Fields} (each : RewrittenFields R fields others)
    (key : String) :
    Option.Rel (Rewritten R) (Entries.get? key fields) (Entries.get? key others) := by
  induction fields generalizing others with
  | nil =>
    cases each
    exact .none
  | cons member rest ih =>
    cases each with
    | cons own first later =>
      rw [Entries.get?, Entries.get?]
      by_cases same : own = key
      · rw [if_pos same, if_pos same]
        exact .some first
      · rw [if_neg same, if_neg same]
        exact ih later

theorem Rewritten.get? (rewritten : Rewritten R value other) (key : String) :
    Option.Rel (Rewritten R) (value.get? key) (other.get? key) := by
  cases rewritten with
  | object each => exact each.get? key
  | null | bool | number | text | array => exact .none

theorem Rewritten.text? (rewritten : Rewritten R value other) :
    Option.Rel R value.text? other.text? := by
  cases rewritten with
  | text related => exact .some related
  | null | bool | number | array | object => exact .none

theorem Rewritten.items (rewritten : Rewritten R value other) :
    List.Forall₂ (Rewritten R) value.items other.items := by
  cases rewritten with
  | null => exact .nil
  | array each => exact each.forall₂
  | bool flag => exact .cons (.bool flag) .nil
  | number n => exact .cons (.number n) .nil
  | text related => exact .cons (.text related) .nil
  | object each => exact .cons (.object each) .nil

theorem rewritten_itemsOf {value other : Option Value}
    (rewritten : Option.Rel (Rewritten R) value other) :
    List.Forall₂ (Rewritten R) (itemsOf value) (itemsOf other) := by
  cases rewritten with
  | none => exact .nil
  | some own => exact own.items

end Value
end Json

namespace Template

open Json (Value)
open Sensornet.Metric (Aliases Descriptor Respells)

variable {R : String -> String -> Prop} {aliases : Aliases} {template others : List Item}
  {sections : List String} {item other : Item}

/-! ## Respelled templates -/

/-- Whether the texts of such items are searched for descriptors. -/
def Kind.isSearched (kind : Kind) : Bool :=
  kind.isWidget || kind == .trigger

/-- An item stands in place of another one: the same item or, where texts are
searched for descriptors, one that goes by the same id and has related texts. -/
inductive Item.Rewritten (R : String -> String -> Prop) : Item -> Item -> Prop
  | same {item : Item} (passed : item.kind.isSearched = false) : Item.Rewritten R item item
  | texts {item other : Item} (searched : item.kind.isSearched = true)
      (named : other.abstractionId? = item.abstractionId?)
      (written : item.value.Rewritten R other.value) : Item.Rewritten R item other

/-- A way to respell texts that writes one descriptor in one way. -/
structure Respelling (aliases : Aliases) (R : String -> String -> Prop) : Prop where
  /-- a text is replaced by one that differs in the letters of a target at most -/
  respells : ∀ raw written, R raw written -> Respells raw written
  /-- texts that are one descriptor are so when they are replaced -/
  coherent : ∀ raw written, R raw written -> ∀ text respelled, R text respelled ->
    Descriptor.ofText? aliases raw = Descriptor.ofText? aliases text ->
      Descriptor.ofText? aliases written = Descriptor.ofText? aliases respelled

/-- A descriptor is written in place of another one. -/
def Answers (aliases : Aliases) (R : String -> String -> Prop) (d e : Descriptor) : Prop :=
  ∃ raw written, R raw written ∧ Descriptor.ofText? aliases raw = some d ∧
    Descriptor.ofText? aliases written = some e

namespace Respelling

variable (respelling : Respelling aliases R)

include respelling

/-- What is written in place of a descriptor is a descriptor, and so is what it
is written in place of. -/
theorem reads {raw written : String} (related : R raw written) :
    Option.Rel (Answers aliases R) (Descriptor.ofText? aliases raw)
      (Descriptor.ofText? aliases written) := by
  have alike := Descriptor.ofText?_respells (respelling.respells raw written related) aliases
  cases read : Descriptor.ofText? aliases raw with
  | none =>
    rw [read] at alike
    cases other : Descriptor.ofText? aliases written with
    | none => exact .none
    | some e => rw [other] at alike; cases alike
  | some d =>
    rw [read] at alike
    cases other : Descriptor.ofText? aliases written with
    | none => rw [other] at alike; cases alike
    | some e => exact .some ⟨raw, written, related, read, other⟩

theorem exists_reads {raw written : String} (related : R raw written) {d : Descriptor}
    (read : Descriptor.ofText? aliases raw = some d) :
    ∃ e, Descriptor.ofText? aliases written = some e ∧ Answers aliases R d e := by
  have pair := respelling.reads related
  rw [read] at pair
  generalize Descriptor.ofText? aliases written = other at pair ⊢
  cases pair with
  | some answers => exact ⟨_, rfl, answers⟩

/-- The partner of a descriptor has its category and interval. -/
theorem alike {d e : Descriptor} (answers : Answers aliases R d e) : Descriptor.Alike d e := by
  rcases answers with ⟨raw, written, related, read, reads⟩
  have alike := Descriptor.ofText?_respells (respelling.respells raw written related) aliases
  rw [read, reads] at alike
  cases alike with
  | some alike => exact alike

/-- A descriptor has one partner. -/
theorem unique : Relator.RightUnique (Answers aliases R) := by
  rintro d e f ⟨raw, written, related, read, reads⟩ ⟨text, respelled, relatedToo, readToo, readsToo⟩
  have same := respelling.coherent raw written related text respelled relatedToo
    (read.trans readToo.symm)
  exact Option.some.inj (reads.symm.trans (same.trans readsToo))

end Respelling

/-! ## What is read off an item -/

namespace Item

theorem get?_of_rewritten (written : item.value.Rewritten R other.value) (key : String) :
    Option.Rel (Value.Rewritten R) (item.get? key) (other.get? key) :=
  written.get? key

/-- The kind is that of the model, which is no descriptor. -/
theorem kind_of_rewritten (respells : ∀ raw written, R raw written -> Respells raw written)
    (written : item.value.Rewritten R other.value) : other.kind = item.kind := by
  have models : Option.Rel R ((item.get? "model").bind Value.text?)
      ((other.get? "model").bind Value.text?) :=
    rel_bind (get?_of_rewritten written "model") fun _ _ own => own.text?
  unfold kind
  generalize (item.get? "model").bind Value.text? = model at models ⊢
  generalize (other.get? "model").bind Value.text? = respelled at models ⊢
  cases models with
  | none => rfl
  | some related => exact (respells _ _ related).ofModel

theorem output?_of_rewritten (respelling : Respelling aliases R)
    (written : item.value.Rewritten R other.value) :
    Option.Rel (Answers aliases R) (item.output? aliases) (other.output? aliases) :=
  rel_bind (rel_bind (get?_of_rewritten written "output_metric") fun _ _ own => own.text?)
    fun _ _ related => respelling.reads related

theorem inputMetrics_of_rewritten (written : item.value.Rewritten R other.value) :
    List.Forall₂ R item.inputMetrics other.inputMetrics := by
  have calculators : List.Forall₂ (Value.Rewritten R) item.calculators other.calculators :=
    Value.rewritten_itemsOf (get?_of_rewritten written "calculators")
  refine List.rel_flatMap calculators fun calculator respelled own => ?_
  have metrics : Option.Rel (Value.Rewritten R)
      (((calculator.get? "calc_args").bind (Value.get? "inputs")).bind (Value.get? "metrics"))
      (((respelled.get? "calc_args").bind (Value.get? "inputs")).bind (Value.get? "metrics")) :=
    rel_bind (rel_bind (own.get? "calc_args") fun _ _ args => args.get? "inputs")
      fun _ _ inputs => inputs.get? "metrics"
  exact List.rel_filterMap (fun _ _ listed => listed.text?) (Value.rewritten_itemsOf metrics)

theorem Rewritten.kind (respelling : Respelling aliases R) (written : Rewritten R item other) :
    other.kind = item.kind := by
  cases written with
  | same => rfl
  | texts _ _ written => exact kind_of_rewritten respelling.respells written

theorem Rewritten.abstractionId? (written : Rewritten R item other) :
    other.abstractionId? = item.abstractionId? := by
  cases written with
  | same => rfl
  | texts _ named _ => exact named

theorem Rewritten.flip (respelling : Respelling aliases R) (written : Rewritten R item other) :
    Rewritten (flip R) other item := by
  cases written with
  | same passed => exact .same passed
  | texts searched named written =>
    have kind := kind_of_rewritten respelling.respells written
    exact .texts (kind ▸ searched) named.symm written.flip

/-- An item that is not searched stays as it is. -/
theorem Rewritten.eq_of_passed (written : Rewritten R item other)
    (passed : item.kind.isSearched = false) : other = item := by
  cases written with
  | same => rfl
  | texts searched => rw [passed] at searched; cases searched

/-- The texts of an item that is searched are replaced by related ones. -/
theorem Rewritten.value_of_searched (written : Rewritten R item other)
    (searched : item.kind.isSearched = true) : item.value.Rewritten R other.value := by
  cases written with
  | same passed => rw [passed] at searched; cases searched
  | texts _ _ written => exact written

end Item

/-! ## What is kept of a respelled template -/

section Kept

variable (respelling : Respelling aliases R)
  (written : List.Forall₂ (Item.Rewritten R) template others)

include respelling written

theorem forall₂_flip : List.Forall₂ (Item.Rewritten (flip R)) others template :=
  List.Forall₂.flip (List.Forall₂.imp (fun _ _ own => own.flip respelling) written)

omit respelling in
theorem mem_of_passed {item : Item} (member : item ∈ template)
    (passed : item.kind.isSearched = false) : item ∈ others := by
  rcases exists_of_mem_forall₂_left written member with ⟨other, among, own⟩
  exact own.eq_of_passed passed ▸ among

omit respelling in
/-- Pages are not searched, so they mention what they mentioned. -/
theorem mem_mentionedIds_of_rewritten {id : String}
    (mentioned : id ∈ mentionedIds template sections) :
    id ∈ mentionedIds others sections := by
  rcases mem_mentionedIds.mp mentioned with ⟨page, member, kind, selected, mentions⟩
  have passed : page.kind.isSearched = false := by rw [kind]; rfl
  exact mem_mentionedIds.mpr ⟨page, mem_of_passed written member passed, kind, selected, mentions⟩

omit respelling in
theorem isMentioned_of_rewritten (own : Item.Rewritten R item other)
    (mentioned : item.abstractionId?.any (mentionedIds template sections).contains = true) :
    other.abstractionId?.any (mentionedIds others sections).contains = true := by
  rw [Option.any_eq_true] at mentioned ⊢
  rcases mentioned with ⟨id, goesBy, among⟩
  exact ⟨id, own.abstractionId?.trans goesBy, List.contains_iff_mem.mpr
    (mem_mentionedIds_of_rewritten written (List.contains_iff_mem.mp among))⟩

/-- Every needed descriptor has a partner that is needed of the respelled
template. -/
theorem exists_answers : ∀ d ∈ (slice template sections aliases).descriptors,
    ∃ e ∈ (slice others sections aliases).descriptors, Answers aliases R d e := by
  have closes : Closes aliases others ((slice others sections aliases).items others)
      (· ∈ (slice others sections aliases).descriptors) := closes_descriptors
  -- to have a partner is closed under both ways in which a descriptor comes to be needed
  refine descriptors_least ⟨?_, ?_⟩
  · intro item kept widget text mentions d read
    rw [mem_items_slice_of_widget widget, mem_itemsAt_widgetPositions] at kept
    rcases kept with ⟨member, _, mentioned⟩
    rcases exists_of_mem_forall₂_left written member with ⟨other, among, own⟩
    have searched : item.kind.isSearched = true := by
      unfold Kind.isSearched
      rw [widget, Bool.true_or]
    have shown : other.kind.isWidget = true := own.kind respelling ▸ widget
    have kept : other ∈ (slice others sections aliases).items others :=
      (mem_items_slice_of_widget shown).mpr (mem_itemsAt_widgetPositions.mpr
        ⟨among, shown, isMentioned_of_rewritten written own mentioned⟩)
    rcases exists_of_mem_forall₂_left (own.value_of_searched searched).texts mentions with
      ⟨respelled, stands, related⟩
    rcases respelling.exists_reads related read with ⟨e, reads, answers⟩
    exact ⟨e, closes.mentioned other kept shown respelled stands e reads, answers⟩
  · rintro item member trigger output writes ⟨e, need, answers⟩ text listed d read
    rcases exists_of_mem_forall₂_left written member with ⟨other, among, own⟩
    have value := own.value_of_searched (by rw [trigger]; rfl)
    have kind : other.kind = .trigger := (own.kind respelling).trans trigger
    have outputs := Item.output?_of_rewritten respelling value
    rw [writes] at outputs
    generalize respelled : other.output? aliases = output' at outputs
    cases outputs with
    | some answersToo =>
      -- what the respelled trigger writes is the partner that is needed, as there is no other
      cases respelling.unique answers answersToo
      rcases exists_of_mem_forall₂_left (Item.inputMetrics_of_rewritten value) listed with
        ⟨input, listedToo, related⟩
      rcases respelling.exists_reads related read with ⟨f, reads, answersInput⟩
      exact ⟨f, closes.inputs other among kind e respelled need input listedToo f reads,
        answersInput⟩

theorem metricNeeded_of_rewritten
    (need : metricNeeded aliases (select template sections aliases).needed item = true) :
    metricNeeded aliases (select others sections aliases).needed item = true := by
  rcases metricNeeded_iff.mp need with ⟨category, interval, ofCategory, ofInterval, d, member, fits⟩
  rcases exists_answers respelling written d (mem_descriptors.mpr member) with ⟨e, among, answers⟩
  have alike := respelling.alike answers
  exact metricNeeded_iff.mpr ⟨category, interval, ofCategory, ofInterval, e,
    mem_descriptors.mp among, alike.category.trans fits.1, alike.interval.trans fits.2⟩

theorem writesOneOf_of_rewritten (value : item.value.Rewritten R other.value)
    (writes : item.writesOneOf aliases (select template sections aliases).needed = true) :
    other.writesOneOf aliases (select others sections aliases).needed = true := by
  rcases Item.writesOneOf_iff.mp writes with ⟨d, member, output⟩
  rcases exists_answers respelling written d (mem_descriptors.mpr member) with ⟨e, among, answers⟩
  have outputs := Item.output?_of_rewritten respelling value
  rw [output] at outputs
  generalize respelled : other.output? aliases = output' at outputs
  cases outputs with
  | some answersToo =>
    cases respelling.unique answers answersToo
    exact Item.writesOneOf_iff.mpr ⟨e, mem_descriptors.mp among, respelled⟩

omit written in
theorem readsDescriptors_of_rewritten (value : item.value.Rewritten R other.value)
    (reads : item.readsDescriptors aliases = true) : other.readsDescriptors aliases = true := by
  refine Item.readsDescriptors_iff.mpr fun input listed marked => ?_
  rcases exists_of_mem_forall₂ (Item.inputMetrics_of_rewritten value) listed with
    ⟨text, listedToo, related⟩
  have markedToo := (respelling.respells text input related).isMarked.symm.trans marked
  rcases Item.readsDescriptors_iff.mp reads text listedToo markedToo with ⟨d, read⟩
  rcases respelling.exists_reads related read with ⟨e, readToo, _⟩
  exact ⟨e, readToo⟩

/-- An item that is kept is kept in its new spelling. -/
theorem isKept_of_rewritten (own : Item.Rewritten R item other)
    (kept : isKept aliases sections (mentionedIds template sections)
      (select template sections aliases).needed item = true) :
    isKept aliases sections (mentionedIds others sections)
      (select others sections aliases).needed other = true := by
  unfold isKept at kept ⊢
  rw [own.kind respelling]
  cases kind : item.kind with
  | page =>
    rw [kind] at kept
    rw [own.eq_of_passed (by rw [kind]; rfl)]
    exact kept
  | chart | card | map =>
    rw [kind] at kept
    exact isMentioned_of_rewritten written own kept
  | metric =>
    rw [kind] at kept
    rw [own.eq_of_passed (by rw [kind]; rfl)]
    exact metricNeeded_of_rewritten respelling written kept
  | trigger =>
    rw [kind] at kept
    have value := own.value_of_searched (by rw [kind]; rfl)
    rw [Bool.and_eq_true] at kept
    exact Bool.and_eq_true_iff.mpr ⟨writesOneOf_of_rewritten respelling written value kept.1,
      readsDescriptors_of_rewritten respelling value kept.2⟩
  | other =>
    rw [kind] at kept
    cases kept

theorem mem_part_of_rewritten {kind : Kind} {index : Nat}
    (member : index ∈ (select template sections aliases).part kind) :
    index ∈ (select others sections aliases).part kind := by
  rw [part_select, mem_positions] at member ⊢
  rcases member with ⟨item, stands, same, kept⟩
  rcases getElem?_of_forall₂ written stands with ⟨other, standsToo, own⟩
  exact ⟨other, standsToo, (own.kind respelling).trans same,
    isKept_of_rewritten respelling written own kept⟩

omit respelling written in
theorem part_of_rewritten (respelling : Respelling aliases R)
    (back : Respelling aliases (flip R))
    (written : List.Forall₂ (Item.Rewritten R) template others) (kind : Kind) :
    (select others sections aliases).part kind = (select template sections aliases).part kind := by
  have located : Locates template (fun item => item.kind = kind ∧
      Justified aliases template sections item) ((select template sections aliases).part kind) :=
    locates_part kind
  have locatedToo : Locates others (fun item => item.kind = kind ∧
      Justified aliases others sections item) ((select others sections aliases).part kind) :=
    locates_part kind
  have alike : ((select others sections aliases).part kind).Perm
      ((select template sections aliases).part kind) :=
    (List.perm_ext_iff_of_nodup (locatedToo.ordered.imp Nat.ne_of_lt)
      (located.ordered.imp Nat.ne_of_lt)).mpr fun index =>
        ⟨mem_part_of_rewritten back (forall₂_flip respelling written),
          mem_part_of_rewritten respelling written⟩
  exact alike.eq_of_pairwise (fun _ _ _ _ less more => absurd less (Nat.lt_asymm more))
    locatedToo.ordered located.ordered

end Kept

/-- Where texts are respelled so that one descriptor stays one descriptor,
whatever was kept is kept.  Where different descriptors stay different as well,
nothing else is.  And what is written in place of a text stands for the same
metrics in every network and context. -/
theorem kept_of_respelling (respelling : Respelling aliases R)
    (written : List.Forall₂ (Item.Rewritten R) template others) (sections : List String) :
    (∀ index ∈ (slice template sections aliases).kept,
      index ∈ (slice others sections aliases).kept) ∧
    (Respelling aliases (flip R) ->
      (slice others sections aliases).kept = (slice template sections aliases).kept) ∧
    ∀ raw respelled, R raw respelled -> ∀ scene : Resolution.Scene,
      scene.metricsOf (scene.context.fillPlaceholders respelled) =
        scene.metricsOf (scene.context.fillPlaceholders raw) := by
  refine ⟨fun index member => ?_, fun back => ?_,
    fun raw respelled related => (respelling.respells raw respelled related).metricsOf⟩
  · rw [kept_slice, List.mem_flatMap] at member ⊢
    rcases member with ⟨kind, among, own⟩
    exact ⟨kind, among, mem_part_of_rewritten respelling written own⟩
  · rw [kept_slice, kept_slice]
    exact List.flatMap_congr fun kind _ => part_of_rewritten respelling back written kind

/-! ## One descriptor, respelled everywhere -/

/-- One text in place of another one, and every text without the mark as it is. -/
def swaps (raw written : String) (text other : String) : Prop :=
  text = raw ∧ other = written ∨ other = text ∧ Metric.isMarked text = false

theorem flip_swaps (raw written : String) : flip (swaps raw written) = swaps written raw := by
  funext text other
  refine propext ⟨?_, ?_⟩
  · rintro (⟨rfl, rfl⟩ | ⟨rfl, unmarked⟩)
    · exact Or.inl ⟨rfl, rfl⟩
    · exact Or.inr ⟨rfl, unmarked⟩
  · rintro (⟨rfl, rfl⟩ | ⟨rfl, unmarked⟩)
    · exact Or.inl ⟨rfl, rfl⟩
    · exact Or.inr ⟨rfl, unmarked⟩

theorem respelling_swaps {raw written : String} (respells : Respells raw written) :
    Respelling aliases (swaps raw written) := by
  have read := Descriptor.ofText?_respells respells aliases
  have none_iff : Descriptor.ofText? aliases raw = none ↔
      Descriptor.ofText? aliases written = none := by
    generalize Descriptor.ofText? aliases raw = d at read ⊢
    generalize Descriptor.ofText? aliases written = e at read ⊢
    cases read <;> simp
  constructor
  · rintro text other (⟨rfl, rfl⟩ | ⟨rfl, _⟩)
    · exact respells
    · exact .same _
  · rintro text other (⟨rfl, rfl⟩ | ⟨rfl, unmarked⟩) more respelled
      (⟨rfl, rfl⟩ | ⟨rfl, unmarkedToo⟩) same
    · rfl
    · rw [Descriptor.ofText?_of_unmarked unmarkedToo] at same ⊢
      exact none_iff.mp same
    · rw [Descriptor.ofText?_of_unmarked unmarked] at same ⊢
      exact (none_iff.mp same.symm).symm
    · exact same

/-- A card that mentions one descriptor, and a trigger that writes one. -/
def cardBlueprints (mentioned written : String) : List Item :=
  [ ⟨[ ("model", .text Fixture.Model.page)
     , ("fields", .object [("page", .text "OPS"), ("cards", .array [.text "card"])]) ]⟩
  , ⟨[ ("model", .text Fixture.Model.card)
     , ("abstraction_id", .text "card")
     , ("fields", .object [("metric_descriptors", .array [.text mentioned])]) ]⟩
  , Session.triggerBlueprint "loss_trigger" written (.array [.text "legal_loss"]) ]

theorem rewritten_cardBlueprints (plain : ∀ text, Metric.isMarked text = false -> R text text)
    {mentioned written mentionedToo writtenToo : String} (first : R mentioned mentionedToo)
    (second : R written writtenToo) :
    List.Forall₂ (Item.Rewritten R) (cardBlueprints mentioned written)
      (cardBlueprints mentionedToo writtenToo) := by
  have same : ∀ text, Metric.isMarked text = false -> Value.Rewritten R (.text text) (.text text) :=
    fun text unmarked => .text (plain text unmarked)
  refine .cons (.same rfl) (.cons (.texts rfl rfl ?_) (.cons (.texts rfl rfl ?_) .nil))
  · exact .object (.cons _ (same _ (by decide)) (.cons _ (same _ (by decide)) (.cons _
      (.object (.cons _ (.array (.cons (.text first) .nil)) .nil)) .nil)))
  · have metrics : Value.Rewritten R (.array [.text "legal_loss"]) (.array [.text "legal_loss"]) :=
      .array (.cons (same _ (by decide)) .nil)
    have arguments : Value.Rewritten R
        (.object [("inputs", .object [("metrics", .array [.text "legal_loss"])])])
        (.object [("inputs", .object [("metrics", .array [.text "legal_loss"])])]) :=
      .object (.cons _ (.object (.cons _ metrics .nil)) .nil)
    exact .object (.cons _ (same _ (by decide)) (.cons _ (same _ (by decide)) (.cons _
      (.text second) (.cons _ (.array (.cons (.object (.cons _ (same _ (by decide)) (.cons _
        arguments .nil))) .nil)) .nil))))

theorem respells_zone :
    Respells "MetricCategory.Zone.loss.qh" "MetricCategory.zone.loss.qh" :=
  .target (by decide : Text.lowerAscii "Zone" ∈ Metric.targetWords)
    (by decide : Text.lowerAscii "zone" = Text.lowerAscii "Zone") "loss.qh"

/-- With the target in small letters everywhere, the page, the card and the
trigger are kept as before. -/
theorem kept_of_respelling_zone :
    let raw := cardBlueprints "MetricCategory.Zone.loss.qh" "MetricCategory.Zone.loss.qh"
    let respelled := cardBlueprints "MetricCategory.zone.loss.qh" "MetricCategory.zone.loss.qh"
    Respelling .builtin (swaps "MetricCategory.Zone.loss.qh" "MetricCategory.zone.loss.qh") ∧
      (slice raw ["OPS"] .builtin).kept = [0, 1, 2] ∧
      (slice respelled ["OPS"] .builtin).kept = [0, 1, 2] := by
  intro raw respelled
  have respelling : Respelling .builtin
      (swaps "MetricCategory.Zone.loss.qh" "MetricCategory.zone.loss.qh") :=
    respelling_swaps respells_zone
  have back : Respelling .builtin
      (flip (swaps "MetricCategory.Zone.loss.qh" "MetricCategory.zone.loss.qh")) :=
    flip_swaps _ _ ▸ respelling_swaps respells_zone.symm
  have written := rewritten_cardBlueprints (R := swaps "MetricCategory.Zone.loss.qh"
      "MetricCategory.zone.loss.qh") (fun _ unmarked => Or.inr ⟨rfl, unmarked⟩)
    (Or.inl ⟨rfl, rfl⟩) (Or.inl ⟨rfl, rfl⟩)
  have kept : (slice raw ["OPS"] .builtin).kept = [0, 1, 2] := by decide +kernel
  exact ⟨respelling, kept, ((kept_of_respelling respelling written ["OPS"]).2.1 back).trans kept⟩

/-- In small letters in the trigger alone, the trigger is not kept, though it
writes the metric that the card mentions. -/
theorem kept_lost_respelled :
    let raw := cardBlueprints "MetricCategory.Zone.loss.qh" "MetricCategory.Zone.loss.qh"
    let respelled := cardBlueprints "MetricCategory.Zone.loss.qh" "MetricCategory.zone.loss.qh"
    List.Forall₂ (Item.Rewritten Respells) raw respelled ∧
      (slice raw ["OPS"] .builtin).kept = [0, 1, 2] ∧
      (slice respelled ["OPS"] .builtin).kept = [0, 1] := by
  intro raw respelled
  exact ⟨rewritten_cardBlueprints (fun text _ => .same text) (.same _) respells_zone,
    by decide +kernel, by decide +kernel⟩

end Template
end Sensornet
