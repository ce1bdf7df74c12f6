import Sensornet.Proofs.Resolution.Placeholders
import Sensornet.Proofs.Session.Asking

namespace Sensornet

/-!
# Metrics that are asked for again

A metric is known by category, interval and target.  When a blueprint writes
these as texts that stand for themselves, and `[FILL]` for the target, what it
asks for in a context does not depend on what metrics there are: only on the
context and on what is bound there.
-/

open Json (Value Fields)
open Template (Item)

/-! ## Tables that are written over -/

namespace Entries

variable {K V : Type} [DecidableEq K] {key other : K} {entries others : List (K × V)}

theorem get?_insert_congr (same : get? key entries = get? key others) (value : V) :
    get? key (insert other value entries) = get? key (insert other value others) := by
  by_cases own : key = other
  · subst own
    rw [get?_insert_self, get?_insert_self]
  · rw [get?_insert_of_ne own, get?_insert_of_ne own, same]

/-- Tables that agree under a key still do when what is written over them
agrees there. -/
theorem get?_insertAll_congr (same : get? key entries = get? key others)
    {more further : List (K × V)}
    (alike : List.Forall₂ (fun a b => b.1 = a.1 ∧ (a.1 = key -> b.2 = a.2)) more further) :
    get? key (insertAll entries more) = get? key (insertAll others further) := by
  induction alike generalizing entries others with
  | nil => exact same
  | @cons a b _ _ first _ ih =>
    apply ih
    dsimp only
    by_cases own : a.1 = key
    · rw [first.1, first.2 own]
      exact get?_insert_congr same a.2
    · rw [first.1, get?_insert_of_ne (Ne.symm own), get?_insert_of_ne (Ne.symm own), same]

/-- A value under another key may as well be written over. -/
theorem get?_insertAll_insert (different : key ≠ other) (value : V) (more : List (K × V)) :
    get? key (insertAll entries (insert other value more)) =
      get? key (insertAll entries more) := by
  have refl : ∀ rest : List (K × V),
      List.Forall₂ (fun a b => b.1 = a.1 ∧ (a.1 = key -> b.2 = a.2)) rest rest :=
    fun rest => List.forall₂_same.mpr fun _ _ => ⟨rfl, fun _ => rfl⟩
  induction more generalizing entries with
  | nil => exact get?_insert_of_ne different value entries
  | cons entry rest ih =>
    obtain ⟨k, v⟩ := entry
    by_cases own : k = other
    · rw [insert, if_pos own]
      refine get?_insertAll_congr rfl (.cons ⟨rfl, fun here => ?_⟩ (refl rest))
      exact absurd (here.symm.trans own) different
    · rw [insert, if_neg own]
      exact ih

end Entries

/-! ## Identities -/

namespace Metric

theorem get?_canonicalize_congr {synonyms : List (String × String)} {word key : String}
    {fields more : Fields} (same : Entries.get? word fields = Entries.get? word more)
    (here : Entries.get? key fields = Entries.get? key more) :
    Entries.get? key (canonicalize synonyms word fields) =
      Entries.get? key (canonicalize synonyms word more) := by
  unfold canonicalize
  rw [same]
  split
  · split
    · exact Entries.get?_insert_congr here _
    · exact here
  · exact here

/-- An identity depends on what is written under three keys. -/
theorem identity_congr {aliases : Aliases} {table : Int} {fields more : Fields}
    (same : ∀ key ∈ ["category", "interval", "target_id"],
      Entries.get? key (Entries.insertAll (defaults table) fields) =
        Entries.get? key (Entries.insertAll (defaults table) more)) :
    Identity.ofFields (complete aliases table fields) =
      Identity.ofFields (complete aliases table more) := by
  have category := same "category" (by decide)
  have interval := same "interval" (by decide)
  have each : ∀ key ∈ ["category", "interval", "target_id"],
      textOf (complete aliases table fields) key = textOf (complete aliases table more) key := by
    intro key member
    have completed : Entries.get? key (complete aliases table fields) =
        Entries.get? key (complete aliases table more) :=
      get?_canonicalize_congr (get?_canonicalize_congr category interval)
        (get?_canonicalize_congr category (same key member))
    unfold textOf
    rw [completed]
  unfold Identity.ofFields
  rw [each "category" (by decide), each "interval" (by decide), each "target_id" (by decide)]

end Metric

/-! ## Texts that stand for themselves -/

namespace Metric

/-- A text that is no descriptor and holds no placeholder. -/
structure IsPlain (aliases : Aliases) (text : String) : Prop where
  descriptor : Descriptor.ofText? aliases text = none
  placeholders : ∀ pattern ∈ Context.placeholders, ¬ pattern.toList <:+: text.toList

theorem isPlain_fillMark (aliases : Aliases) : IsPlain aliases Resolution.fillMark :=
  ⟨rfl, by decide +kernel⟩

end Metric

namespace Resolution
namespace Scene

/-- What a plain text becomes depends on the context and on what is bound under
it. -/
theorem soleText_of_isPlain {a b : Scene} (context : b.context = a.context)
    (aliases : b.aliases = a.aliases) {text : String} (plain : Metric.IsPlain a.aliases text)
    (names : text ≠ fillMark -> b.nameOf text = a.nameOf text) :
    b.soleText .plain text = a.soleText .plain text := by
  have still := a.context.fillPlaceholders_eq_self plain.placeholders
  apply soleText_congr context
  · rw [still]
    exact names
  · unfold metricsOf
    rw [still, aliases, plain.descriptor]
    rfl

theorem get?_insertAll_withNetworkCenter (s : Scene) {key : String} (other : key ≠ "center")
    (entries fields : Fields) :
    Entries.get? key (Entries.insertAll entries (s.withNetworkCenter fields)) =
      Entries.get? key (Entries.insertAll entries fields) := by
  rcases s.withNetworkCenter_cases fields with same | ⟨_, _, _, position, filled⟩
  · rw [same]
  · rw [filled]
    exact Entries.get?_insertAll_insert other position.toJson fields

/-- Two resolutions of the same members agree under a key if they agree on
every value there. -/
theorem forall₂_alike {a b : Scene} {key : String} {fields first second : Fields}
    (left : List.Forall₂ a.GivesMember fields first)
    (right : List.Forall₂ b.GivesMember fields second)
    (agree : ∀ value, (key, value) ∈ fields -> ∀ x y, a.Gives (Rule.ofKey key a.context) value x ->
      b.Gives (Rule.ofKey key b.context) value y -> y = x) :
    List.Forall₂ (fun p q => q.1 = p.1 ∧ (p.1 = key -> q.2 = p.2)) first second := by
  induction left generalizing second with
  | nil =>
    cases right
    exact .nil
  | @cons member x rest _ gives _ ih =>
    cases right with
    | cons givesToo others =>
      refine .cons ⟨givesToo.1.trans gives.1.symm, fun own => ?_⟩
        (ih others fun value member => agree value (List.mem_cons_of_mem _ member))
      have here : member.1 = key := gives.1.symm.trans own
      subst here
      exact agree member.2 List.mem_cons_self _ _ gives.2 givesToo.2

end Scene
end Resolution

/-! ## Blueprints -/

/-- A metric blueprint that writes category and interval as plain texts, and
leaves the target to the context. -/
structure Regular (aliases : Metric.Aliases) (item : Item) : Prop where
  words : ∀ key value, key = "category" ∨ key = "interval" -> (key, value) ∈ item.fields ->
    ∃ text, value = .text text ∧ Metric.IsPlain aliases text
  target : ∀ value, ("target_id", value) ∈ item.fields -> value = .text Resolution.fillMark

theorem Regular.plain {aliases : Metric.Aliases} {item : Item} (regular : Regular aliases item)
    {key : String} (named : key ∈ ["category", "interval", "target_id"]) {value : Value}
    (member : (key, value) ∈ item.fields) :
    ∃ text, value = .text text ∧ Metric.IsPlain aliases text := by
  simp only [List.mem_cons, List.not_mem_nil, or_false] at named
  rcases named with rfl | rfl | rfl
  · exact regular.words _ _ (Or.inl rfl) member
  · exact regular.words _ _ (Or.inr rfl) member
  · exact ⟨_, regular.target _ member, Metric.isPlain_fillMark aliases⟩

/-- Two tables of bindings have the same under the words by which a blueprint
says what it measures, and how often. -/
def SameWords (item : Item) (context : Context.Name) (a b : Bindings) : Prop :=
  ∀ key text, key = "category" ∨ key = "interval" -> (key, .text text) ∈ item.fields ->
    b.get? text context = a.get? text context

namespace Session

/-- Sessions that bind its words alike ask for the same metric in a context,
whatever metrics they know. -/
theorem identityFor_congr {s t : Session} (options : t.options = s.options)
    (aliases : t.aliases = s.aliases) {item : Item} (regular : Regular s.aliases item)
    {context : Context} (words : SameWords item context.name s.bindings t.bindings) :
    t.identityFor (t.resolve context (.object item.fields)).1.fields =
      s.identityFor (s.resolve context (.object item.fields)).1.fields := by
  have gives : ∀ u : Session, (u.scene context).Gives .plain (.object item.fields)
      (u.resolve context (.object item.fields)).1 :=
    fun u => ⟨⟨u.registry, u.notices⟩, rfl⟩
  rcases (gives s).members with ⟨first, made, left⟩
  rcases (gives t).members with ⟨second, madeToo, right⟩
  unfold identityFor
  rw [made, madeToo, options, aliases]
  apply Metric.identity_congr
  intro key member
  have other : key ≠ "center" := by
    rintro rfl
    revert member
    decide
  have rule : ∀ context, Resolution.Rule.ofKey key context = .plain := by
    intro context
    simp only [List.mem_cons, List.not_mem_nil, or_false] at member
    rcases member with rfl | rfl | rfl <;> rfl
  have agree : ∀ value, (key, value) ∈ item.fields -> ∀ x y,
      (s.scene context).Gives (.ofKey key context) value x ->
      (t.scene context).Gives (.ofKey key context) value y -> y = x := by
    intro value among x y own ownToo
    rcases regular.plain member among with ⟨text, rfl, plain⟩
    rw [rule] at own ownToo
    have here : (t.scene context).context = (s.scene context).context := rfl
    have names : text ≠ Resolution.fillMark ->
        (t.scene context).nameOf text = (s.scene context).nameOf text := by
      intro unfilled
      have word : key = "category" ∨ key = "interval" := by
        simp only [List.mem_cons, List.not_mem_nil, or_false] at member
        rcases member with category | interval | rfl
        · exact Or.inl category
        · exact Or.inr interval
        · cases regular.target _ among
          exact absurd rfl unfilled
      exact congrArg (fun key : Option Fixture.Key => (key.map Fixture.Key.shown).getD text)
        (words key text word among)
    have sole := Resolution.Scene.soleText_of_isPlain here aliases plain names
    rw [own.text (Or.inl rfl), ownToo.text (Or.inl rfl), sole]
  have fields : ∀ members : Fields, (Value.object members).fields = members := fun _ => rfl
  rw [fields, fields, (t.scene context).get?_insertAll_withNetworkCenter other,
    (s.scene context).get?_insertAll_withNetworkCenter other]
  exact (Entries.get?_insertAll_congr rfl (Resolution.Scene.forall₂_alike left right agree)).symm

end Session
end Sensornet
