import Mathlib.Data.List.Forall2
import Sensornet.Proofs.Network.Coverage
import Sensornet.Resolution.Tree

namespace Sensornet

/-!
# What becomes of the members of a value

The walk draws tokens as it goes, so what a value becomes depends on when it
is reached.  `Scene.Gives` leaves the moment open.  An object becomes an object
whose members are those of the old one, each resolved under the rule of its
key; only `center` may be filled in afterwards.  A list becomes a list of the
same length, and a text that is neither expanded nor drawn stays a text.

Which of several moments it was is never needed: what the compile reads off a
resolved trigger is the same at all of them.
-/

/-! ## Lists beside each other -/

theorem exists_of_mem_forall₂ {A B : Type} {R : A -> B -> Prop} {xs : List A} {ys : List B}
    (alike : List.Forall₂ R xs ys) {y : B} (member : y ∈ ys) : ∃ x ∈ xs, R x y := by
  induction alike with
  | nil => cases member
  | @cons x z rest more own _ ih =>
    rcases List.mem_cons.mp member with rfl | later
    · exact ⟨x, List.mem_cons_self, own⟩
    · rcases ih later with ⟨w, among, related⟩
      exact ⟨w, List.mem_cons_of_mem x among, related⟩

theorem exists_of_mem_forall₂_left {A B : Type} {R : A -> B -> Prop} {xs : List A} {ys : List B}
    (alike : List.Forall₂ R xs ys) {x : A} (member : x ∈ xs) : ∃ y ∈ ys, R x y :=
  exists_of_mem_forall₂ (List.Forall₂.flip (R := flip R) alike) member

theorem getElem?_of_forall₂ {A B : Type} {R : A -> B -> Prop} {xs : List A} {ys : List B}
    (alike : List.Forall₂ R xs ys) {position : Nat} {x : A} (stands : xs[position]? = some x) :
    ∃ y, ys[position]? = some y ∧ R x y := by
  induction alike generalizing position with
  | nil => cases stands
  | cons head _ ih =>
    cases position with
    | zero =>
      cases stands
      exact ⟨_, rfl, head⟩
    | succ position => exact ih stands

namespace Resolution

open Json (Value Fields)

/-- A marked text is no `[FILL]`. -/
theorem ne_fillMark_of_isMarked {text : String} (marked : Metric.isMarked text = true) :
    text ≠ fillMark := by
  rintro rfl
  have unmarked : Metric.isMarked fillMark = false := by decide
  rw [unmarked] at marked
  cases marked

namespace Scene

/-- What a value may become under a rule, whatever was drawn before. -/
def Gives (s : Scene) (rule : Rule) (value result : Value) : Prop :=
  ∃ p : Progress, ((s.resolveUnder rule value).run p).1 = result

variable (s : Scene)

/-! ## Objects -/

/-- What one member may become: it stays under its key. -/
def GivesMember (s : Scene) (member result : String × Value) : Prop :=
  result.1 = member.1 ∧ s.Gives (Rule.ofKey member.1 s.context) member.2 result.2

theorem forall₂_resolveFields (fields : Fields) (p : Progress) :
    List.Forall₂ s.GivesMember fields ((s.resolveFields fields).run p).1 := by
  induction fields generalizing p with
  | nil => exact .nil
  | cons member rest ih => exact .cons ⟨rfl, p, rfl⟩ (ih _)

variable {s} in
theorem get?_of_forall₂ {fields members : Fields} (each : List.Forall₂ s.GivesMember fields members)
    (key : String) : Option.Rel (s.Gives (Rule.ofKey key s.context)) (Entries.get? key fields)
      (Entries.get? key members) := by
  induction each with
  | nil => exact .none
  | @cons member result _ _ first _ ih =>
    rw [Entries.get?, Entries.get?, first.1]
    by_cases same : member.1 = key
    · rw [if_pos same, if_pos same]
      exact .some (same ▸ first.2)
    · rw [if_neg same, if_neg same]
      exact ih

/-- The centre of the network is filled in where one was left open, or nothing
happens. -/
theorem withNetworkCenter_cases (fields : Fields) : s.withNetworkCenter fields = fields ∨
    ∃ old, Entries.get? "center" fields = some old ∧ (old = .null ∨ old = .text fillMark) ∧
      ∃ position : Geometry.Position,
        s.withNetworkCenter fields = Entries.insert "center" position.toJson fields := by
  cases centre : s.centerOfNetwork? with
  | none => simp [withNetworkCenter, centre]
  | some position =>
    cases held : Entries.get? "center" fields with
    | none => exact Or.inl (by simp [withNetworkCenter, held])
    | some old =>
      cases old with
      | null =>
        exact Or.inr ⟨_, rfl, Or.inl rfl, position, by simp [withNetworkCenter, held, centre]⟩
      | text raw =>
        by_cases mark : raw = fillMark
        · subst mark
          exact Or.inr ⟨_, rfl, Or.inr rfl, position, by simp [withNetworkCenter, held, centre]⟩
        · exact Or.inl (by simp [withNetworkCenter, held, mark])
      | bool | number | array | object => exact Or.inl (by simp [withNetworkCenter, held])

/-- An empty centre is filled in if the network has one. -/
theorem withNetworkCenter_of_null {fields : Fields} (held : Entries.get? "center" fields = some .null)
    {position : Geometry.Position} (center : s.centerOfNetwork? = some position) :
    s.withNetworkCenter fields = Entries.insert "center" position.toJson fields := by
  simp [withNetworkCenter, held, center]

theorem get?_withNetworkCenter {key : String} (other : key ≠ "center") (fields : Fields) :
    Entries.get? key (s.withNetworkCenter fields) = Entries.get? key fields := by
  rcases s.withNetworkCenter_cases fields with same | ⟨_, _, _, position, filled⟩
  · rw [same]
  · rw [filled]
    exact Entries.get?_insert_of_ne other _ fields

variable {s} {rule : Rule} {value result : Value}

theorem Gives.members {fields : Fields} (gives : s.Gives rule (.object fields) result) :
    ∃ members, result = .object (s.withNetworkCenter members) ∧
      List.Forall₂ s.GivesMember fields members := by
  rcases gives with ⟨p, rfl⟩
  exact ⟨_, rfl, s.forall₂_resolveFields fields p⟩

theorem Gives.object {fields : Fields} (gives : s.Gives rule (.object fields) result) :
    ∃ members, result = .object members ∧ ∀ key, key ≠ "center" ->
      Option.Rel (s.Gives (Rule.ofKey key s.context)) (Entries.get? key fields)
        (Entries.get? key members) := by
  rcases gives.members with ⟨members, rfl, each⟩
  refine ⟨_, rfl, fun key other => ?_⟩
  rw [s.get?_withNetworkCenter other]
  exact get?_of_forall₂ each key

/-! ## Lists -/

theorem forall₂_resolveItems (rule : Rule) (items : List Value) (p : Progress) :
    List.Forall₂ (s.Gives rule) items ((s.resolveItems rule items).run p).1 := by
  induction items generalizing p with
  | nil => exact .nil
  | cons item rest ih => exact .cons ⟨p, rfl⟩ (ih _)

/-- A list that is not flattened and holds no references. -/
theorem Gives.array {items : List Value} (gives : s.Gives rule (.array items) result)
    (listed : rule ≠ .metricList) (referred : rule ≠ .widgets) :
    ∃ results, result = .array results ∧ List.Forall₂ (s.Gives rule) items results := by
  rcases gives with ⟨p, rfl⟩
  refine ⟨((s.resolveItems rule items).run p).1, ?_, forall₂_resolveItems rule items p⟩
  have walked : s.resolveUnder rule (.array items) = do
      let resolved ← s.resolveItems rule items
      return if rule = .metricList then flatten resolved else .array resolved :=
    if_neg referred
  rw [walked]
  simp only [if_neg listed]
  rfl

/-! ## Texts -/

/-- What a bound or literal text becomes. -/
def nameOf (s : Scene) (text : String) : String :=
  ((s.bindings.get? text s.context.name).map Fixture.Key.shown).getD text

/-- The text that a text becomes under a rule that neither expands it nor
draws for it. -/
def soleText (s : Scene) (rule : Rule) (raw : String) : String :=
  let text := s.context.fillPlaceholders raw
  if text = fillMark then s.context.targetId
  else if Metric.isMarked text then
    (s.metricsOf text).head?.getD (if rule = .outputMetric then "" else text)
  else s.nameOf text

/-- What a text becomes depends on the context, on what is bound under the text
unless it asks to be filled, and on the metrics that it stands for. -/
theorem soleText_congr {a b : Scene} (context : b.context = a.context) {raw : String}
    (names : a.context.fillPlaceholders raw ≠ fillMark ->
      b.nameOf (a.context.fillPlaceholders raw) = a.nameOf (a.context.fillPlaceholders raw))
    (metrics : b.metricsOf (a.context.fillPlaceholders raw) =
      a.metricsOf (a.context.fillPlaceholders raw)) (rule : Rule) :
    b.soleText rule raw = a.soleText rule raw := by
  unfold soleText
  dsimp only
  rw [context, metrics]
  split
  · rfl
  · next unfilled => rw [names unfilled]

/-- The metrics that a text stands for are known. -/
theorem known_of_mem_metricsOf {s : Scene} {text id : String} (member : id ∈ s.metricsOf text) :
    id ∈ s.network.metrics.map Prod.snd := by
  unfold metricsOf at member
  cases parsed : Metric.Descriptor.ofText? s.aliases text with
  | none =>
    rw [parsed] at member
    cases member
  | some d =>
    rw [parsed] at member
    exact Network.known_of_mem_metricIds member

/-- What a descriptor becomes where it is expanded. -/
def expansion (s : Scene) (rule : Rule) (text : String) : Value :=
  match rule with
  | .metricList => .array ((s.metricsOf text).map .text)
  | .outputMetric => .text ((s.metricsOf text).head?.getD "")
  | _ => .text ((s.metricsOf text).head?.getD text)

/-- A remark made on the way leaves the answer alone. -/
theorem run_resolveDescriptor (s : Scene) {rule : Rule} (expands : rule ≠ .keepDescriptors)
    (text : String) (p : Progress) :
    ((s.resolveDescriptor rule text).run p).1 = s.expansion rule text := by
  unfold resolveDescriptor
  rw [if_neg expands]
  dsimp only
  split <;> rfl

theorem Gives.text {raw : String} (sole : rule = .plain ∨ rule = .outputMetric)
    (gives : s.Gives rule (.text raw) result) : result = .text (s.soleText rule raw) := by
  rcases gives with ⟨p, rfl⟩
  have same : s.resolveUnder rule (.text raw) = s.resolveText rule raw := rfl
  rw [same]
  unfold resolveText soleText nameOf
  rw [if_neg (by rcases sole with rfl | rfl <;> decide)]
  dsimp only
  split
  · rcases sole with rfl | rfl <;> rfl
  · split
    · have expands : rule ≠ .keepDescriptors := by
        rcases sole with rfl | rfl <;> decide
      rw [s.run_resolveDescriptor expands]
      rcases sole with rfl | rfl <;> rfl
    · cases s.bindings.get? (s.context.fillPlaceholders raw) s.context.name <;>
        rcases sole with rfl | rfl <;> rfl

/-! ## Members of any value -/

/-- What stands under a key of the result comes from what stood there. -/
theorem Gives.get? (gives : s.Gives .plain value result) (key : String) (other : key ≠ "center") :
    Option.Rel (s.Gives (Rule.ofKey key s.context)) (value.get? key) (result.get? key) := by
  cases value with
  | object fields =>
    rcases gives.object with ⟨members, rfl, each⟩
    exact each key other
  | array items =>
    rcases gives.array (by decide) (by decide) with ⟨results, rfl, _⟩
    exact .none
  | text raw =>
    rw [gives.text (Or.inl rfl)]
    exact .none
  | null =>
    rcases gives with ⟨p, rfl⟩
    exact .none
  | bool flag =>
    rcases gives with ⟨p, rfl⟩
    exact .none
  | number n =>
    rcases gives with ⟨p, rfl⟩
    exact .none

end Scene
end Resolution
end Sensornet
