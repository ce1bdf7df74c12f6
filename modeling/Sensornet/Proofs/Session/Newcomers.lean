import Sensornet.Proofs.Session.Layout

namespace Sensornet
namespace Session

/-!
# Items that are new

The n-th item of a category and label is given the n-th target that is known
under them.  So whether an item is new can be told before anything is placed:
it is unless more targets are known under its category and label than there are
items with the same before it.  Placing writes the rows of the new items, in
the order of the items, and nothing else.

This holds of any keys.  A key that is not fresh may be listed as a target
already, so that the list does not grow; the next item is new even so.
-/

open Fixture (Row)

variable {n : Network} {s : Session} {placed : List Placement}

/-- The items with new targets among some items that come after others. -/
def newcomers (n : Network) (placed : List Placement) : List Placement -> List Placement
  | [] => []
  | p :: rest =>
    if (n.targetsNamed p.item.kind p.item.label).length ≤ earlier placed p.item then
      p :: newcomers n (placed ++ [p]) rest
    else newcomers n (placed ++ [p]) rest

theorem newcomers_append (n : Network) (placed first second : List Placement) :
    newcomers n placed (first ++ second) =
      newcomers n placed first ++ newcomers n (placed ++ first) second := by
  induction first generalizing placed with
  | nil =>
    rw [List.append_nil]
    rfl
  | cons p rest ih =>
    rw [List.cons_append, newcomers, newcomers, ih, List.append_assoc, List.singleton_append]
    split <;> rfl

/-- What a session knows after some items were placed: under every category and
label the targets that a network knows, and others only as far as there were
items for them. -/
structure Extends (n : Network) (placed : List Placement) (s : Session) : Prop where
  least : ∀ kind label,
    (n.targetsNamed kind label).length ≤ (s.network.targetsNamed kind label).length
  most : ∀ kind label, (s.network.targetsNamed kind label).length ≤
    max (n.targetsNamed kind label).length (given placed kind label).length

theorem extends_nil (s : Session) : Extends s.network [] s :=
  ⟨fun _ _ => le_rfl, fun _ _ => le_max_left _ _⟩

theorem length_given_concat (placed : List Placement) (item : Domain.Item) (id : String)
    (kind label : String) : (given (placed ++ [⟨item, item.kind, id⟩]) kind label).length =
      (given placed kind label).length +
        if (kind, label) = (item.kind, item.label) then 1 else 0 := by
  split
  · next same =>
    cases same
    rw [given_concat_self, List.length_append, List.length_singleton]
  · next different => rw [given_concat_of_ne placed different, Nat.add_zero]

/-- An item is new, and its row is written, or it is not, and nothing is. -/
theorem Extends.placeItem (known : Extends n placed s) (item : Domain.Item) :
    ∃ id, (s.placeItem placed item).1 = ⟨item, item.kind, id⟩ ∧
      (s.placeItem placed item).2.rows =
        s.rows ++ (newcomers n placed [⟨item, item.kind, id⟩]).map Placement.row ∧
      Extends n (placed ++ [⟨item, item.kind, id⟩]) (s.placeItem placed item).2 := by
  have least := known.least item.kind item.label
  have most := known.most item.kind item.label
  rw [length_given] at most
  cases listed : (s.network.targetsNamed item.kind item.label)[earlier placed item]? with
  | some id =>
    have below := (List.getElem?_eq_some_iff.mp listed).1
    have old : ¬ (n.targetsNamed item.kind item.label).length ≤ earlier placed item := by omega
    rw [s.placeItem_known listed]
    refine ⟨id, rfl, ?_, known.least, fun kind label => ?_⟩
    · rw [newcomers, if_neg old, newcomers, List.map_nil, List.append_nil]
      rfl
    · rw [length_given_concat]
      exact (known.most kind label).trans (max_le_max_left _ (Nat.le_add_right _ _))
  | none =>
    have above := List.getElem?_eq_none_iff.mp listed
    rcases placeItem_new listed with ⟨record, seed, whole, entered⟩
    have targets : ∀ kind label, (s.placeItem placed item).2.network.targetsNamed kind label =
        (s.network.noteTarget item.kind item.label (s.registry.make record seed).1).targetsNamed
          kind label := by
      intro kind label
      rw [entered.network, network_enter, Network.targetsNamed_targetRow]
    refine ⟨_, whole, ?_, fun kind label => ?_, fun kind label => ?_⟩
    · rw [newcomers, if_pos (least.trans above), newcomers, entered.rows, rows_enter]
      rfl
    · rw [targets]
      exact (known.least kind label).trans
        (targetsNamed_noteTarget s.network _ _ _ kind label).length_le
    · rw [targets, length_given_concat]
      split
      · next same =>
        cases same
        rw [s.network.targetsNamed_noteTarget_self, length_given]
        have grown := length_addNew_le (s.network.targetsNamed item.kind item.label)
          (s.registry.make record seed).1
        omega
      · next different =>
        rw [s.network.targetsNamed_noteTarget_of_ne different]
        exact known.most kind label

/-- Placing goes through the items in their order and writes the rows of the
new ones. -/
theorem Extends.placeItems (known : Extends n placed s) (items : List Domain.Item) :
    ∃ more, (s.placeItems placed items).1 = placed ++ more ∧
      more.map Placement.item = items ∧ (∀ p ∈ more, p.kind = p.item.kind) ∧
      (s.placeItems placed items).2.rows = s.rows ++ (newcomers n placed more).map Placement.row ∧
      Extends n (placed ++ more) (s.placeItems placed items).2 := by
  induction items generalizing s placed with
  | nil =>
    refine ⟨[], (List.append_nil _).symm, rfl, fun p member => absurd member List.not_mem_nil,
      (List.append_nil _).symm, ?_⟩
    rw [List.append_nil]
    exact known
  | cons item rest ih =>
    rcases known.placeItem item with ⟨id, whole, rows, after⟩
    rcases ih after with ⟨more, all, items, kinds, rowsMore, last⟩
    have step : s.placeItems placed (item :: rest) =
        (s.placeItem placed item).2.placeItems (placed ++ [⟨item, item.kind, id⟩]) rest := by
      rw [← whole]
      rfl
    have parts := newcomers_append n placed [⟨item, item.kind, id⟩] more
    rw [List.append_assoc, List.singleton_append] at all last
    refine ⟨⟨item, item.kind, id⟩ :: more, step ▸ all, congrArg (item :: ·) items,
      List.forall_mem_cons.mpr ⟨rfl, kinds⟩, ?_, step ▸ last⟩
    rw [step, rowsMore, rows, List.append_assoc, ← List.map_append, ← parts]
    rfl

/-- Placing some items and then others is placing all of them. -/
theorem placeItems_append (s : Session) (placed : List Placement)
    (first second : List Domain.Item) : s.placeItems placed (first ++ second) =
      (s.placeItems placed first).2.placeItems (s.placeItems placed first).1 second := by
  induction first generalizing s placed with
  | nil => rfl
  | cons item rest ih => exact ih _ _

end Session
end Sensornet
