import Sensornet.Context

namespace Sensornet

/-!
# Bindings

Which row a blueprint became, in each context it was made for.  A binding is
made once: a later one for the same blueprint and context is ignored, so what
was resolved early stays right.
-/

/-- The rows that blueprints became, in the order of binding. -/
structure Bindings where
  entries : List ((String × Context.Name) × Fixture.Key)

namespace Bindings

def empty : Bindings := ⟨[]⟩

/-- The row that a blueprint became in a context. -/
def get? (b : Bindings) (id : String) (context : Context.Name) : Option Fixture.Key :=
  Entries.get? (id, context) b.entries

/-- Whether the blueprint is still unbound in the context. -/
def isFree (b : Bindings) (id : String) (context : Context.Name) : Bool :=
  (b.get? id context).isNone

/-- Bind a blueprint in a context, unless it is bound there. -/
def bind (b : Bindings) (id : String) (context : Context.Name) (key : Fixture.Key) : Bindings :=
  if b.isFree id context then ⟨b.entries ++ [((id, context), key)]⟩ else b

/-- Every row that a blueprint became, in the order of binding. -/
def all (b : Bindings) (id : String) : List Fixture.Key :=
  b.entries.filterMap fun ((other, _), key) => if other = id then some key else none

def size (b : Bindings) : Nat :=
  b.entries.length

variable {b : Bindings} {id other : String} {context elsewhere : Context.Name}
  {key : Fixture.Key}

/-- A pair that is bound keeps its row, whatever is bound later. -/
theorem get?_bind_of_bound {known : Fixture.Key} (bound : b.get? id context = some known) :
    (b.bind other elsewhere key).get? id context = some known := by
  unfold bind
  split
  · have found : Entries.get? (id, context) b.entries = some known := bound
    have kept : ∀ entries : List ((String × Context.Name) × Fixture.Key),
        Entries.get? (id, context) entries = some known ->
        Entries.get? (id, context) (entries ++ [((other, elsewhere), key)]) = some known := by
      intro entries
      induction entries with
      | nil => intro impossible; cases impossible
      | cons entry rest ih =>
        intro first
        by_cases same : entry.1 = (id, context)
        · simpa [Entries.get?, same] using first
        · rw [Entries.get?, if_neg same] at first
          rw [List.cons_append, Entries.get?, if_neg same]
          exact ih first
    exact kept b.entries found
  · exact bound

/-- A second binding of the same pair changes nothing. -/
theorem bind_of_bound {known : Fixture.Key} (bound : b.get? id context = some known) :
    b.bind id context key = b := by
  unfold bind isFree
  rw [bound]
  rfl

end Bindings
end Sensornet
