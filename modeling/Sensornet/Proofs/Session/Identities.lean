import Sensornet.Proofs.Session.Asking

namespace Sensornet

/-!
# What a starter metric is called

A target starts with metrics whose fields are fixed, apart from the hints of
its item.  They are stored under canonical words, so the identity of each of
them is made of what the synonyms give for its category and its interval.
-/

open Json (Value Fields)

namespace Metric

theorem get?_canonicalize_self {synonyms : List (String × String)} {key word : String}
    {fields : Fields} (held : Entries.get? key fields = some (.text word)) :
    Entries.get? key (canonicalize synonyms key fields) =
      some (.text ((Entries.get? word synonyms).getD word)) := by
  unfold canonicalize
  simp only [held]
  cases Entries.get? word synonyms with
  | none => exact held
  | some canonical => exact Entries.get?_insert_self key _ fields

theorem get?_canonicalize_of_ne {synonyms : List (String × String)} {key other : String}
    (different : other ≠ key) (fields : Fields) :
    Entries.get? other (canonicalize synonyms key fields) = Entries.get? other fields := by
  unfold canonicalize
  split
  · split
    · exact Entries.get?_insert_of_ne different _ fields
    · rfl
  · rfl

/-- An identity is made of the canonical words for what the fields say. -/
theorem identity_complete {aliases : Aliases} {table : Int} {fields : Fields}
    {category interval target : String}
    (ofCategory : Entries.get? "category" (Entries.insertAll (defaults table) fields) =
      some (.text category))
    (ofInterval : Entries.get? "interval" (Entries.insertAll (defaults table) fields) =
      some (.text interval))
    (ofTarget : Entries.get? "target_id" (Entries.insertAll (defaults table) fields) =
      some (.text target)) :
    Identity.ofFields (complete aliases table fields) =
      ⟨aliases.category category, aliases.interval interval, target⟩ := by
  have first : textOf (complete aliases table fields) "category" =
      aliases.category category := by
    unfold textOf complete
    rw [get?_canonicalize_of_ne (by decide), get?_canonicalize_self ofCategory]
    rfl
  have second : textOf (complete aliases table fields) "interval" =
      aliases.interval interval := by
    have kept : Entries.get? "interval" (canonicalize aliases.categories "category"
        (Entries.insertAll (defaults table) fields)) = some (.text interval) :=
      (get?_canonicalize_of_ne (by decide) _).trans ofInterval
    unfold textOf complete
    rw [get?_canonicalize_self kept]
    rfl
  have third : textOf (complete aliases table fields) "target_id" = target := by
    unfold textOf complete
    rw [get?_canonicalize_of_ne (by decide), get?_canonicalize_of_ne (by decide), ofTarget]
    rfl
  unfold Identity.ofFields
  rw [first, second, third]

end Metric

namespace Placement

/-- A metric at the standard interval, under the canonical words. -/
def standard (aliases : Metric.Aliases) (category : String) (p : Placement) : Metric.Identity :=
  ⟨aliases.category category, aliases.interval Starter.quarterHour, p.id⟩

/-- The raw reading of a sensor, with the hints of its item. -/
def raw (aliases : Metric.Aliases) (category : String) (p : Placement) : Metric.Identity :=
  ⟨aliases.category (p.item.metricCategory.getD category),
    aliases.interval (p.item.metricInterval.getD Starter.quarterHour), p.id⟩

end Placement

namespace Session

variable (s : Session)

/-- Zone demand, average pressure and flow volume are metrics of this form. -/
theorem identityFor_computed (unit label category tag target : String) :
    s.identityFor (Starter.computed unit label category tag target) =
      ⟨s.aliases.category category, s.aliases.interval Starter.quarterHour, target⟩ :=
  Metric.identity_complete rfl rfl rfl

theorem identityFor_flowReading (p : Placement) (table : Int) :
    s.identityFor (Starter.flowReading p.item p.id table) = p.raw s.aliases "flow_reading" :=
  Metric.identity_complete rfl rfl rfl

theorem identityFor_pressure (p : Placement) (table : Int) :
    s.identityFor (Starter.pressure p.item p.id table) = p.raw s.aliases "pressure" :=
  Metric.identity_complete rfl rfl rfl

end Session
end Sensornet
