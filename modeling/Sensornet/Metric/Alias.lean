import Sensornet.Entries

namespace Sensornet
namespace Metric

/-!
# Synonyms of descriptor words

Categories and intervals have synonyms.  A few are built in; a configuration
adds others or changes these.  A word without an entry stands for itself, and
an entry is applied once: its own right-hand side is not looked up again.
-/

/-- Synonym tables for the category and the interval of a descriptor. -/
structure Aliases where
  categories : List (String × String)
  intervals : List (String × String)
  deriving DecidableEq, Repr

namespace Aliases

/-- No synonyms. -/
def none : Aliases := ⟨[], []⟩

/-- The synonyms that hold without a configuration. -/
def builtin : Aliases where
  categories := [("azp", "average_zone_pressure")]
  intervals := [("qh", "QUARTER_HOUR"), ("hourly", "HOURLY"), ("daily", "DAILY"),
    ("weekly", "WEEKLY"), ("monthly", "MONTHLY")]

/-- The built-in synonyms with more layered over them. -/
def extended (more : Aliases) : Aliases where
  categories := Entries.insertAll builtin.categories more.categories
  intervals := Entries.insertAll builtin.intervals more.intervals

/-- The canonical word for a category. -/
def category (aliases : Aliases) (word : String) : String :=
  (Entries.get? word aliases.categories).getD word

/-- The canonical word for an interval. -/
def interval (aliases : Aliases) (word : String) : String :=
  (Entries.get? word aliases.intervals).getD word

end Aliases
end Metric
end Sensornet
