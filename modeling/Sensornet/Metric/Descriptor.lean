import Sensornet.Metric.Alias
import Sensornet.Text.Blank
import Sensornet.Text.LowerCase

namespace Sensornet
namespace Metric

/-!
# Metric descriptors

A descriptor names a metric by what it measures instead of by its key:

    MetricCategory.<target>.<category>.<interval>

The three words end at the next point and may be empty; anything from a
fourth word on is ignored.  Category and interval are replaced by their
canonical words, the target is kept as written.  Which sensor a category
belongs to is decided here as well, so that placing a metric and looking one
up agree.
-/

/-- The text in front of every descriptor. -/
def marker : List Char := "MetricCategory.".toList

/-- Whether a text has the mark of descriptors in front. -/
def isMarked (text : String) : Bool :=
  marker.isPrefixOf text.toList

/-- Metric categories that belong to a single sensor. -/
def categoriesOfPoints : List String := ["pressure", "flow_volume", "flow_reading"]

/-- Descriptor targets that name a kind of sensor. -/
def targetsOfPoints : List String := ["pressure", "flowmeter"]

/-- Whether metrics of a category belong to a single sensor. -/
def isOfPoints (category : String) : Bool :=
  categoriesOfPoints.contains category

/-- The category of sensor that must own a metric of this category. -/
def sensorFor? (category : String) : Option String :=
  if category = "pressure" then some "pressure_sensor"
  else if "flow_".toList.isPrefixOf category.toList then some "flow_meter"
  else none

/-- A descriptor with canonical category and interval. -/
structure Descriptor where
  target : String
  category : String
  interval : String
  deriving DecidableEq, Repr

namespace Descriptor

/-- Read a descriptor. -/
def ofText? (aliases : Aliases) (text : String) : Option Descriptor :=
  if isMarked text then
    match Text.pieces '.' text.toList with
    | _ :: target :: category :: interval :: _ =>
      some ⟨String.ofList target, aliases.category (String.ofList category),
        aliases.interval (String.ofList interval)⟩
    | _ => none
  else none

/-- The canonical text. -/
def text (d : Descriptor) : String :=
  String.ofList marker ++ d.target ++ "." ++ d.category ++ "." ++ d.interval

/-- Whether the descriptor means metrics of zones. -/
def meansZones (d : Descriptor) : Bool :=
  Text.lowerAscii d.target == "zone"

/-- Whether the descriptor means metrics of single sensors. -/
def meansPoints (d : Descriptor) : Bool :=
  targetsOfPoints.contains (Text.lowerAscii d.target) || isOfPoints d.category

/-- Order by target, then category, then interval, each by code points. -/
def le (a b : Descriptor) : Bool :=
  if a.target = b.target then
    if a.category = b.category then decide (a.interval ≤ b.interval)
    else decide (a.category < b.category)
  else decide (a.target < b.target)

/-- Descriptors in their order. -/
def sorted (ds : List Descriptor) : List Descriptor :=
  ds.mergeSort le

end Descriptor
end Metric
end Sensornet
