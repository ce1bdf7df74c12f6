import Sensornet.CommandLine.Directory
import Sensornet.Main
import Sensornet.Proofs.Network.Indexing
import Sensornet.Proofs.Resolution.Progress
import Sensornet.Proofs.Session.Enter
import Sensornet.Proofs.Session.Moves
import Sensornet.Proofs.Session.Stages
import Sensornet.Proofs.Session.Indexed
import Sensornet.Proofs.Session.Unrepeated
import Sensornet.Proofs.Template.Closure
import Sensornet.Proofs.Template.Dependencies
import Sensornet.Proofs.Session.Accounts
import Sensornet.Proofs.Session.Tokens
import Sensornet.Proofs.Session.Twins
import Sensornet.Proofs.Session.Resumption
import Sensornet.Proofs.Resolution.Members
import Sensornet.Proofs.Resolution.Inputs
import Sensornet.Proofs.Resolution.Placeholders
import Sensornet.Proofs.Session.Asking
import Sensornet.Proofs.Session.Identities
import Sensornet.Proofs.Session.Deeds
import Sensornet.Proofs.Session.Catalogue
import Sensornet.Proofs.Registry.Freshness
import Sensornet.Proofs.Session.Freshness
import Sensornet.Proofs.Session.Readings
import Sensornet.Proofs.Session.Origins
import Sensornet.Proofs.Session.Provenance
import Sensornet.Proofs.Session.Demand
import Sensornet.Proofs.Session.Lasting
import Sensornet.Proofs.Session.Placing
import Sensornet.Proofs.Session.Follow
import Sensornet.Proofs.Session.Lateness
import Sensornet.Proofs.Session.Steady
import Sensornet.Proofs.Session.Recompile
import Sensornet.Proofs.Session.Twice
import Sensornet.Proofs.Session.Layout
import Sensornet.Proofs.Session.Inventory
import Sensornet.Proofs.Session.Tasks
import Sensornet.Proofs.Session.Called
import Sensornet.Proofs.Session.Synonyms
import Sensornet.Proofs.Session.Standing
import Sensornet.Proofs.Decimal.Numerals
import Sensornet.Proofs.Resolution.References
import Sensornet.Proofs.Resolution.Descriptors
import Sensornet.Proofs.Session.Showing
import Sensornet.Proofs.Session.Anchored
import Sensornet.Proofs.Session.Pages
import Sensornet.Proofs.Session.Everywhere
import Sensornet.Proofs.Session.Charts
import Sensornet.Proofs.Resolution.Growth
import Sensornet.Proofs.Session.Moments
import Sensornet.Proofs.Session.Settled
import Sensornet.Proofs.Session.Again
import Sensornet.Proofs.Template.Kept
import Sensornet.Proofs.Template.Sections
import Sensornet.Proofs.Template.Unreached
import Sensornet.Proofs.Session.Unselected
import Sensornet.Proofs.Session.Attained
import Sensornet.Proofs.Template.Nested
import Sensornet.Proofs.Session.Permanence
import Sensornet.Proofs.Session.Newcomers
import Sensornet.Proofs.Session.Obtaining
import Sensornet.Proofs.Session.Sequence
import Sensornet.Proofs.Session.Longer
import Sensornet.Proofs.Template.Respelled
import Sensornet.Proofs.Session.Rewriting
import Sensornet.Proofs.Session.Recognition
import Sensornet.Proofs.Session.Feeding
import Sensornet.Proofs.Session.Wiring
import Sensornet.Proofs.Session.Occupancy
import Sensornet.Proofs.Json.Numbers
import Sensornet.Proofs.Json.Scanning
import Sensornet.Proofs.Json.Legible
import Sensornet.Proofs.MapWidget.Stored
import Sensornet.Proofs.MapWidget.Settled
import Sensornet.Proofs.MapWidget.Bound
import Sensornet.Proofs.MapWidget.Spared
import Sensornet.Proofs.Session.Figures
import Sensornet.Proofs.Session.Panes
import Sensornet.Proofs.Resolution.Shape
import Sensornet.Proofs.Resolution.Flattening
import Sensornet.Proofs.Session.Requests
import Sensornet.Proofs.Session.Destinations
import Sensornet.Proofs.Network.Coverage
import Sensornet.Proofs.Network.Additions
import Sensornet.Proofs.Resolution.Filled
import Sensornet.Proofs.Geometry.Crossings
import Sensornet.Proofs.Geometry.Cut
import Sensornet.Proofs.Text.Pieces
import Sensornet.Proofs.Text.Lines
import Sensornet.Proofs.Metric.Grammar
import Sensornet.Proofs.Domain.Items
import Sensornet.Proofs.Json.Lines
import Sensornet.Proofs.Registry.Calls
import Sensornet.Proofs.Template.Passes
import Sensornet.Proofs.Json.Contents
import Sensornet.Proofs.MapWidget.Recursion
import Sensornet.Proofs.MapWidget.KeyWords
