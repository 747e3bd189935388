import MissionTracking.Json.Reader
import MissionTracking.Json.Writer
import MissionTracking.Run.Wire
import MissionTracking.Sql.Listing
import MissionTracking.Tracker.Runs
import MissionTracking.Tracker.Reports
import MissionTracking.Settings.Loading
import MissionTracking.Log.Setup
import MissionTracking.Database.Address
import MissionTracking.Database.Migration
import MissionTracking.Proofs.Refusal
import MissionTracking.Proofs.Slots.Basic
import MissionTracking.Proofs.Slots.Report
import MissionTracking.Proofs.Listing.Order
import MissionTracking.Proofs.Run.Identity
import MissionTracking.Proofs.Run.Unambiguous
import MissionTracking.Proofs.Run.Filling
import MissionTracking.Proofs.Run.Writing
import MissionTracking.Proofs.Slots.History
import MissionTracking.Proofs.Slots.Status
import MissionTracking.Proofs.Transition.Difference
import MissionTracking.Proofs.Steps
import MissionTracking.Proofs.Store.Calls
import MissionTracking.Proofs.Store.Roster
import MissionTracking.Proofs.Store.Refinement
import MissionTracking.Proofs.Store.Assigning
import MissionTracking.Proofs.Ingestion.Direct
import MissionTracking.Proofs.Ingestion.Missions
import MissionTracking.Proofs.Listing.Pages
import MissionTracking.Proofs.Listing.Walk
import MissionTracking.Proofs.Listing.Independence
import MissionTracking.Proofs.Tracker.Calls
import MissionTracking.Proofs.Tracker.Resolution
import MissionTracking.Proofs.Feed.Replica
import MissionTracking.Proofs.Feed.Announcement
import MissionTracking.Proofs.Feed.Delivery
import MissionTracking.Proofs.Feed.Observer
import MissionTracking.Proofs.Text.Comparison
import MissionTracking.Proofs.Text.Digits
import MissionTracking.Proofs.Time.Calendar
import MissionTracking.Proofs.Time.Reading
import MissionTracking.Proofs.Json.Token
import MissionTracking.Proofs.Json.Reading
import MissionTracking.Proofs.Json.Record
import MissionTracking.Proofs.Wire.Records
import MissionTracking.Proofs.Wire.RoundTrip
import MissionTracking.Proofs.Sql.Expression
import MissionTracking.Proofs.Sql.Select
import MissionTracking.Proofs.Sql.Evaluation
import MissionTracking.Proofs.Sql.Meaning
import MissionTracking.Proofs.Sql.Row
import MissionTracking.Proofs.Sql.Filtering
import MissionTracking.Proofs.Sql.Ordering
import MissionTracking.Proofs.Sql.Pushdown
import MissionTracking.Proofs.Listing.Parameters
import MissionTracking.Proofs.Ingestion.Classification
import MissionTracking.Proofs.Listing.StableSort
import MissionTracking.Proofs.Listing.Rounds
import MissionTracking.Proofs.Text.Lower
import MissionTracking.Proofs.Listing.OrderBy
import MissionTracking.Proofs.Listing.Exact
import MissionTracking.Proofs.Feed.Redelivery
import MissionTracking.Proofs.Run.Composing
import MissionTracking.Proofs.Run.Validity
import MissionTracking.Proofs.Listing.Direction
import MissionTracking.Proofs.Tracker.OwnValues
import MissionTracking.Proofs.Sql.Sentence
import MissionTracking.Proofs.Sql.Placeholders
import MissionTracking.Proofs.Store.Naming
import MissionTracking.Proofs.Tracker.Naming
