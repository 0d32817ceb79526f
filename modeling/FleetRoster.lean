import FleetRoster.Package.Order
import FleetRoster.Rehearsal.Setup
import FleetRoster.Proofs.Flow.Leads
import FleetRoster.Proofs.Store.Lookup
import FleetRoster.Proofs.Store.Sound
import FleetRoster.Proofs.Calendar.Nanos
import FleetRoster.Proofs.Handler.Books
import FleetRoster.Proofs.Handler.Course
import FleetRoster.Proofs.Handler.Conduct
import FleetRoster.Proofs.Flow.History
import FleetRoster.Proofs.Roster.Events
import FleetRoster.Proofs.Roster.Rows
import FleetRoster.Proofs.Roster.Deletion
import FleetRoster.Proofs.Buffer.Entries
import FleetRoster.Proofs.Buffer.Desk
import FleetRoster.Proofs.Buffer.Flush
import FleetRoster.Proofs.Outbound.Attempts
import FleetRoster.Proofs.Outbound.Tracked
import FleetRoster.Proofs.Outbound.Evaluations
import FleetRoster.Proofs.Buffer.Conservation
import FleetRoster.Proofs.Handler.Message
import FleetRoster.Proofs.Buffer.Provenance
import FleetRoster.Proofs.Roster.Isolation
import FleetRoster.Proofs.Package.Digits
import FleetRoster.Proofs.Package.Tokens
import FleetRoster.Proofs.Package.Bytes
import FleetRoster.Proofs.Package.Version
import FleetRoster.Proofs.Package.Order
import FleetRoster.Proofs.Flow.Errands
import FleetRoster.Proofs.Accounts.Agreement
import FleetRoster.Proofs.Buffer.Wakeups
import FleetRoster.Proofs.Buffer.Daybook
import FleetRoster.Proofs.Flow.Runs
import FleetRoster.Proofs.Handler.Counts
import FleetRoster.Proofs.Handler.Tries
import FleetRoster.Proofs.Tally.Labels
import FleetRoster.Proofs.Handler.Tallies
import FleetRoster.Proofs.Requests.Service
import FleetRoster.Proofs.Requests.Bureau
import FleetRoster.Proofs.Requests.Promises
import FleetRoster.Proofs.Consumer.Protocol
import FleetRoster.Proofs.Consumer.Regular
import FleetRoster.Proofs.Consumer.Conformance
import FleetRoster.Proofs.Flow.Twins
import FleetRoster.Proofs.World.Matching
import FleetRoster.Proofs.World.Pairs
import FleetRoster.Proofs.Handler.Duties
import FleetRoster.Proofs.Handler.Heed
import FleetRoster.Proofs.Handler.Setbacks
import FleetRoster.Proofs.Roster.Unfinished
import FleetRoster.Proofs.Store.Markers
import FleetRoster.Proofs.Handler.Traces
import FleetRoster.Proofs.Handler.Retries
import FleetRoster.Proofs.Store.Shedding
import FleetRoster.Proofs.Roster.Pruning
import FleetRoster.Proofs.Handler.Answered
import FleetRoster.Proofs.Roster.Aging
import FleetRoster.Proofs.Roster.Redelivery
import FleetRoster.Proofs.Package.RoundTrip
import FleetRoster.Proofs.Handler.Permanence
import FleetRoster.Proofs.Handler.Calm
import FleetRoster.Proofs.Store.Faces
import FleetRoster.Proofs.Roster.Pictures
import FleetRoster.Proofs.Roster.Commuting
import FleetRoster.Proofs.Handler.Crashes
import FleetRoster.Proofs.Handler.Trails
import FleetRoster.Proofs.Roster.Frames
import FleetRoster.Proofs.Outbound.AuditTrail
import FleetRoster.Proofs.Json.Records
import FleetRoster.Proofs.Handler.Naming
import FleetRoster.Proofs.Outbound.Grouping
import FleetRoster.Proofs.Store.Constraints
import FleetRoster.Proofs.Store.Order
import FleetRoster.Proofs.Store.Tables
import FleetRoster.Proofs.Requests.Baselines
import FleetRoster.Proofs.Package.Segments
import FleetRoster.Proofs.Package.Updates
import FleetRoster.Proofs.Text.Bytes
import FleetRoster.Proofs.Json.Grammar
import FleetRoster.Proofs.Json.Reading
import FleetRoster.Proofs.Calendar.Dates
import FleetRoster.Proofs.Calendar.Texts
import FleetRoster.Proofs.Json.Decoding
import FleetRoster.Proofs.Outbound.Wire
import FleetRoster.Proofs.Json.Members
import FleetRoster.Proofs.Json.Canonical
import FleetRoster.Proofs.Event.Checksums
import FleetRoster.Proofs.Text.Base64
import FleetRoster.Proofs.Text.Flaws
import FleetRoster.Proofs.Event.Headers
import FleetRoster.Proofs.Handler.Organizations
import FleetRoster.Proofs.Settings.Values
import FleetRoster.Proofs.Settings.Variables
