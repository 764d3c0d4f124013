import OrderDesk.Main
import OrderDesk.Rehearsal.Run
import OrderDesk.Proofs.Order.Lifecycle
import OrderDesk.Proofs.Store.Contents
import OrderDesk.Proofs.Store.History
import OrderDesk.Proofs.Store.Pass
import OrderDesk.Proofs.Subscription.Moves
import OrderDesk.Proofs.Subscription.Tracks
import OrderDesk.Proofs.Desk.History
import OrderDesk.Proofs.Desk.Following
import OrderDesk.Proofs.Rpc.CreateOrder
import OrderDesk.Proofs.Desk.Ownership
import OrderDesk.Proofs.Subscription.Delivery
import OrderDesk.Proofs.Desk.Cancellation
import OrderDesk.Proofs.Lookup.Entries
import OrderDesk.Proofs.Lookup.Turns
import OrderDesk.Proofs.Market.Roles
import OrderDesk.Proofs.Lookup.Provenance
import OrderDesk.Proofs.Lookup.Fetching
import OrderDesk.Proofs.Store.WellFormed
import OrderDesk.Proofs.Store.Overtaking
import OrderDesk.Proofs.Settings.Use
import OrderDesk.Proofs.Metrics.Totals
import OrderDesk.Proofs.Desk.Recordings
import OrderDesk.Proofs.Rpc.Turns
import OrderDesk.Proofs.Rpc.Bills
import OrderDesk.Proofs.Rpc.Undisturbed
import OrderDesk.Proofs.Rpc.Accounts
import OrderDesk.Proofs.Desk.Pollers
import OrderDesk.Proofs.Metrics.Gauge
import OrderDesk.Proofs.Subscription.Ending
import OrderDesk.Proofs.Desk.Passes
import OrderDesk.Proofs.Desk.Shutdown
import OrderDesk.Proofs.Rpc.ReadPaths
import OrderDesk.Proofs.Rpc.RequestId
import OrderDesk.Proofs.Lookup.TimedMap
import OrderDesk.Proofs.Lookup.Separation
import OrderDesk.Proofs.Rpc.Acceptance
import OrderDesk.Proofs.Lookup.Failing
import OrderDesk.Proofs.Rpc.Concealment
import OrderDesk.Proofs.Identity.Text
import OrderDesk.Proofs.Wire.Updates
import OrderDesk.Proofs.Binary64.Bounded
import OrderDesk.Proofs.Lookup.Budget
import OrderDesk.Proofs.Lookup.Doubling
import OrderDesk.Proofs.Text.LowerCase
import OrderDesk.Proofs.Settings.Variables
import OrderDesk.Proofs.Settings.Loading
import OrderDesk.Proofs.Rpc.Spellings
import OrderDesk.Proofs.Wire.Markets
import OrderDesk.Proofs.Health.Verdict
import OrderDesk.Proofs.Rpc.Prices
import OrderDesk.Proofs.Time.Calendar
import OrderDesk.Proofs.Json.Strings
import OrderDesk.Proofs.Time.Rfc3339
import OrderDesk.Proofs.Json.Documents
import OrderDesk.Proofs.Market.Json
