import VenueLink.Balance.Record
import VenueLink.Balance.Table
import VenueLink.Decimal.Arithmetic
import VenueLink.Decimal.Basic
import VenueLink.Decimal.Literal
import VenueLink.Desk.Balances
import VenueLink.Desk.Basic
import VenueLink.Desk.Cancel
import VenueLink.Desk.CancelReport
import VenueLink.Desk.CancelRun
import VenueLink.Desk.Poll
import VenueLink.Desk.Push
import VenueLink.Desk.Resolution
import VenueLink.Digest.Hmac
import VenueLink.Digest.Sha256
import VenueLink.Json.Basic
import VenueLink.Json.Parser
import VenueLink.Json.Printer
import VenueLink.Log.Filter
import VenueLink.Log.Line
import VenueLink.Main
import VenueLink.Metric
import VenueLink.Moment
import VenueLink.Moment.Date
import VenueLink.Net.Header
import VenueLink.Net.Host
import VenueLink.Net.Http
import VenueLink.Net.Percent
import VenueLink.Net.Uri
import VenueLink.Net.Url
import VenueLink.Number.Binary
import VenueLink.Number.Literal
import VenueLink.Number.Power
import VenueLink.Number.Shortest
import VenueLink.Number.Whole
import VenueLink.Order.Basic
import VenueLink.Order.Book
import VenueLink.Order.Lifecycle
import VenueLink.Order.Matching
import VenueLink.Pair
import VenueLink.Payload.BalanceEntry
import VenueLink.Payload.Envelope
import VenueLink.Payload.Field
import VenueLink.Payload.FillEntry
import VenueLink.Payload.OrderEntry
import VenueLink.Proofs.Adoption
import VenueLink.Proofs.BalanceNodes
import VenueLink.Proofs.BalanceRoundTrip
import VenueLink.Proofs.Balances
import VenueLink.Proofs.Batch
import VenueLink.Proofs.Book
import VenueLink.Proofs.CancelCandidates
import VenueLink.Proofs.CancelConfined
import VenueLink.Proofs.CancelCourse
import VenueLink.Proofs.CancelOutcome
import VenueLink.Proofs.CancelParts
import VenueLink.Proofs.CancelPlay
import VenueLink.Proofs.CancelProgress
import VenueLink.Proofs.CancelRequests
import VenueLink.Proofs.CancelRoutes
import VenueLink.Proofs.CancelStep
import VenueLink.Proofs.CancelVerdict
import VenueLink.Proofs.Confined
import VenueLink.Proofs.ConnectionCourse
import VenueLink.Proofs.Connector
import VenueLink.Proofs.DecimalLiteral
import VenueLink.Proofs.DecimalText
import VenueLink.Proofs.Desk
import VenueLink.Proofs.Escalation
import VenueLink.Proofs.FailedPoll
import VenueLink.Proofs.FillAccount
import VenueLink.Proofs.FillPoll
import VenueLink.Proofs.Fills
import VenueLink.Proofs.Incidents
import VenueLink.Proofs.JsonText
import VenueLink.Proofs.LetterCase
import VenueLink.Proofs.Login
import VenueLink.Proofs.Messages
import VenueLink.Proofs.MissingOrder
import VenueLink.Proofs.OpenStream
import VenueLink.Proofs.Outages
import VenueLink.Proofs.Ownership
import VenueLink.Proofs.PairText
import VenueLink.Proofs.ProbeAnswers
import VenueLink.Proofs.Redelivery
import VenueLink.Proofs.Remainder
import VenueLink.Proofs.RequestIds
import VenueLink.Proofs.Resolution
import VenueLink.Proofs.ResolutionOutcome
import VenueLink.Proofs.Retries
import VenueLink.Proofs.Routine
import VenueLink.Proofs.Routing
import VenueLink.Proofs.Runs
import VenueLink.Proofs.Selection
import VenueLink.Proofs.SideBySide
import VenueLink.Proofs.Signals
import VenueLink.Proofs.SingleCancel
import VenueLink.Proofs.Supervisor
import VenueLink.Proofs.Sweep
import VenueLink.Proofs.Timers
import VenueLink.Rehearsal.Desk
import VenueLink.Rehearsal.Service
import VenueLink.Rehearsal.Stream
import VenueLink.Rehearsal.Venue
import VenueLink.Routine
import VenueLink.Service.HealthPage
import VenueLink.Service.Offline
import VenueLink.Service.Poll
import VenueLink.Service.Startup
import VenueLink.Service.Stop
import VenueLink.Settings.Basic
import VenueLink.Settings.EnvFile
import VenueLink.Settings.Lookup
import VenueLink.Settings.Telemetry
import VenueLink.Signing
import VenueLink.Stream.Address
import VenueLink.Stream.Backoff
import VenueLink.Stream.Error
import VenueLink.Stream.Frame
import VenueLink.Stream.Health
import VenueLink.Stream.Liveness
import VenueLink.Stream.Log
import VenueLink.Stream.Message
import VenueLink.Stream.Monitor
import VenueLink.Stream.Supervisor
import VenueLink.Text.Blank
import VenueLink.Text.Case
import VenueLink.Text.CaseTable
import VenueLink.Text.Cut
import VenueLink.Text.Hex
import VenueLink.Venue.Endpoint
import VenueLink.Venue.Error
import VenueLink.Venue.Request
import VenueLink.Venue.Rest
import VenueLink.Venue.Site
