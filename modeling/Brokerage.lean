import Brokerage.Api.Auth
import Brokerage.Api.Call
import Brokerage.Api.Leads
import Brokerage.Api.Listings
import Brokerage.Attribution.Basic
import Brokerage.Attribution.Tracker
import Brokerage.Attribution.Utm
import Brokerage.Board
import Brokerage.Config
import Brokerage.Cookie.Basic
import Brokerage.Cookie.Date
import Brokerage.Cookie.Jar
import Brokerage.Cookie.Source
import Brokerage.Duration
import Brokerage.Error
import Brokerage.Files.Basic
import Brokerage.Files.Fault
import Brokerage.Files.Path
import Brokerage.Identity
import Brokerage.Json.Decimal
import Brokerage.Json.Fault
import Brokerage.Json.Number
import Brokerage.Json.Quote
import Brokerage.Json.Reader
import Brokerage.Json.Record
import Brokerage.Json.Skip
import Brokerage.Json.Value
import Brokerage.Lead.Basic
import Brokerage.Lead.Capture
import Brokerage.Lead.Status
import Brokerage.Listing
import Brokerage.Log
import Brokerage.Page
import Brokerage.Preferences
import Brokerage.Rehearsal.Script
import Brokerage.Rehearsal.World
import Brokerage.Session.Request
import Brokerage.Session.Setup
import Brokerage.Session.State
import Brokerage.Session.Step
import Brokerage.Store.Basic
import Brokerage.Store.File
import Brokerage.Store.Table
import Brokerage.Text.Blank
import Brokerage.Text.Canonical.Composed
import Brokerage.Text.Canonical.Pieces
import Brokerage.Text.Canonical.Rank
import Brokerage.Text.Cased
import Brokerage.Text.Digits
import Brokerage.Text.Hidden
import Brokerage.Text.Lowercase
import Brokerage.Text.Mark
import Brokerage.Text.Numeral
import Brokerage.Text.Parts
import Brokerage.Text.Quoted
import Brokerage.Text.Range
import Brokerage.Text.Utf8
import Brokerage.Timeouts
import Brokerage.Timestamp
import Brokerage.Ulid
import Brokerage.Url.Address
import Brokerage.Url.Basic
import Brokerage.Url.Domain
import Brokerage.Url.Domain.Direction
import Brokerage.Url.Domain.Folding
import Brokerage.Url.Domain.Joining
import Brokerage.Url.Fault
import Brokerage.Url.Form
import Brokerage.Url.Host
import Brokerage.Url.Parser
import Brokerage.Url.Percent
import Brokerage.Url.Punycode
import Brokerage.User
import Brokerage.Proofs.Text.Encoding
import Brokerage.Proofs.Json.Quoted
import Brokerage.Proofs.Json.Written
import Brokerage.Proofs.Json.Records
import Brokerage.Proofs.RoundTrip
import Brokerage.Proofs.Timestamp
import Brokerage.Proofs.Lookup
import Brokerage.Proofs.Store.Table
import Brokerage.Proofs.Files.Operation
import Brokerage.Proofs.Files.Directory
import Brokerage.Proofs.Files.Path
import Brokerage.Proofs.Store.File
import Brokerage.Proofs.Store.Refinement
import Brokerage.Proofs.Store.Mirror
import Brokerage.Proofs.Store.Atomicity
import Brokerage.Proofs.Store.Housing
import Brokerage.Proofs.Store.Neighbours
import Brokerage.Proofs.Ulid
import Brokerage.Proofs.Session.Move
import Brokerage.Proofs.Session.Renewal
import Brokerage.Proofs.Session.Caller
import Brokerage.Proofs.Session.SingleFlight
import Brokerage.Proofs.Session.Outcome
import Brokerage.Proofs.Session.Notification
import Brokerage.Proofs.Session.Plan
import Brokerage.Proofs.Session.Cancellation
import Brokerage.Proofs.Session.Decoration
import Brokerage.Proofs.Session.Expiry
import Brokerage.Proofs.Session.Retry
import Brokerage.Proofs.Session.Timing
import Brokerage.Proofs.Attribution.Visits
import Brokerage.Proofs.Attribution.Recall
import Brokerage.Proofs.Board.Columns
import Brokerage.Proofs.Board.Move
import Brokerage.Proofs.Board.Rollback
import Brokerage.Proofs.Board.Occurrence
import Brokerage.Proofs.Json.Exact
import Brokerage.Proofs.Store.Exact
import Brokerage.Proofs.Store.Unreadable
import Brokerage.Proofs.Url.Segment
import Brokerage.Proofs.Url.Joining
import Brokerage.Proofs.Api.Identities
import Brokerage.Proofs.Board.Grouping
import Brokerage.Proofs.Cookie.Header
import Brokerage.Proofs.Cookie.Lookup
import Brokerage.Proofs.Url.Query
import Brokerage.Proofs.Attribution.Utm
import Brokerage.Proofs.Api.Queries
import Brokerage.Proofs.Paging
import Brokerage.Proofs.Config.Endpoint
import Brokerage.Proofs.Text.Numeral
import Brokerage.Proofs.Url.Written
import Brokerage.Proofs.Config.Environment
import Brokerage.Proofs.Json.Grammar
import Brokerage.Proofs.Json.Passing
import Brokerage.Proofs.Json.Following
import Brokerage.Proofs.Json.Objects
import Brokerage.Proofs.Json.Extension
import Brokerage.Proofs.Json.Truncation
import Brokerage.Proofs.Json.Rearrangement
import Brokerage.Proofs.Json.Tolerance
import Brokerage.Proofs.Decoding
import Brokerage.Proofs.Json.Reach
import Brokerage.Proofs.Url.Target
import Brokerage.Proofs.Config.Location
import Brokerage.Proofs.Cookie.Inversion
