import Roster.Accounts
import Roster.Api.Access
import Roster.Api.Body
import Roster.Api.Credentials
import Roster.Api.Endpoint
import Roster.Api.Handler
import Roster.Api.Health
import Roster.Api.Notification
import Roster.Api.RequestLog
import Roster.Api.Resource
import Roster.Api.Server
import Roster.Api.View
import Roster.Binary64
import Roster.Binary64.Reading
import Roster.Binary64.Shortest
import Roster.Calendar.Date
import Roster.Circle
import Roster.Circles
import Roster.CommandLine
import Roster.Dialogue
import Roster.Digest.Argon2
import Roster.Digest.Blake2b
import Roster.Digest.Sha256
import Roster.Duration
import Roster.Email
import Roster.Email.Address
import Roster.Email.HostData
import Roster.Email.International
import Roster.Email.Punycode
import Roster.Encoding.Base64
import Roster.Encoding.Bytes
import Roster.Encoding.Form
import Roster.Encoding.Hex
import Roster.Encoding.Utf8
import Roster.Enrolment
import Roster.Fault
import Roster.FieldErrors
import Roster.Fresh
import Roster.Http.Header
import Roster.Http.MediaType
import Roster.Http.Message
import Roster.Http.Status
import Roster.Http.Uri
import Roster.Identifier
import Roster.Json
import Roster.Json.Decoder
import Roster.Json.Reader
import Roster.Json.Token
import Roster.Kind
import Roster.Listing
import Roster.Listing.Query
import Roster.Main
import Roster.Membership
import Roster.Metrics
import Roster.Metrics.PathLabel
import Roster.Password
import Roster.Permission
import Roster.Rule
import Roster.Settings
import Roster.Settings.Environment
import Roster.Settings.Path
import Roster.Settings.Reading
import Roster.Settings.Source
import Roster.Settings.Value
import Roster.Settings.View
import Roster.Slug
import Roster.Sql.Circles
import Roster.Sql.Constraint
import Roster.Sql.Like
import Roster.Sql.Memberships
import Roster.Sql.Migration
import Roster.Sql.Query
import Roster.Sql.Row
import Roster.Sql.Schema
import Roster.Sql.Script
import Roster.Sql.Search
import Roster.Sql.Statement
import Roster.Sql.Users
import Roster.Startup
import Roster.Storage
import Roster.Store
import Roster.Store.Memory
import Roster.Store.Server
import Roster.Text.Blank
import Roster.Text.CaseData
import Roster.Text.Lowercase
import Roster.Text.Pieces
import Roster.Text.Scan
import Roster.Timestamp
import Roster.Timestamp.Rfc3339
import Roster.Token
import Roster.Toml.Document
import Roster.Toml.Scalar
import Roster.Toml.Text
import Roster.Toml.Tree
import Roster.User
import Roster.Proofs.Dialogue.Calls
import Roster.Proofs.Dialogue.Interleaving
import Roster.Proofs.Store.Effects
import Roster.Proofs.Store.Integrity
import Roster.Proofs.Store.LastWrite
import Roster.Proofs.Accounts.Calls
import Roster.Proofs.Circles.Calls
import Roster.Proofs.Enrolment.Calls
import Roster.Proofs.Api.Calls
import Roster.Proofs.Store.Runs
import Roster.Proofs.Api.Integrity
import Roster.Proofs.Enrolment.Machine
import Roster.Proofs.Enrolment.Rolls
import Roster.Proofs.Enrolment.Stages
import Roster.Proofs.Store.Records
import Roster.Proofs.Enrolment.Ledger
import Roster.Proofs.Enrolment.Racing
import Roster.Proofs.Json.Shape
import Roster.Proofs.Text.Pieces
import Roster.Proofs.Api.Access
import Roster.Proofs.Api.Routing
import Roster.Proofs.Api.Authorization
import Roster.Proofs.Store.Visiting
import Roster.Proofs.Enrolment.References
import Roster.Proofs.Accounts.Updating
import Roster.Proofs.Encoding.Base64
import Roster.Proofs.Encoding.Bytes
import Roster.Proofs.Json.Scanning
import Roster.Proofs.Json.ReadBack
import Roster.Proofs.Token.RoundTrip
import Roster.Proofs.Token.Soundness
import Roster.Proofs.Token.Lifetime
import Roster.Proofs.Api.Failures
import Roster.Proofs.Api.Credentials
import Roster.Proofs.Api.Runs
import Roster.Proofs.Api.Guard
import Roster.Proofs.Api.Bearer
import Roster.Proofs.Store.Members
import Roster.Proofs.Listing.Arrangement
import Roster.Proofs.Listing.Collection
import Roster.Proofs.Listing.Paging
import Roster.Proofs.Listing.OrderClause
import Roster.Proofs.Api.AdminGate
import Roster.Proofs.Store.Validity
import Roster.Proofs.Accounts.Validity
import Roster.Proofs.Circles.Validity
import Roster.Proofs.Enrolment.Validity
import Roster.Proofs.Store.Hashes
import Roster.Proofs.Store.Agreement
import Roster.Proofs.Accounts.Hashes
import Roster.Proofs.Enrolment.Hashes
import Roster.Proofs.Api.Hashes
import Roster.Proofs.Sql.Parameters
import Roster.Proofs.Sql.Conversation
import Roster.Proofs.Sql.Statements
import Roster.Proofs.Store.Statements
import Roster.Proofs.Sql.Constraint
import Roster.Proofs.Sql.Transaction
import Roster.Proofs.Store.Founding
import Roster.Proofs.Api.Founding
import Roster.Proofs.Sql.Database
import Roster.Proofs.Sql.Migration
import Roster.Proofs.Text.Lowercase
import Roster.Proofs.Listing.Search
import Roster.Proofs.Slug.NormalForm
import Roster.Proofs.Rule.Lengths
import Roster.Proofs.Slug.Deriving
import Roster.Proofs.Accounts.Deriving
import Roster.Proofs.Circles.Deriving
import Roster.Proofs.Slug.Creating
import Roster.Proofs.Sql.Width
import Roster.Proofs.Api.Verdict
import Roster.Proofs.Api.Notifications
import Roster.Proofs.Token.Expiry
import Roster.Proofs.Rule.Findings
import Roster.Proofs.Store.Taken
import Roster.Proofs.Accounts.Probing
import Roster.Proofs.Accounts.Creating
import Roster.Proofs.Circles.Probing
import Roster.Proofs.Accounts.Revising
import Roster.Proofs.Circles.Revising
import Roster.Proofs.Enrolment.Revising
import Roster.Proofs.Accounts.Ensuring
import Roster.Proofs.Slug.Grammar
import Roster.Proofs.Sql.Pattern
import Roster.Proofs.Sql.Reading
import Roster.Proofs.Sql.Written
import Roster.Proofs.Sql.ReadBack
import Roster.Proofs.Api.Schemes
import Roster.Proofs.Accounts.Passwords
import Roster.Proofs.Enrolment.Counting
import Roster.Proofs.Api.Redaction
import Roster.Proofs.Metrics.PathLabel
import Roster.Proofs.Sql.Declared
import Roster.Proofs.Sql.Keeping
import Roster.Proofs.Sql.Holdings
import Roster.Proofs.Store.Violations
import Roster.Proofs.Store.Checks
import Roster.Proofs.Store.Reports
