import Bearer.Text.Base64
import Bearer.Text.Blank
import Bearer.Text.Ranges
import Bearer.Text.Marks
import Bearer.Text.Case
import Bearer.Text.Composition
import Bearer.Text.Cursive
import Bearer.Text.Digits
import Bearer.Text.Layout
import Bearer.Text.Letters
import Bearer.Text.Ordering
import Bearer.Text.Normal
import Bearer.Text.Printable
import Bearer.Text.Quoted
import Bearer.Text.Script
import Bearer.Text.Utf8
import Bearer.Number.Binary
import Bearer.Number.Decimal
import Bearer.Number.Shortest
import Bearer.Time.Span
import Bearer.Time.Clock
import Bearer.Time.Duration
import Bearer.Time.Stamp
import Bearer.Json.Value
import Bearer.Json.Display
import Bearer.Json.Equality
import Bearer.Json.Reader
import Bearer.Json.Writer
import Bearer.Scope.Basic
import Bearer.Scope.Catalogue
import Bearer.Scope.Input
import Bearer.Scope.Wire
import Bearer.Requirement.Basic
import Bearer.Requirement.Display
import Bearer.Requirement.Token
import Bearer.Requirement.Parser
import Bearer.Requirement.Builder
import Bearer.Requirement.Expression
import Bearer.Credential.Basic
import Bearer.Credential.Csrf
import Bearer.Payload.Problem
import Bearer.Payload.Reading
import Bearer.Http.Status
import Bearer.Payload.Values
import Bearer.Payload.Records
import Bearer.Logging.Level
import Bearer.Settings.Basic
import Bearer.Settings.DotEnv
import Bearer.Settings.Load
import Bearer.Settings.Cache
import Bearer.Url.Percent
import Bearer.Url.Form
import Bearer.Url.Host
import Bearer.Url.Permitted
import Bearer.Url.Direction
import Bearer.Url.Punycode
import Bearer.Url.Label
import Bearer.Url.International
import Bearer.Url.Query
import Bearer.Url.Basic
import Bearer.Url.Reference
import Bearer.Deflate.Bits
import Bearer.Deflate.Code
import Bearer.Deflate.Fault
import Bearer.Deflate.Block
import Bearer.Deflate.Checksum
import Bearer.Deflate.Format
import Bearer.Http.Headers
import Bearer.Http.Response
import Bearer.Http.Coding
import Bearer.Http.Request
import Bearer.Http.Redirect
import Bearer.Http.Server
import Bearer.Http.Client
import Bearer.Http.Agent
import Bearer.Http.Offline
import Bearer.Http.Script
import Bearer.Fault.Kind
import Bearer.Fault.Diagnosis
import Bearer.Fault.Failure
import Bearer.Answer.Check
import Bearer.Logging.Record
import Bearer.Logging.Setup
import Bearer.Logging.Files
import Bearer.Flow.Basic
import Bearer.Flow.Trail
import Bearer.Flow.World
import Bearer.Flow.Send
import Bearer.Endpoint.Request
import Bearer.Endpoint.ClientCredentials
import Bearer.Endpoint.Refresh
import Bearer.Endpoint.Revocation
import Bearer.Endpoint.Validation
import Bearer.Token.Lifetime
import Bearer.Token.Basic
import Bearer.Token.App
import Bearer.Token.User
import Bearer.Token.Use
import Bearer.Grant.Browser
import Bearer.Grant.Code
import Bearer.Grant.Device
import Bearer.Grant.Implicit
import Bearer.Report.Basic
import Bearer.Report.Records
import Bearer.Cli.Options
import Bearer.Cli.Command
import Bearer.Cli.Controls
import Bearer.Cli.Input
import Bearer.Cli.Output
import Bearer.Cli.Run
import Bearer.Main
import Bearer.Proofs.Requirement.Nodes
import Bearer.Proofs.Requirement.Residual
import Bearer.Proofs.Requirement.Spelling
import Bearer.Proofs.Requirement.Grammar
import Bearer.Proofs.Requirement.Reading
import Bearer.Proofs.Flow.Sending
import Bearer.Proofs.Grant.DeviceRun
import Bearer.Proofs.Flow.Cases
import Bearer.Proofs.Flow.Exchanges
import Bearer.Proofs.Flow.Holding
import Bearer.Proofs.Token.Alone
import Bearer.Proofs.Token.Refreshing
import Bearer.Proofs.Payload.Readings
import Bearer.Proofs.Payload.Fields
import Bearer.Proofs.Answer.Refusals
import Bearer.Proofs.Grant.DeviceAlone
import Bearer.Proofs.Flow.Closing
import Bearer.Proofs.Operation.Basic
import Bearer.Proofs.Operation.Closed
import Bearer.Proofs.Payload.Breaking
import Bearer.Proofs.Http.Replies
import Bearer.Proofs.Flow.Containing
import Bearer.Proofs.Operation.Contained
import Bearer.Proofs.Secrecy.Outcomes
import Bearer.Proofs.Secrecy.Queries
import Bearer.Proofs.Secrecy.Urls
import Bearer.Proofs.Secrecy.Requests
import Bearer.Proofs.Secrecy.Flows
import Bearer.Proofs.Secrecy.Tokens
import Bearer.Proofs.Secrecy.Grants
import Bearer.Proofs.Operation.Secrecy
import Bearer.Proofs.Text.Trimmed
import Bearer.Proofs.Text.Utf8
import Bearer.Proofs.Url.Forms
import Bearer.Proofs.Url.Hosts
import Bearer.Proofs.Url.Parts
import Bearer.Proofs.Url.Parameters
import Bearer.Proofs.Grant.BrowserRun
import Bearer.Proofs.Http.Requests
import Bearer.Proofs.Operation.Vouched
import Bearer.Proofs.Operation.Errands
import Bearer.Proofs.Operation.Plans
import Bearer.Proofs.Operation.Sent
import Bearer.Proofs.Requirement.Shape
import Bearer.Proofs.Requirement.Granting
import Bearer.Proofs.Requirement.Pruning
import Bearer.Proofs.Time.Exact
import Bearer.Proofs.Flow.Keeping
import Bearer.Proofs.Flow.Onward
import Bearer.Proofs.Token.Lifetimes
import Bearer.Proofs.Requirement.Wording
import Bearer.Proofs.Grant.Polls
import Bearer.Proofs.Grant.Schedule
import Bearer.Proofs.Json.RoundTrip
import Bearer.Proofs.Cli.Verdicts
import Bearer.Proofs.Requirement.Meaning
import Bearer.Proofs.Requirement.Membership
import Bearer.Proofs.Scope.Words
import Bearer.Proofs.Operation.Scopes
import Bearer.Proofs.Url.Pasted
import Bearer.Proofs.Cli.Redirects
import Bearer.Proofs.Credential.Csrf
import Bearer.Proofs.Requirement.Lexemes
import Bearer.Proofs.Requirement.Steps
import Bearer.Proofs.Requirement.Faults
import Bearer.Proofs.Logging.Replacing
