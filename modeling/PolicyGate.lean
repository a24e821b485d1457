import PolicyGate.Text.Blank
import PolicyGate.Text.Quoted
import PolicyGate.Text.SnakeCase
import PolicyGate.Text.Utf8
import PolicyGate.Decimal.Layout
import PolicyGate.Json.Writer
import PolicyGate.Json.Number
import PolicyGate.Json.Strings
import PolicyGate.Json.Skip
import PolicyGate.Json.Codec
import PolicyGate.Json.Access
import PolicyGate.Pipeline
import PolicyGate.Settings
import PolicyGate.Validator
import PolicyGate.Http
import PolicyGate.Json.Keys
import PolicyGate.FileSystem
import PolicyGate.Command.Line
import PolicyGate.Main
import PolicyGate.Proofs.Json.Canonical
import PolicyGate.Proofs.Json.Reading
import PolicyGate.Proofs.Json.Record
import PolicyGate.Proofs.Pipeline.Decoding
import PolicyGate.Proofs.Text.Octets
import PolicyGate.Proofs.Text.Utf8
import PolicyGate.Proofs.Gate.Course
import PolicyGate.Proofs.Store
import PolicyGate.Proofs.Pipeline.Encoding
import PolicyGate.Proofs.Gate.Approval
import PolicyGate.Proofs.Gate.WholeDocument
import PolicyGate.Proofs.Json.Spacing
import PolicyGate.Proofs.Json.Spelling
import PolicyGate.Proofs.Json.Fields
import PolicyGate.Proofs.Json.RoundTrip
import PolicyGate.Proofs.Pipeline.RoundTrip
import PolicyGate.Proofs.Request.RoundTrip
import PolicyGate.Proofs.Endpoint
import PolicyGate.Proofs.Settings.Validation
import PolicyGate.Proofs.Client
import PolicyGate.Proofs.Gate.Log
import PolicyGate.Proofs.Gate.Sequence
import PolicyGate.Proofs.Gate.Isolation
import PolicyGate.Proofs.Request.Identity
import PolicyGate.Proofs.Request.Choice
import PolicyGate.Proofs.Pipeline.Operations
import PolicyGate.Proofs.Validator.Sequence
import PolicyGate.Proofs.Gate.Events
import PolicyGate.Proofs.Gate.Http
import PolicyGate.Proofs.Command.DryRun
import PolicyGate.Proofs.Json.Respelling
import PolicyGate.Proofs.Settings.Respelling
import PolicyGate.Proofs.Json.Stability
import PolicyGate.Proofs.Json.Arrays
import PolicyGate.Proofs.Store.Reading
import PolicyGate.Proofs.Command.Resave
import PolicyGate.Proofs.Settings.RoundTrip
import PolicyGate.Proofs.Command.Lines
import PolicyGate.Proofs.Text.Case
import PolicyGate.Proofs.Request.Recasing
import PolicyGate.Proofs.Reply.Native
import PolicyGate.Proofs.Pipeline.WrittenBack
import PolicyGate.Proofs.Command.Files
import PolicyGate.Proofs.Command.Steps
import PolicyGate.Proofs.Endpoint.Joining
import PolicyGate.Proofs.Text.Words
import PolicyGate.Proofs.Json.Settled
import PolicyGate.Proofs.Text.Separation
import PolicyGate.Proofs.FileSystem
import PolicyGate.Proofs.Settings.Loading
