import Switchboard.CommandLine
import Switchboard.Connector.Basic
import Switchboard.Connector.Credentials
import Switchboard.Connector.History
import Switchboard.Connector.Signature
import Switchboard.Connector.Webhook
import Switchboard.Digest.Hex
import Switchboard.Digest.Hmac
import Switchboard.Digest.Sha256
import Switchboard.Engine.Basic
import Switchboard.Engine.Echo
import Switchboard.Failure
import Switchboard.Http.Domain
import Switchboard.Http.Domain.Table
import Switchboard.Http.Header
import Switchboard.Http.Host
import Switchboard.Http.Message
import Switchboard.Http.Mount
import Switchboard.Http.Percent
import Switchboard.Http.Url
import Switchboard.Inbound.Click
import Switchboard.Inbound.Event
import Switchboard.Inbound.Form
import Switchboard.Inbound.Masking
import Switchboard.Inbound.Mention
import Switchboard.Inbound.Payload
import Switchboard.Json.Basic
import Switchboard.Json.Numeral
import Switchboard.Json.Printer
import Switchboard.Json.Reader
import Switchboard.Json.Term
import Switchboard.Log
import Switchboard.Main
import Switchboard.Message.Button
import Switchboard.Message.Instant
import Switchboard.Message.Response
import Switchboard.Message.UserMessage
import Switchboard.Number.Plain
import Switchboard.Number.Reading
import Switchboard.Number.Shortest
import Switchboard.Outbound.Attachment
import Switchboard.Outbound.Channel
import Switchboard.Outbound.Plan
import Switchboard.Outbound.Session
import Switchboard.Outbound.Slack
import Switchboard.Outbound.WebClient
import Switchboard.Proofs.Connector.Acceptance
import Switchboard.Proofs.Connector.Binding
import Switchboard.Proofs.Connector.Echo
import Switchboard.Proofs.Connector.Fate
import Switchboard.Proofs.Connector.Gate
import Switchboard.Proofs.Connector.Isolation
import Switchboard.Proofs.Connector.Posting
import Switchboard.Proofs.Connector.Recipient
import Switchboard.Proofs.Connector.Signature
import Switchboard.Proofs.Connector.Verdict
import Switchboard.Proofs.Http.Header
import Switchboard.Proofs.Http.Mount
import Switchboard.Proofs.Http.Place
import Switchboard.Proofs.Inbound.Callback
import Switchboard.Proofs.Inbound.Click
import Switchboard.Proofs.Inbound.Dropped
import Switchboard.Proofs.Inbound.Form
import Switchboard.Proofs.Inbound.Masking
import Switchboard.Proofs.Inbound.OwnIds
import Switchboard.Proofs.Inbound.Pairs
import Switchboard.Proofs.Inbound.Report
import Switchboard.Proofs.Inbound.Sanitize
import Switchboard.Proofs.Inbound.StandAlone
import Switchboard.Proofs.Json.Member
import Switchboard.Proofs.Json.Object
import Switchboard.Proofs.Json.Print
import Switchboard.Proofs.Json.Quoted
import Switchboard.Proofs.Json.RoundTrip
import Switchboard.Proofs.Json.Settled
import Switchboard.Proofs.Json.Tokens
import Switchboard.Proofs.Json.Written
import Switchboard.Proofs.Message.Instant
import Switchboard.Proofs.Message.Response
import Switchboard.Proofs.Number.Digits
import Switchboard.Proofs.Outbound.Attempt
import Switchboard.Proofs.Outbound.Call
import Switchboard.Proofs.Outbound.Halting
import Switchboard.Proofs.Outbound.Law
import Switchboard.Proofs.Outbound.Paragraph
import Switchboard.Proofs.Outbound.Recipient
import Switchboard.Proofs.Outbound.Sequence
import Switchboard.Proofs.Outbound.SlackReply
import Switchboard.Proofs.Outbound.Tag
import Switchboard.Proofs.Outbound.TextReply
import Switchboard.Proofs.Record.Grammar
import Switchboard.Proofs.Record.Printed
import Switchboard.Proofs.Rows
import Switchboard.Proofs.Server.Address
import Switchboard.Proofs.Server.Conversation
import Switchboard.Proofs.Server.Mounting
import Switchboard.Proofs.Server.Secrecy
import Switchboard.Proofs.Server.Servable
import Switchboard.Proofs.Settings.Aliases
import Switchboard.Proofs.Settings.Layers
import Switchboard.Proofs.Settings.Merge
import Switchboard.Proofs.Settings.Precedence
import Switchboard.Proofs.Settings.Reading
import Switchboard.Proofs.Settings.Variables
import Switchboard.Proofs.Text.Casing
import Switchboard.Proofs.Text.Lossy
import Switchboard.Proofs.Text.Replace
import Switchboard.Proofs.Text.Run
import Switchboard.Proofs.Text.Search
import Switchboard.Proofs.Text.Trim
import Switchboard.Proofs.Text.Utf8
import Switchboard.Proofs.Text.Words
import Switchboard.Record
import Switchboard.Server.Address
import Switchboard.Server.App
import Switchboard.Server.Run
import Switchboard.Settings.DotEnv
import Switchboard.Settings.Environment
import Switchboard.Settings.Files
import Switchboard.Settings.Format
import Switchboard.Settings.Ini
import Switchboard.Settings.Json5
import Switchboard.Settings.Load
import Switchboard.Settings.Merge
import Switchboard.Settings.Path
import Switchboard.Settings.ReadError
import Switchboard.Settings.Ron
import Switchboard.Settings.Schema
import Switchboard.Settings.Toml.Node
import Switchboard.Settings.Toml.Quote
import Switchboard.Settings.Toml.Reader
import Switchboard.Settings.Toml.Scalar
import Switchboard.Settings.Value
import Switchboard.Settings.Yaml.Cursor
import Switchboard.Settings.Yaml.Node
import Switchboard.Settings.Yaml.Reader
import Switchboard.Settings.Yaml.Scalar
import Switchboard.Settings.Yaml.Token
import Switchboard.Text.Alphanumeric
import Switchboard.Text.Blank
import Switchboard.Text.Casing
import Switchboard.Text.CasingTable
import Switchboard.Text.Direction
import Switchboard.Text.Joining
import Switchboard.Text.NameTable
import Switchboard.Text.Normal
import Switchboard.Text.NormalTable
import Switchboard.Text.Punycode
import Switchboard.Text.Quoted
import Switchboard.Text.QuotedTable
import Switchboard.Text.Ranges
import Switchboard.Text.ScriptTable
import Switchboard.Text.Search
import Switchboard.Text.Utf8
