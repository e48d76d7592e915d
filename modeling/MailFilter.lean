import MailFilter.Assoc
import MailFilter.Calendar
import MailFilter.CommandLine.Help
import MailFilter.CommandLine.Options
import MailFilter.CommandLine.Program
import MailFilter.Decimal.Binary
import MailFilter.Decimal.Places
import MailFilter.Decimal.Reading
import MailFilter.Decimal.Shortest
import MailFilter.Delivery.Arrival
import MailFilter.Delivery.Engine
import MailFilter.Delivery.Outcome
import MailFilter.Delivery.Run
import MailFilter.Delivery.Source
import MailFilter.Failure
import MailFilter.Files.Path
import MailFilter.Files.TextFile
import MailFilter.Files.Tree
import MailFilter.Json.Basic
import MailFilter.Json.Reader
import MailFilter.Json.Value
import MailFilter.Log.Line
import MailFilter.Log.Placeholder
import MailFilter.Log.Record
import MailFilter.Log.Recorder
import MailFilter.Main
import MailFilter.Match.Comparison
import MailFilter.Match.Glob
import MailFilter.Match.Kind
import MailFilter.Message.AddressList
import MailFilter.Message.Basic
import MailFilter.Message.Date
import MailFilter.Message.EncodedWord
import MailFilter.Message.Identifier
import MailFilter.Message.Mailbox
import MailFilter.Message.MediaType
import MailFilter.Message.Parameter
import MailFilter.Message.Reading
import MailFilter.Message.Word
import MailFilter.Proofs.Delivery.Branches
import MailFilter.Proofs.Delivery.Captures
import MailFilter.Proofs.Delivery.Context
import MailFilter.Proofs.Delivery.Decision
import MailFilter.Proofs.Delivery.Destinations
import MailFilter.Proofs.Delivery.Disabled
import MailFilter.Proofs.Delivery.Exec
import MailFilter.Proofs.Delivery.Following
import MailFilter.Proofs.Delivery.Growth
import MailFilter.Proofs.Delivery.Invariant
import MailFilter.Proofs.Delivery.Negation
import MailFilter.Proofs.Delivery.Observation
import MailFilter.Proofs.Delivery.Safety
import MailFilter.Proofs.Delivery.Sequence
import MailFilter.Proofs.Delivery.Simulation
import MailFilter.Proofs.Delivery.Steps
import MailFilter.Proofs.Delivery.Visibility
import MailFilter.Proofs.Files.Path
import MailFilter.Proofs.Match.Folding
import MailFilter.Proofs.Match.Number
import MailFilter.Proofs.Match.Occurrence
import MailFilter.Proofs.Match.Quoting
import MailFilter.Proofs.Match.Split
import MailFilter.Proofs.Message.Continuation
import MailFilter.Proofs.Message.Independence
import MailFilter.Proofs.Message.Progress
import MailFilter.Proofs.Script.Checked
import MailFilter.Proofs.Script.Location
import MailFilter.Proofs.Script.Parts
import MailFilter.Proofs.Script.Reading
import MailFilter.Proofs.Script.Refusal
import MailFilter.Proofs.Script.Unbound
import MailFilter.Proofs.Settings.Accounts
import MailFilter.Proofs.Settings.Declared
import MailFilter.Proofs.Settings.Entries
import MailFilter.Proofs.Settings.Layers
import MailFilter.Proofs.Settings.Outcome
import MailFilter.Proofs.Settings.Overriding
import MailFilter.Proofs.Settings.Reloading
import MailFilter.Proofs.Settings.Unknown
import MailFilter.Proofs.Template.Boundary
import MailFilter.Proofs.Template.Lookups
import MailFilter.Proofs.Template.Reference
import MailFilter.Proofs.Template.Substitution
import MailFilter.Proofs.Text.FormEncoded
import MailFilter.Proofs.Variable.Assignment
import MailFilter.Proofs.Variable.CaseModifiers
import MailFilter.Proofs.Yaml.Printed
import MailFilter.Script.Basic
import MailFilter.Script.Document
import MailFilter.Script.Reading
import MailFilter.Script.Variables
import MailFilter.Settings.Basic
import MailFilter.Settings.Environment
import MailFilter.Settings.Reading
import MailFilter.Settings.Section
import MailFilter.Settings.Writing
import MailFilter.Text.Base64
import MailFilter.Text.Basic
import MailFilter.Text.Blank
import MailFilter.Text.Case
import MailFilter.Text.CaseTable
import MailFilter.Text.Charset
import MailFilter.Text.CharsetTable
import MailFilter.Text.CodePoint
import MailFilter.Text.DigitTable
import MailFilter.Text.FormEncoded
import MailFilter.Text.Integer
import MailFilter.Text.PrintableTable
import MailFilter.Text.Quoted
import MailFilter.Text.Utf8
import MailFilter.Value.Basic
import MailFilter.Value.Display
import MailFilter.Value.Shared
import MailFilter.Variable.Modifier
import MailFilter.Variable.Session
import MailFilter.Variable.SetCommand
import MailFilter.Variable.Store
import MailFilter.Variable.Template
import MailFilter.Yaml.Cursor
import MailFilter.Yaml.Format
import MailFilter.Yaml.Meaning
import MailFilter.Yaml.Node
import MailFilter.Yaml.Page
import MailFilter.Yaml.Scalar
import MailFilter.Yaml.Shape
import MailFilter.Yaml.Style
import MailFilter.Yaml.Tag
import MailFilter.Yaml.Token
import MailFilter.Yaml.Writing
import MailFilter.Proofs.Variable.Arguments
import MailFilter.Proofs.Variable.Order
import MailFilter.Proofs.Variable.Session
import MailFilter.Proofs.Variable.Encodable
import MailFilter.Proofs.Json.Written
import MailFilter.Proofs.Json.RoundTrip
import MailFilter.Proofs.Log.Console
import MailFilter.Proofs.Log.ReadBack
