import Passpoint.AccessNetwork
import Passpoint.Address
import Passpoint.Anqp.Answers
import Passpoint.Anqp.Kind
import Passpoint.Anqp.Lines
import Passpoint.Capture.Blocks
import Passpoint.Capture.Content
import Passpoint.Capture.File
import Passpoint.Capture.Frame
import Passpoint.Capture.Link
import Passpoint.Capture.Radio
import Passpoint.Capture.Records
import Passpoint.Capture.Survey
import Passpoint.Capture.Surveyor
import Passpoint.Command.Options
import Passpoint.Command.Run
import Passpoint.Decimal.Notation
import Passpoint.Decimal.Reading
import Passpoint.Decimal.Shortest
import Passpoint.Deflate.Code
import Passpoint.Deflate.Gzip
import Passpoint.Deflate.Inflate
import Passpoint.Document.Atom
import Passpoint.Document.Calendar
import Passpoint.Document.Json
import Passpoint.Document.Nesting
import Passpoint.Document.Places
import Passpoint.Document.Shown
import Passpoint.Document.Value
import Passpoint.Document.Yaml.Build
import Passpoint.Document.Yaml.Cursor
import Passpoint.Document.Yaml.Fault
import Passpoint.Document.Yaml.Lexing
import Passpoint.Document.Yaml.Merge
import Passpoint.Document.Yaml.Node
import Passpoint.Document.Yaml.Scalar
import Passpoint.Document.Yaml.ScalarValue
import Passpoint.Document.Yaml.Tag
import Passpoint.Document.Yaml.Time
import Passpoint.Document.Yaml.Token
import Passpoint.Element.BssLoad
import Passpoint.Element.Capabilities
import Passpoint.Element.Fault
import Passpoint.Element.Indication
import Passpoint.Element.Interworking
import Passpoint.Element.Name
import Passpoint.Element.Record
import Passpoint.Element.RoamingConsortium
import Passpoint.Element.Scan
import Passpoint.Element.ScanText
import Passpoint.Element.Tag
import Passpoint.Folder
import Passpoint.Log
import Passpoint.Main
import Passpoint.Network.Basic
import Passpoint.Network.Report
import Passpoint.Network.Roster
import Passpoint.Octets
import Passpoint.Proofs.Acceptance
import Passpoint.Proofs.AddressText
import Passpoint.Proofs.Codes
import Passpoint.Proofs.Concatenation
import Passpoint.Proofs.Description
import Passpoint.Proofs.FirstFault
import Passpoint.Proofs.JsonText
import Passpoint.Proofs.KeyText
import Passpoint.Proofs.LastRecord
import Passpoint.Proofs.Layout
import Passpoint.Proofs.Listing
import Passpoint.Proofs.Malformed
import Passpoint.Proofs.NameText
import Passpoint.Proofs.PasspointOnly
import Passpoint.Proofs.Records
import Passpoint.Proofs.ReportText
import Passpoint.Proofs.RoundTrip
import Passpoint.Proofs.Sent
import Passpoint.Proofs.Strictness
import Passpoint.Proofs.Survey
import Passpoint.Proofs.Tally
import Passpoint.Release
import Passpoint.Report.Json
import Passpoint.Settings.Basic
import Passpoint.Settings.File
import Passpoint.Text.Base64
import Passpoint.Text.Blank
import Passpoint.Text.Cased
import Passpoint.Text.Codes
import Passpoint.Text.DecimalDigit
import Passpoint.Text.Hex
import Passpoint.Text.Latin1
import Passpoint.Text.Lines
import Passpoint.Text.Lower
import Passpoint.Text.Number
import Passpoint.Text.Printable
import Passpoint.Text.Quoted
import Passpoint.Text.Terminal
import Passpoint.Text.Upper
import Passpoint.Text.Utf8
import Passpoint.Venue
import Passpoint.Proofs.Ignored
import Passpoint.Proofs.Rearrangement
import Passpoint.Proofs.Coherence
import Passpoint.Proofs.JsonDocument
import Passpoint.Proofs.SettingValues
import Passpoint.Proofs.Utf8
import Passpoint.Proofs.SettingsFile
import Passpoint.Proofs.Identifiers
import Passpoint.Proofs.Output
import Passpoint.Proofs.ReportLines
import Passpoint.Proofs.Routes
import Passpoint.Proofs.UsableSettings
import Passpoint.Proofs.Segments
import Passpoint.Proofs.NameReading
import Passpoint.Proofs.Charsets
import Passpoint.Proofs.Truncation
import Passpoint.Proofs.FreeBits
import Passpoint.Proofs.WhiteSpace
import Passpoint.Proofs.HexText
import Passpoint.Proofs.AddressDigits
import Passpoint.Proofs.ElementText
import Passpoint.Proofs.AnswerUpdate
import Passpoint.Proofs.AnswerLines
import Passpoint.Proofs.Transcript
import Passpoint.Proofs.CommandLine
import Passpoint.Proofs.LineEnds
import Passpoint.Proofs.Mappings
import Passpoint.Proofs.Overrides
import Passpoint.Capture.Clock
import Passpoint.Proofs.StoppedSurvey
import Passpoint.Element.Walk
import Passpoint.Proofs.ScanLog
import Passpoint.Proofs.DecodeEnding
