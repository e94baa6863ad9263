import TelephonyAlerts.Text.Digit
import TelephonyAlerts.Text.Quoted
import TelephonyAlerts.Number.Decimal
import TelephonyAlerts.Number.Reader
import TelephonyAlerts.Calendar.Moment
import TelephonyAlerts.Calendar.Week
import TelephonyAlerts.Calendar.Moment.Reader
import TelephonyAlerts.Data.Datum
import TelephonyAlerts.Template.Piece
import TelephonyAlerts.Template.Argument
import TelephonyAlerts.Template.Layout
import TelephonyAlerts.Template.Render
import TelephonyAlerts.Wording
import TelephonyAlerts.Alert.Audience
import TelephonyAlerts.Blocked.Summary
import TelephonyAlerts.Host.Device
import TelephonyAlerts.Decision.Sampling
import TelephonyAlerts.Decision.Sink
import TelephonyAlerts.Settings.Read
import TelephonyAlerts.Blocked.Notice
import TelephonyAlerts.Lines.Forwarding
import TelephonyAlerts.Lines.Network
import TelephonyAlerts.Lines.Voicemail
import TelephonyAlerts.Host.Operation
import TelephonyAlerts.Desk.Basic
import TelephonyAlerts.Desk.Request
import TelephonyAlerts.Desk.Registry
import TelephonyAlerts.Text.Utf8
import TelephonyAlerts.Yaml.Character
import TelephonyAlerts.Yaml.Cursor
import TelephonyAlerts.Yaml.Token
import TelephonyAlerts.Yaml.Token.Quoted
import TelephonyAlerts.Yaml.Token.Plain
import TelephonyAlerts.Yaml.Token.Block
import TelephonyAlerts.Yaml.Token.Name
import TelephonyAlerts.Yaml.Token.Lexer
import TelephonyAlerts.Yaml.Node
import TelephonyAlerts.Yaml.Node.Reader
import TelephonyAlerts.Yaml.Scalar
import TelephonyAlerts.Yaml.Document
import TelephonyAlerts.Proofs.Results
import TelephonyAlerts.Proofs.Delivery
import TelephonyAlerts.Proofs.Request
import TelephonyAlerts.Proofs.Run
import TelephonyAlerts.Proofs.Screen
import TelephonyAlerts.Proofs.OperatorLatch
import TelephonyAlerts.Proofs.Acceptance
import TelephonyAlerts.Proofs.Alerts
import TelephonyAlerts.Proofs.Coupling
import TelephonyAlerts.Proofs.Failures
import TelephonyAlerts.Proofs.Sampling
import TelephonyAlerts.Proofs.Tracing
import TelephonyAlerts.Proofs.Audience
import TelephonyAlerts.Proofs.BlockedHistory
import TelephonyAlerts.Proofs.Soundness
import TelephonyAlerts.Proofs.LatchEdges
import TelephonyAlerts.Proofs.Independence
import TelephonyAlerts.Proofs.IndicatorAlerts
import TelephonyAlerts.Proofs.Records
import TelephonyAlerts.Proofs.Refresh
import TelephonyAlerts.Proofs.SettingsForm
import TelephonyAlerts.Proofs.PlainTemplates
import TelephonyAlerts.Proofs.BlockedAlerts
import TelephonyAlerts.Proofs.Tenure
import TelephonyAlerts.Proofs.Refusal
import TelephonyAlerts.Proofs.DeliveryOrder
import TelephonyAlerts.Proofs.Selection
import TelephonyAlerts.Proofs.SettingsRoundTrip
import TelephonyAlerts.Proofs.Deferral
import TelephonyAlerts.Proofs.Addressing
import TelephonyAlerts.Proofs.Replacements
