import Vigil.Main
import Vigil.Proofs.Faults
import Vigil.Proofs.Value.Faults
import Vigil.Proofs.Check.Additive
import Vigil.Proofs.Check.Crashes
import Vigil.Proofs.Check.Stopping
import Vigil.Proofs.Check.Replicas
import Vigil.Proofs.Check.Shared
import Vigil.Proofs.Check.Parts
import Vigil.Proofs.Check.Adding
import Vigil.Proofs.Check.Health
import Vigil.Proofs.Check.Tallies
import Vigil.Proofs.Check.Shares
import Vigil.Proofs.Check.Aspects
import Vigil.Proofs.Check.Age
import Vigil.Proofs.Check.Expiry
import Vigil.Proofs.Number.Rounding
import Vigil.Proofs.Number.Units
import Vigil.Proofs.Number.Digits
import Vigil.Proofs.Number.Numeral
import Vigil.Proofs.Number.Near
import Vigil.Proofs.Number.General
import Vigil.Proofs.Time.Year
import Vigil.Proofs.Time.Grammar
import Vigil.Proofs.Time.Quantity
import Vigil.Proofs.Time.Short
import Vigil.Proofs.Time.Sums
import Vigil.Proofs.Time.Loss
import Vigil.Proofs.Time.Human
import Vigil.Proofs.Time.Calendar
import Vigil.Proofs.Time.Fields
import Vigil.Proofs.Time.Iso
import Vigil.Proofs.Value.Instants
import Vigil.Proofs.Snapshot.Loading
import Vigil.Proofs.Yaml.Reading
import Vigil.Proofs.Value.Writing
import Vigil.Proofs.Value.Converting
import Vigil.Proofs.Threshold.Scale
import Vigil.Proofs.Threshold.Severity
import Vigil.Proofs.Threshold.Mirror
import Vigil.Proofs.Config.Declared
import Vigil.Proofs.Config.RoundTrip
import Vigil.Proofs.Json.Remainder
import Vigil.Proofs.Json.Nesting
import Vigil.Proofs.Credential.Loading
import Vigil.Proofs.Credential.Token
import Vigil.Proofs.Credential.Framed
import Vigil.Proofs.Telemetry.Documents
import Vigil.Proofs.Telemetry.Collecting
import Vigil.Proofs.Telemetry.Agreement
import Vigil.Proofs.Text.Trim
import Vigil.Proofs.Text.Base64
import Vigil.Proofs.Text.Scripts
import Vigil.Proofs.Text.Inline
import Vigil.Proofs.Text.Utf8
import Vigil.Proofs.Text.Split
import Vigil.Proofs.Report.Line
import Vigil.Proofs.Report.Judged
import Vigil.Proofs.Report.Perf
import Vigil.Proofs.Report.Forms
import Vigil.Proofs.Report.History
import Vigil.Proofs.Check.Waiting
import Vigil.Proofs.Check.Showing
import Vigil.Proofs.Check.Quoting
import Vigil.Proofs.Command.Lines
import Vigil.Proofs.Command.Sources
import Vigil.Proofs.Command.Printing
import Vigil.Proofs.Command.Ending
