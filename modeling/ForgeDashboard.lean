import ForgeDashboard.Number.Num
import ForgeDashboard.Number.Shortest
import ForgeDashboard.Number.Fixed
import ForgeDashboard.Text.Printable
import ForgeDashboard.Text.Uppercase
import ForgeDashboard.Text.Digit
import ForgeDashboard.Text.Blank
import ForgeDashboard.Text.Quoted
import ForgeDashboard.Text.Word
import ForgeDashboard.Value
import ForgeDashboard.Fault
import ForgeDashboard.Display.Plural
import ForgeDashboard.Display.Size
import ForgeDashboard.Display.Duration
import ForgeDashboard.Entity.Kind
import ForgeDashboard.Number.Numeral
import ForgeDashboard.Document.Printer
import ForgeDashboard.Document.Reader
import ForgeDashboard.Reading
import ForgeDashboard.Host.Report
import ForgeDashboard.Component.Resolve
import ForgeDashboard.Dashboard.Assemble
import ForgeDashboard.Dashboard.Build
import ForgeDashboard.Time.Written
import ForgeDashboard.Store.Operation
import ForgeDashboard.Store.Statistics
import ForgeDashboard.Settings.Basic
import ForgeDashboard.Database.Directory
import ForgeDashboard.Log.Level
import ForgeDashboard.Log.Record
import ForgeDashboard.Service.App
import ForgeDashboard.Command.Run
import ForgeDashboard.Main
import ForgeDashboard.Proofs.Rounding
import ForgeDashboard.Proofs.Overflow
import ForgeDashboard.Proofs.Ownership
import ForgeDashboard.Proofs.Sections
import ForgeDashboard.Proofs.Outcome
import ForgeDashboard.Proofs.Isolation
import ForgeDashboard.Proofs.Placeholder
import ForgeDashboard.Proofs.Refusal
import ForgeDashboard.Proofs.FirstRefusal
import ForgeDashboard.Proofs.HostRefusal
import ForgeDashboard.Proofs.Integration
import ForgeDashboard.Proofs.Deadline
import ForgeDashboard.Proofs.Flush
import ForgeDashboard.Proofs.LatestRow
import ForgeDashboard.Proofs.WorkUnit
import ForgeDashboard.Proofs.StoreSteps
import ForgeDashboard.Proofs.Clocks
import ForgeDashboard.Proofs.ComponentList
import ForgeDashboard.Proofs.StoreReads
import ForgeDashboard.Proofs.InsertionOrder
import ForgeDashboard.Proofs.Degradation
import ForgeDashboard.Proofs.Difference
import ForgeDashboard.Proofs.Accounting
import ForgeDashboard.Proofs.DurationReading
import ForgeDashboard.Proofs.StandardText
import ForgeDashboard.Proofs.ShortestDecimal
import ForgeDashboard.Proofs.DocumentReading
import ForgeDashboard.Proofs.Coherence
import ForgeDashboard.Proofs.StoreView
import ForgeDashboard.Proofs.VersionViews
import ForgeDashboard.Proofs.Entrances
import ForgeDashboard.Proofs.HostFields
import ForgeDashboard.Proofs.RowOrder
import ForgeDashboard.Proofs.Constraints
import ForgeDashboard.Proofs.Reasons
import ForgeDashboard.Proofs.ExactDoubles
import ForgeDashboard.Proofs.SizeReading
import ForgeDashboard.Proofs.SizeSteps
import ForgeDashboard.Proofs.SizeRounding
import ForgeDashboard.Proofs.SizeOrder
import ForgeDashboard.Proofs.DurationForm
import ForgeDashboard.Proofs.NumeralGrammar
import ForgeDashboard.Proofs.TimeoutSetting
import ForgeDashboard.Proofs.Precedence
import ForgeDashboard.Proofs.LogSetup
import ForgeDashboard.Proofs.SizeBases
import ForgeDashboard.Proofs.LogLines
import ForgeDashboard.Proofs.DoctorAgreement
import ForgeDashboard.Proofs.DatabaseDirectory
