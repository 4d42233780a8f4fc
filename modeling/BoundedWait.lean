import BoundedWait.Act
import BoundedWait.Config.Access
import BoundedWait.Config.Configuration
import BoundedWait.Config.EnvFile
import BoundedWait.Config.FileFormat
import BoundedWait.Config.Files
import BoundedWait.Config.Keyed
import BoundedWait.Config.Location
import BoundedWait.Config.Lookup
import BoundedWait.Config.Path
import BoundedWait.Config.Storage
import BoundedWait.Config.Variables
import BoundedWait.Decimal.Figures
import BoundedWait.Decimal.Places
import BoundedWait.Decimal.Reading
import BoundedWait.Decimal.Shortest
import BoundedWait.Fault.Class
import BoundedWait.Fault.Misuse
import BoundedWait.Fault.Report
import BoundedWait.Invocation
import BoundedWait.Logging.Layout
import BoundedWait.Logging.Level
import BoundedWait.Logging.Loggers
import BoundedWait.Logging.Setup
import BoundedWait.Logging.Template
import BoundedWait.Number.Basic
import BoundedWait.Number.Binary64
import BoundedWait.Number.Power
import BoundedWait.Number.Scale
import BoundedWait.Outcome
import BoundedWait.Policy.Backoff
import BoundedWait.Policy.Basic
import BoundedWait.Policy.Growth
import BoundedWait.Predicate
import BoundedWait.Settings.Basic
import BoundedWait.Settings.Check
import BoundedWait.Simulation.Build
import BoundedWait.Simulation.Naming
import BoundedWait.Simulation.Play
import BoundedWait.Simulation.Recipe
import BoundedWait.Simulation.Session
import BoundedWait.Simulation.World
import BoundedWait.Source.Attempt
import BoundedWait.Source.Basic
import BoundedWait.Text.Base64
import BoundedWait.Text.Blank
import BoundedWait.Text.Case
import BoundedWait.Text.DecimalDigit
import BoundedWait.Text.Hexadecimal
import BoundedWait.Text.Identifier
import BoundedWait.Text.Printable
import BoundedWait.Text.Quoted
import BoundedWait.Text.Ranges
import BoundedWait.Value.Basic
import BoundedWait.Value.Call
import BoundedWait.Value.Equality
import BoundedWait.Value.Hash
import BoundedWait.Value.Member
import BoundedWait.Value.Membership
import BoundedWait.Value.Moment
import BoundedWait.Value.Operation
import BoundedWait.Value.Order
import BoundedWait.Value.Printer
import BoundedWait.Wait.Engine
import BoundedWait.Wait.Ensure
import BoundedWait.Wait.Eventually
import BoundedWait.Wait.Interleaving
import BoundedWait.Wait.Routine
import BoundedWait.Yaml.Acceptance
import BoundedWait.Yaml.Cursor
import BoundedWait.Yaml.Directive
import BoundedWait.Yaml.Document
import BoundedWait.Yaml.Error
import BoundedWait.Yaml.Graph
import BoundedWait.Yaml.Kind
import BoundedWait.Yaml.Meaning
import BoundedWait.Yaml.Merge
import BoundedWait.Yaml.Numeral
import BoundedWait.Yaml.Pen
import BoundedWait.Yaml.Plain
import BoundedWait.Yaml.Printer
import BoundedWait.Yaml.Scalar
import BoundedWait.Yaml.Style
import BoundedWait.Yaml.Tag
import BoundedWait.Yaml.Token
import BoundedWait.Proofs.Congruence
import BoundedWait.Proofs.Journal
import BoundedWait.Proofs.Source.Parallel
import BoundedWait.Proofs.Wait.Step
import BoundedWait.Proofs.Wait.Run
import BoundedWait.Proofs.Wait.Record
import BoundedWait.Proofs.Wait.Ensure
import BoundedWait.Proofs.Wait.Schedule
import BoundedWait.Proofs.Wait.Verdict
import BoundedWait.Proofs.Source.Contacts
import BoundedWait.Proofs.Source.Stack
import BoundedWait.Proofs.Time.Exact
import BoundedWait.Proofs.Wait.Pacing
import BoundedWait.Proofs.Wait.Termination
import BoundedWait.Proofs.Wait.Punctuality
import BoundedWait.Proofs.Source.Sight
import BoundedWait.Proofs.Wait.Watching
import BoundedWait.Proofs.Wait.Assertion
import BoundedWait.Proofs.Wait.Rejection
import BoundedWait.Proofs.Wait.Appearance
import BoundedWait.Proofs.Value.Obstacles
import BoundedWait.Proofs.Source.Contract
import BoundedWait.Proofs.Source.Guard
import BoundedWait.Proofs.Source.Classification
import BoundedWait.Proofs.Source.DeclaredType
import BoundedWait.Proofs.Wait.Resilience
import BoundedWait.Proofs.Wait.Interrupt
import BoundedWait.Proofs.Wait.Suspension
import BoundedWait.Proofs.Time.Geometric
import BoundedWait.Proofs.Number.Order
import BoundedWait.Proofs.Number.Double
import BoundedWait.Proofs.Number.Rounding
import BoundedWait.Proofs.Number.Numeral
import BoundedWait.Proofs.Number.Operations
import BoundedWait.Proofs.Number.Arithmetic
import BoundedWait.Proofs.Policy.Checks
import BoundedWait.Proofs.Policy.Exponent
import BoundedWait.Proofs.Policy.Delay
import BoundedWait.Proofs.Policy.Bounds
import BoundedWait.Proofs.Predicate.ShortCircuit
import BoundedWait.Proofs.Source.Mapping
import BoundedWait.Proofs.Config.EnvFiles
import BoundedWait.Proofs.Config.Snapshot
import BoundedWait.Proofs.Alignment
import BoundedWait.Proofs.Predicate.Conjunction
import BoundedWait.Proofs.Wait.Alignment
import BoundedWait.Proofs.Wait.Conjunction
import BoundedWait.Proofs.Config.Reload
import BoundedWait.Proofs.Config.Answers
import BoundedWait.Proofs.Config.History
import BoundedWait.Proofs.Logging.Memory
import BoundedWait.Proofs.Settings.Validity
import BoundedWait.Proofs.Settings.Agreement
import BoundedWait.Proofs.Config.Directories
import BoundedWait.Proofs.Yaml.Output
import BoundedWait.Proofs.Config.Saving
import BoundedWait.Proofs.Config.RoundTrip
import BoundedWait.Proofs.Value.Hashing
import BoundedWait.Proofs.Settings.Violations
import BoundedWait.Proofs.Config.Removal
import BoundedWait.Proofs.Config.WaitSettings
import BoundedWait.Proofs.Config.Blanks
