import BlockProbe.Command.Shutdown
import BlockProbe.Main
import BlockProbe.Settings.Print
import BlockProbe.Proofs.Toml.Keyed
import BlockProbe.Proofs.Toml.Ordered
import BlockProbe.Proofs.Toml.Overlay
import BlockProbe.Proofs.Toml.Paths
import BlockProbe.Proofs.Toml.Algebra
import BlockProbe.Proofs.Results
import BlockProbe.Proofs.Settings.Decode
import BlockProbe.Proofs.Settings.Overrides
import BlockProbe.Proofs.Settings.Precedence
import BlockProbe.Proofs.Command.Effective
import BlockProbe.Proofs.Text.Utf8
import BlockProbe.Proofs.Probe.Target
import BlockProbe.Proofs.Probe.Verify
import BlockProbe.Proofs.Command.Outcome
import BlockProbe.Proofs.Toml.Number
import BlockProbe.Proofs.Toml.Text
import BlockProbe.Proofs.Settings.Print
import BlockProbe.Proofs.Settings.RoundTrip
import BlockProbe.Proofs.Files.Resolve
import BlockProbe.Proofs.Files.Access
import BlockProbe.Proofs.Probe.OnTree
import BlockProbe.Proofs.Settings.Interval
import BlockProbe.Proofs.Command.Masked
import BlockProbe.Proofs.Command.Touched
import BlockProbe.Probe.Operation
import BlockProbe.Proofs.Probe.LastWrite
import BlockProbe.Proofs.Command.Listener
import BlockProbe.Proofs.Command.Interrupted
import BlockProbe.Proofs.Command.Insertion
import BlockProbe.Proofs.Command.Reporting
import BlockProbe.Proofs.Command.Again
import BlockProbe.Proofs.Command.LogLevel
import BlockProbe.Proofs.Settings.Fits
import BlockProbe.Proofs.Command.Bounds
import BlockProbe.Proofs.Command.Valid
import BlockProbe.Proofs.Settings.Layering
import BlockProbe.Proofs.Settings.Rules
import BlockProbe.Proofs.Settings.Offences
import BlockProbe.Proofs.Settings.Complete
import BlockProbe.Proofs.Settings.Variables
import BlockProbe.Proofs.Settings.Stages
import BlockProbe.Proofs.Settings.FirstFailure
import BlockProbe.Proofs.Decimal.Natural
import BlockProbe.Proofs.Text.Blank
import BlockProbe.Proofs.Settings.Spellings
import BlockProbe.Proofs.Command.Routes
import BlockProbe.Proofs.Probe.Buffer
import BlockProbe.Proofs.Probe.Filling
import BlockProbe.Proofs.Probe.ReadBack
import BlockProbe.Proofs.Probe.Stages
import BlockProbe.Proofs.Probe.Verdict
import BlockProbe.Proofs.Probe.Replaced
import BlockProbe.Proofs.Settings.Unknown
import BlockProbe.Proofs.Text.Lossy
import BlockProbe.Proofs.Command.Shown
import BlockProbe.Proofs.Command.Emitted
import BlockProbe.Proofs.Command.Spelled
