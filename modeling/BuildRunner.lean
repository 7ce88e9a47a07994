import BuildRunner.Event.Encode
import BuildRunner.Main
import BuildRunner.Records
import BuildRunner.Task.History
import BuildRunner.Proofs.Coordinator.Diagnostics
import BuildRunner.Proofs.Coordinator.TextBlocks
import BuildRunner.Proofs.Coordinator.Waiting
import BuildRunner.Proofs.Coordinator.Actor
import BuildRunner.Proofs.Coordinator.Cancellation
import BuildRunner.Proofs.Text.Line
import BuildRunner.Proofs.Process.Reading
import BuildRunner.Proofs.Process.RunLoop
import BuildRunner.Proofs.Coordinator.Results
import BuildRunner.Proofs.Coordinator.Breakdowns
import BuildRunner.Proofs.Coordinator.Pursuit
import BuildRunner.Proofs.Coordinator.Preemption
import BuildRunner.Proofs.Diagnostic.RoundTrip
import BuildRunner.Proofs.Event.Variation
import BuildRunner.Proofs.Event.Malformed
import BuildRunner.Proofs.Coordinator.FailedLaunch
import BuildRunner.Proofs.Console.Report
import BuildRunner.Proofs.Coordinator.Probe
import BuildRunner.Proofs.Session.Typing
import BuildRunner.Proofs.Coordinator.Serial
import BuildRunner.Proofs.Session.Play
import BuildRunner.Proofs.Session.Leaving
import BuildRunner.Proofs.Coordinator.Errand
import BuildRunner.Proofs.Session.Status
import BuildRunner.Proofs.Session.Terminal
import BuildRunner.Proofs.Coordinator.Hosted
import BuildRunner.Proofs.Diagnostic.Splitting
import BuildRunner.Proofs.Text.Lined
import BuildRunner.Proofs.Text.Decoded
import BuildRunner.Proofs.Diagnostic.Listed
import BuildRunner.Proofs.Diagnostic.Rendering
import BuildRunner.Proofs.Diagnostic.Positions
import BuildRunner.Proofs.Session.TypedLine
import BuildRunner.Proofs.Diagnostic.Entries
import BuildRunner.Proofs.Diagnostic.Nesting
