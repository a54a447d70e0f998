import LintRelay.Main
import LintRelay.Server.Settle
import LintRelay.Proofs.Reconciler.Clears
import LintRelay.Proofs.Reconciler.FinishOrder
import LintRelay.Proofs.Reconciler.Serial
import LintRelay.Proofs.Reconciler.FileRuns
import LintRelay.Proofs.Report.Rendering
import LintRelay.Proofs.Report.Keys
import LintRelay.Proofs.Session.Outcomes
import LintRelay.Proofs.Server.Debounce
import LintRelay.Proofs.Server.Precedence
import LintRelay.Proofs.Server.Shown
import LintRelay.Proofs.Session.Isolation
import LintRelay.Proofs.Admission.Spelling
import LintRelay.Proofs.Text.Utf8
import LintRelay.Proofs.Command.Print
import LintRelay.Proofs.Command.Lint
import LintRelay.Proofs.Session.Settings
import LintRelay.Proofs.Server.Rooted
import LintRelay.Proofs.Path.Destination
import LintRelay.Proofs.Discovery.Nearest
import LintRelay.Proofs.Session.OwnFile
import LintRelay.Proofs.Report.Accepting
import LintRelay.Proofs.Settings.RoundTrip
import LintRelay.Proofs.Diagnostic.RoundTrip
import LintRelay.Proofs.Session.Fixing
import LintRelay.Proofs.Session.View
import LintRelay.Proofs.Session.Updating
