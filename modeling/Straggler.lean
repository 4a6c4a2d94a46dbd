import Straggler.Main
import Straggler.Proofs.Audit
import Straggler.Proofs.AuditText
import Straggler.Proofs.Budget
import Straggler.Proofs.Builtin
import Straggler.Proofs.CatchAll
import Straggler.Proofs.Configuration
import Straggler.Proofs.ExitCode
import Straggler.Proofs.Fallback
import Straggler.Proofs.Independence
import Straggler.Proofs.Lossless
import Straggler.Proofs.NormalForm
import Straggler.Proofs.PlainText
import Straggler.Proofs.Precedence
import Straggler.Proofs.ProcessState
import Straggler.Proofs.Protection
import Straggler.Proofs.SignalName
import Straggler.Proofs.TrapHistory
import Straggler.Proofs.Verdict
import Straggler.Rehearsal.Scene
