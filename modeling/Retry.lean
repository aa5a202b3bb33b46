import Retry.Selection
import Retry.Run
import Retry.Session
import Retry.Settings.Attempts
import Retry.Settings.DefaultMode
import Retry.Proofs.Decision
import Retry.Proofs.Run
import Retry.Proofs.Session.Fork
import Retry.Proofs.Failure.Flag
import Retry.Proofs.OptOut
import Retry.Proofs.Builder.Growth
import Retry.Proofs.Run.Comparison
import Retry.Proofs.Run.Course
import Retry.Proofs.Session.History
import Retry.Proofs.Builder.Delay
import Retry.Proofs.Resemblance
import Retry.Proofs.Settings
import Retry.Proofs.Settings.Budget
import Retry.Proofs.Session.Mode
import Retry.Proofs.Totality
import Retry.Proofs.Builder.Registered
import Retry.Proofs.Session.Lasting
import Retry.Proofs.Session.Direct
import Retry.Proofs.Consultation
import Retry.Proofs.Backoff.Shape
import Retry.Proofs.Session.Offers
import Retry.Proofs.Session.Replay
import Retry.Proofs.Settings.Spelling
import Retry.Proofs.Throttling
import Retry.Proofs.Session.Classified
import Retry.Proofs.Session.Bounds
