import Rollout.Main
import Rollout.Proofs.RollingUpdate
import Rollout.Proofs.Writes
import Rollout.Proofs.WriteSafety
import Rollout.Proofs.Reread
import Rollout.Proofs.LostUpdate
import Rollout.Proofs.Padding
import Rollout.Proofs.Twin
import Rollout.Proofs.Undisturbed
import Rollout.Proofs.Teardown
import Rollout.Proofs.Timeouts
import Rollout.Proofs.Deadline
import Rollout.Proofs.Provision
import Rollout.Proofs.Persistence
import Rollout.Proofs.Frame
import Rollout.Proofs.Codec
import Rollout.Proofs.Schedule
import Rollout.Proofs.Intervals
import Rollout.Proofs.Conflicts
import Rollout.Proofs.Membership
import Rollout.Proofs.Startup
import Rollout.Proofs.Resending
import Rollout.Proofs.Substitution
import Rollout.Proofs.Selection
import Rollout.Proofs.Relabelling
import Rollout.Proofs.Readiness
import Rollout.Proofs.Rearrangement
import Rollout.Proofs.Loading
import Rollout.Proofs.Namespaces
import Rollout.Proofs.Generations
import Rollout.Proofs.Jitter
import Rollout.Proofs.Parameters
