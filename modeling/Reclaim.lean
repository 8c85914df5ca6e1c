import Reclaim.Distinct
import Reclaim.Report
import Reclaim.Probe
import Reclaim.Reclamation
import Reclaim.Filesystem.Recorded
import Reclaim.Store.Script
import Reclaim.Disk.Calls
import Reclaim.Command.Run
import Reclaim.Command.Machine
import Reclaim.Main
import Reclaim.Proofs.Replay
import Reclaim.Proofs.Reclamation.Course
import Reclaim.Proofs.Reclamation.Recount
import Reclaim.Proofs.Reclamation.Survey
import Reclaim.Proofs.Reclamation.InStep
import Reclaim.Proofs.Reclamation.Protocol
import Reclaim.Proofs.Reclamation.Simulation
import Reclaim.Proofs.Store.Answers
import Reclaim.Proofs.Store.Deletion
import Reclaim.Proofs.Store.Quiet
import Reclaim.Proofs.Store.Refusal
import Reclaim.Proofs.Store.Children
import Reclaim.Proofs.Store.Loss
import Reclaim.Proofs.Store.Settled
import Reclaim.Proofs.Store.Waning
import Reclaim.Proofs.Reclamation.Foresight
import Reclaim.Proofs.Reclamation.Survival
import Reclaim.Proofs.Reclamation.Verdict
import Reclaim.Proofs.Reclamation.Vanishing
import Reclaim.Proofs.Reclamation.Convergence
import Reclaim.Proofs.Reclamation.Difference
import Reclaim.Proofs.Reclamation.Conservation
import Reclaim.Proofs.Reclamation.Survivors
import Reclaim.Proofs.Suffixes
import Reclaim.Proofs.Path.Segments
import Reclaim.Proofs.Path.Location
import Reclaim.Proofs.Path.Normalized
import Reclaim.Proofs.Footprint
import Reclaim.Proofs.Footprint.Acceptance
import Reclaim.Proofs.Footprint.Sidecars
import Reclaim.Proofs.Reclamation.Siblings
import Reclaim.Proofs.Reclamation.Commuting
import Reclaim.Proofs.Reclamation.Asked
import Reclaim.Proofs.Disk.Steps
import Reclaim.Proofs.Disk.Walk
import Reclaim.Proofs.Disk.Trail
import Reclaim.Proofs.Disk.Answers
import Reclaim.Proofs.Disk.Lexical
import Reclaim.Proofs.Disk.Listed
import Reclaim.Proofs.Disk.Loss
import Reclaim.Proofs.Disk.Deleted
import Reclaim.Proofs.Disk.Linkless
import Reclaim.Proofs.Disk.Mirror
import Reclaim.Proofs.Disk.Cuts
import Reclaim.Proofs.Reclamation.Standing
import Reclaim.Proofs.Reclamation.Confinement
import Reclaim.Proofs.Reclamation.Cleared
import Reclaim.Proofs.Reclamation.Taken
import Reclaim.Proofs.Reclamation.Mirrored
import Reclaim.Proofs.Reclamation.Preview
import Reclaim.Proofs.Command.Arguments
import Reclaim.Proofs.Command.Recorded
import Reclaim.Proofs.Command.Absolute
import Reclaim.Proofs.Command.Effect
import Reclaim.Proofs.Command.Turns
import Reclaim.Proofs.Command.ExitCode
import Reclaim.Proofs.Command.Deletions
import Reclaim.Proofs.Command.Named
import Reclaim.Proofs.Command.Repeated
import Reclaim.Proofs.Command.Alone
import Reclaim.Proofs.Command.DryRun
import Reclaim.Proofs.Command.Fewer
import Reclaim.Proofs.Command.Validity
import Reclaim.Proofs.Distinct
import Reclaim.Proofs.Command.Errors
import Reclaim.Proofs.Command.Linked
import Reclaim.Proofs.Command.Textual
import Reclaim.Proofs.Distinct.Spellings
import Reclaim.Proofs.Report
import Reclaim.Proofs.Disk.Outcome
import Reclaim.Proofs.Probe
import Reclaim.Proofs.Disk.Traced
