import Reclaim.Command.Host
import Reclaim.Disk.Calls

/-!
# A machine in memory

A **machine** is a disk, a working directory on it, and what was put on the two channels so far. It
is a host whose every call is a function of the machine, so a run of the command on it is one too.
-/

namespace Reclaim

/-- **A machine.** -/
structure Machine where
  disk : Disk
  cwd : Location
  answers : String := ""
  complaints : String := ""

namespace Machine

/-- A call on the disk of a machine, seen from its working directory. -/
def onDisk {α : Type} (call : Location → StateM Disk α) : StateM Machine α := fun s =>
  let (a, disk) := (call s.cwd).run s.disk
  (a, { s with disk })

/-- **A machine as a host.** -/
def host : Host (StateM Machine) where
  present p := onDisk fun cwd => (Disk.filesystem cwd).present p
  children p := onDisk fun cwd => (Disk.filesystem cwd).children p
  removeFile p := onDisk fun cwd => (Disk.filesystem cwd).removeFile p
  removeEmptyDirectory p := onDisk fun cwd => (Disk.filesystem cwd).removeEmptyDirectory p
  fileSize p := onDisk fun cwd => (Disk.filesystem cwd).fileSize p
  workingDirectory := fun s => ((s.disk.workingPath s.cwd).mapError Failure.message, s)
  canonical p := fun s => ((s.disk.canonicalize s.cwd p).toOption, s)
  contents p := fun s => ((s.disk.read s.cwd p).mapError Failure.message, s)
  say text := fun s => ((), { s with answers := s.answers ++ text })
  complain text := fun s => ((), { s with complaints := s.complaints ++ text })

end Machine

end Reclaim
