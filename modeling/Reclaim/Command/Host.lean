import Reclaim.Filesystem

/-!
# What the command asks of its surroundings

A **host** is a filesystem with what a command needs besides: the working directory, the canonical
path of what a path leads to, the bytes of a file, and two channels for text. As with the
filesystem, nothing is known of it but these calls.
-/

namespace Reclaim

/-- **A host.** -/
structure Host (m : Type → Type) extends Filesystem m where
  /-- The path of the working directory. -/
  workingDirectory : m (Except String Path)
  /-- The canonical path of what a path leads to, if it leads anywhere. -/
  canonical : Path → m (Option Path)
  /-- The bytes of a file. -/
  contents : Path → m (Except String (List UInt8))
  /-- Puts a text on the channel of answers. -/
  say : String → m Unit
  /-- Puts a text on the channel of errors and log lines. -/
  complain : String → m Unit

/-- **What the command finds set when it starts.** -/
structure Surroundings where
  /-- The filter asked for, where one is. -/
  filter : Option String := none
  /-- Whether log lines are coloured. -/
  coloredLog : Bool := false
  /-- Whether answers could be coloured. -/
  colorOutput : Bool := false
  deriving DecidableEq, Repr

end Reclaim
