import Reclaim.Disk.Calls
import Reclaim.Proofs.Reclamation.InStep

/-!
# What stands on a disk

A look at a disk answers with what is there, and leaves the disk as it is. So an exchange that looks can be
read off the disk and struck from the log (`Disk.replay_present_iff`, `Disk.replay_children_iff`,
`Disk.replay_fileSize_iff`).

* **A visit** tries its artifact if that is there (`Disk.attempts_visit`), and **a sweep** tries the entries
  that it finds (`Disk.attempts_sweep`), each on the disk that it meets.
* **A plan** lists what stands of the footprint (`Disk.plan_run`).
-/

namespace Reclaim

namespace Disk

variable {d left : Disk} {cwd : Location} {suffixes : Suffixes} {f : Footprint} {directory path : Path}
  {kind : ArtifactKind} {v : Visit} {w : Sweep} {log : List Exchange}

/-! ## Looks -/

/-- **An exchange that looks** has the answer that the disk gives, and is made on the disk that the rest of the
log meets. -/
theorem replay_look_iff {α : Type} {e : Exchange} {answer there : α}
    (look : ∀ u, e.TakesPlace (Disk.filesystem cwd) d u ↔ (there, d) = (answer, u)) :
    Replay (Disk.filesystem cwd) d (e :: log) left ↔
      answer = there ∧ Replay (Disk.filesystem cwd) d log left := by
  rw [Replay.cons_iff]
  constructor
  · rintro ⟨u, made, rest⟩
    obtain ⟨rfl, rfl⟩ := Prod.mk.inj ((look u).mp made)
    exact ⟨rfl, rest⟩
  · rintro ⟨rfl, rest⟩
    exact ⟨d, (look d).mpr rfl, rest⟩

theorem replay_present_iff {answer : Bool} :
    Replay (Disk.filesystem cwd) d (.present path answer :: log) left ↔
      answer = d.exists? cwd path ∧ Replay (Disk.filesystem cwd) d log left :=
  replay_look_iff fun _ => Iff.rfl

theorem replay_children_iff {answer : Except String (List Path)} :
    Replay (Disk.filesystem cwd) d (.children path answer :: log) left ↔
      answer = (d.list cwd path).mapError Failure.message ∧ Replay (Disk.filesystem cwd) d log left :=
  replay_look_iff fun _ => Iff.rfl

theorem replay_fileSize_iff {answer : Option Nat} :
    Replay (Disk.filesystem cwd) d (.fileSize path answer :: log) left ↔
      answer = d.fileSize cwd path ∧ Replay (Disk.filesystem cwd) d log left :=
  replay_look_iff fun _ => Iff.rfl

/-! ## Visits and sweeps -/

/-- **A visit finds what is there.** -/
theorem isSome_visit (h : Replay (Disk.filesystem cwd) d (v.exchanges kind path) left) :
    v.isSome = d.exists? cwd path :=
  (replay_present_iff.mp h).1

/-- **A visit tries what it finds.** -/
theorem attempts_visit (h : Replay (Disk.filesystem cwd) d (v.exchanges kind path) left) :
    (v.attempts kind path).map Attempt.artifact = Survey.filePlanned kind path (d.exists? cwd path) := by
  rw [← isSome_visit h]
  cases v <;> rfl

/-- A sweep that lists its directory tries the entries that the disk has there at first. -/
theorem list_of_sweep {entries : List (Path × Trial)}
    (h : Replay (Disk.filesystem cwd) d ((Sweep.listed entries).exchanges directory) left) :
    d.list cwd directory = .ok (entries.map Prod.fst) := by
  obtain ⟨-, listed⟩ := replay_present_iff.mp h
  obtain ⟨answered, -⟩ := replay_children_iff.mp listed
  cases listing : d.list cwd directory with
  | error failure =>
    rw [listing] at answered
    cases answered
  | ok found =>
    rw [listing] at answered
    rw [Except.ok.inj answered]

/-- **The entries found** in a directory: none where it is not there or cannot be read. -/
def found (d : Disk) (cwd : Location) (directory : Path) : List Path :=
  if d.exists? cwd directory then Survey.entries ((d.list cwd directory).mapError Failure.message) else []

theorem found_of_absent (absent : d.exists? cwd directory = false) : d.found cwd directory = [] := by
  rw [found, absent]
  exact if_neg Bool.false_ne_true

theorem found_of_stands (stands : d.exists? cwd directory = true) :
    d.found cwd directory = Survey.entries ((d.list cwd directory).mapError Failure.message) := by
  rw [found, stands]
  exact if_pos rfl

/-- **A sweep tries the entries found.** -/
theorem attempts_sweep (h : Replay (Disk.filesystem cwd) d (w.exchanges directory) left) :
    w.attempts.map Attempt.artifact = (d.found cwd directory).map (.managementEntry, ·) := by
  cases w with
  | absent =>
    obtain ⟨absent, -⟩ := replay_present_iff.mp h
    rw [found_of_absent absent.symm]
    rfl
  | unreadable reason =>
    obtain ⟨stands, listed⟩ := replay_present_iff.mp h
    obtain ⟨answered, -⟩ := replay_children_iff.mp listed
    rw [found_of_stands stands.symm, ← answered]
    rfl
  | listed entries =>
    obtain ⟨stands, -⟩ := replay_present_iff.mp h
    rw [found_of_stands stands.symm, list_of_sweep h, Sweep.attempts, List.map_map]
    change _ = (entries.map Prod.fst).map _
    rw [List.map_map]
    rfl

/-! ## Plans -/

/-- **What stands of a footprint**, in the order of reclaiming. -/
def standing (d : Disk) (cwd : Location) (suffixes : Suffixes) (f : Footprint) : List Planned :=
  (d.found cwd (f.managementDirectory suffixes)).map (.managementEntry, ·) ++
    (Survey.filePlanned .managementDirectory (f.managementDirectory suffixes)
        (d.exists? cwd (f.managementDirectory suffixes)) ++
      (Survey.filePlanned .primary f.primary (d.exists? cwd f.primary) ++
        Survey.filePlanned .notification (f.notificationFile suffixes)
          (d.exists? cwd (f.notificationFile suffixes))))

/-- What a management directory adds to a plan is what stands of it. -/
theorem replay_managementExchanges {listing : Option (Except String (List Path))}
    (h : Replay (Disk.filesystem cwd) d (Survey.managementExchanges directory listing ++ log) left) :
    Survey.managementPlanned directory listing = (d.found cwd directory).map (.managementEntry, ·) ++
        Survey.filePlanned .managementDirectory directory (d.exists? cwd directory) ∧
      Replay (Disk.filesystem cwd) d log left := by
  cases listing with
  | none =>
    obtain ⟨absent, rest⟩ := replay_present_iff.mp h
    rw [found_of_absent absent.symm, ← absent]
    exact ⟨rfl, rest⟩
  | some answer =>
    obtain ⟨stands, listed⟩ := replay_present_iff.mp h
    obtain ⟨answered, rest⟩ := replay_children_iff.mp listed
    rw [found_of_stands stands.symm, ← stands, ← answered]
    exact ⟨rfl, rest⟩

/-- **A plan lists what stands**, and leaves the disk as it is. -/
theorem plan_run (d : Disk) (cwd : Location) (suffixes : Suffixes) (f : Footprint) :
    (plan (Disk.filesystem cwd) suffixes f).run d = (d.standing cwd suffixes f, d) := by
  obtain ⟨⟨listing, primary, note⟩, planned, hplay⟩ := plan_survey (Disk.filesystem cwd) suffixes f d
  obtain ⟨managed, files⟩ := replay_managementExchanges hplay
  obtain ⟨rfl, last⟩ := replay_present_iff.mp files
  obtain ⟨rfl, done⟩ := replay_present_iff.mp last
  refine Prod.ext (planned.trans ?_) (Replay.nil_iff.mp done)
  simp only [Survey.planned, standing, managed, List.append_assoc]

end Disk

end Reclaim
