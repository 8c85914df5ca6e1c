import Reclaim.Proofs.Disk.Deleted
import Reclaim.Proofs.Disk.Listed
import Reclaim.Proofs.Reclamation.Confinement

/-!
# What a run clears on a disk

Nothing happens on a disk beside the run. So what a visit looks for is there when it is tried, and is gone
when its removal counts as done.

* **A clean run leaves nothing** at the three paths of the footprint (`Disk.isReclaimed_of_isClean`).
* **Where nothing is left, a run does nothing**, and counts the database as deleted
  (`Disk.IsReclaimed.reclaim`). A plan finds nothing there (`Disk.IsReclaimed.plan`).
* So **clean means gone** (`Disk.clean_run_clears`), whatever links lead where: the artifacts may have one
  path, lie below one another, or be one node under several names.
* **The verdict** is right about a primary file that counts as deleted (`Disk.absent_of_primaryDeleted`). And
  none that is gone counts as left, as long as a directory at the primary path is found there under its
  canonical path (`Disk.primaryDeleted_of_absent`). Then it cannot get lost behind its own verdict: the last
  visit deletes no directory, and so none on the way to one.
-/

namespace Reclaim

namespace Disk

variable {d left : Disk} {cwd k : Location} {suffixes : Suffixes} {f : Footprint} {path : Path}
  {kind : ArtifactKind} {v : Visit} {w : Sweep} {size : Option Nat} {reason : String} {c : Course}

/-! ## One visit -/

/-- The removal of a visit is made on the disk that the visit meets. -/
theorem removal_of_visit {answer : Except String Unit}
    (h : Replay (Disk.filesystem cwd) d (Visit.exchanges kind path (some ⟨size, answer⟩)) left) :
    (Exchange.removal kind path answer).TakesPlace (Disk.filesystem cwd) d left := by
  rw [Visit.exchanges_some] at h
  obtain ⟨-, sized⟩ := replay_present_iff.mp h
  obtain ⟨-, tried⟩ := replay_fileSize_iff.mp sized
  obtain ⟨u, removed, done⟩ := Replay.cons_iff.mp tried
  obtain rfl := Replay.nil_iff.mp done
  exact removed

/-- **A visit without a warning leaves nothing.** -/
theorem absent_of_visit (silent : (v.attempts kind path).filterMap Attempt.warning? = [])
    (h : Replay (Disk.filesystem cwd) d (v.exchanges kind path) left) :
    left.exists? cwd path = false := by
  cases v with
  | none =>
    obtain ⟨absent, done⟩ := replay_present_iff.mp h
    rw [Replay.nil_iff.mp done]
    exact absent.symm
  | some trial =>
    obtain ⟨size, answer⟩ := trial
    cases answer with
    | ok => exact gone_of_removed (removal_of_visit h)
    | error reason => cases silent

/-- **A visit where nothing is** finds nothing and does nothing. -/
theorem idle_visit (absent : d.exists? cwd path = false)
    (h : Replay (Disk.filesystem cwd) d (v.exchanges kind path) left) : v = none ∧ left = d := by
  obtain ⟨looked, rest⟩ := replay_present_iff.mp h
  rw [absent] at looked
  obtain rfl : v = none := by simpa using looked
  exact ⟨rfl, Replay.nil_iff.mp rest⟩

theorem idle_sweep (absent : d.exists? cwd path = false)
    (h : Replay (Disk.filesystem cwd) d (w.exchanges path) left) : w = .absent ∧ left = d := by
  cases w with
  | absent => exact ⟨rfl, Replay.nil_iff.mp (replay_present_iff.mp h).2⟩
  | unreadable reason => cases absent.symm.trans (replay_present_iff.mp h).1.symm
  | listed entries => cases absent.symm.trans (replay_present_iff.mp h).1.symm

/-! ## The whole run -/

/-- **A footprint is reclaimed**: nothing is found at its three paths. -/
structure IsReclaimed (d : Disk) (cwd : Location) (suffixes : Suffixes) (f : Footprint) : Prop where
  management : d.exists? cwd (f.managementDirectory suffixes) = false
  primary : d.exists? cwd f.primary = false
  note : d.exists? cwd (f.notificationFile suffixes) = false

/-- It stays so on a smaller disk. -/
theorem IsReclaimed.within (reclaimed : d.IsReclaimed cwd suffixes f) (h : left.Within d) :
    left.IsReclaimed cwd suffixes f :=
  ⟨h.absent reclaimed.management, h.absent reclaimed.primary, h.absent reclaimed.note⟩

/-- **A clean run leaves nothing** of the footprint: what each visit has left absent stays so. -/
theorem isReclaimed_of_isClean {d : Disk} (cwd : Location) (suffixes : Suffixes) (f : Footprint) :
    let run := (reclaim (Disk.filesystem cwd) .silent suffixes f).run d
    run.1.isClean = true → run.2.IsReclaimed cwd suffixes f := by
  intro run clean
  obtain ⟨c, houtcome, hplay⟩ := reclaim_course (Disk.filesystem cwd) suffixes f d
  obtain ⟨swept, visited, verified, -, hdirectory, hprimary, hnote⟩ := Course.replay_iff.mp hplay
  have outcome : run.1 = c.outcome suffixes f := houtcome
  rw [outcome] at clean
  have attempts := (List.append_eq_nil_iff.mp (Course.isClean_iff.mp clean)).2
  simp only [Course.attempts, List.filterMap_append, List.append_eq_nil_iff] at attempts
  obtain ⟨-, silentDirectory, silentPrimary, silentNote⟩ := attempts
  have toEnd : run.2.Within verified := within_replay hnote
  have behindDirectory : run.2.Within visited := toEnd.trans (within_replay hprimary)
  exact ⟨behindDirectory.absent (absent_of_visit silentDirectory hdirectory),
    toEnd.absent (absent_of_visit silentPrimary hprimary), absent_of_visit silentNote hnote⟩

/-- **Where nothing is left, a run does nothing.** -/
theorem IsReclaimed.reclaim (reclaimed : d.IsReclaimed cwd suffixes f) :
    (reclaim (Disk.filesystem cwd) .silent suffixes f).run d = ({ primaryDeleted := true }, d) := by
  obtain ⟨c, houtcome, hplay⟩ := reclaim_course (Disk.filesystem cwd) suffixes f d
  obtain ⟨swept, visited, verified, hsweep, hdirectory, hprimary, hnote⟩ := Course.replay_iff.mp hplay
  obtain ⟨sweep, rfl⟩ := idle_sweep reclaimed.management hsweep
  obtain ⟨directory, rfl⟩ := idle_visit reclaimed.management hdirectory
  obtain ⟨file, rfl⟩ := idle_visit reclaimed.primary hprimary
  obtain ⟨last, same⟩ := idle_visit reclaimed.note hnote
  obtain ⟨w, v₁, v₂, v₃⟩ := c
  obtain rfl : w = .absent := sweep
  obtain rfl : v₁ = none := directory
  obtain rfl : v₂ = none := file
  obtain rfl : v₃ = none := last
  exact Prod.ext houtcome same

/-- **Where nothing is left, nothing is planned.** -/
theorem IsReclaimed.plan (reclaimed : d.IsReclaimed cwd suffixes f) :
    (plan (Disk.filesystem cwd) suffixes f).run d = ([], d) := by
  rw [plan_run, standing, found_of_absent reclaimed.management, reclaimed.management, reclaimed.primary,
    reclaimed.note]
  rfl

/-- **Clean means gone**, on any disk, for any footprint and any suffixes. Behind a clean run nothing is
found at the three paths, not even a link that leads nowhere: of these paths, each that a call takes names
nothing any more. The plan is empty. And a second run leaves the disk as it is, deletes nothing, warns of
nothing, and counts the database as deleted.

A path that is too long for a call is no exception to what is found, but to what it names: whatever stands
there was out of reach from the start. -/
theorem clean_run_clears (d : Disk) (cwd : Location) (suffixes : Suffixes) (f : Footprint) :
    let run := (reclaim (Disk.filesystem cwd) .silent suffixes f).run d
    run.1.isClean = true →
    (run.2.exists? cwd (f.managementDirectory suffixes) = false ∧
      run.2.exists? cwd f.primary = false ∧
      run.2.exists? cwd (f.notificationFile suffixes) = false) ∧
    (∀ q ∈ [f.managementDirectory suffixes, f.primary, f.notificationFile suffixes],
      requireCallable q = .ok () → ∀ k, run.2.locate cwd q ≠ .ok k) ∧
    (plan (Disk.filesystem cwd) suffixes f).run run.2 = ([], run.2) ∧
    (reclaim (Disk.filesystem cwd) .silent suffixes f).run run.2 =
      ({ primaryDeleted := true, warnings := [], removed := [], bytesFreed := 0 }, run.2) := by
  intro run clean
  have reclaimed : run.2.IsReclaimed cwd suffixes f := isReclaimed_of_isClean cwd suffixes f clean
  refine ⟨⟨reclaimed.management, reclaimed.primary, reclaimed.note⟩, ?_, reclaimed.plan,
    reclaimed.reclaim⟩
  simp only [List.forall_mem_cons, ← exists?_eq_false_iff_locate]
  exact ⟨reclaimed.management, reclaimed.primary, reclaimed.note, List.forall_mem_nil _⟩

/-- The database at `/b` with a root that leads out of the directory `/e` again. The link `/a` leads to
the database, and still stands when that is gone; so does a link to its management directory. -/
theorem clean_run_clears_sample :
    ∃ f : Footprint, f.primary = .ofString "/b" ∧ f.root = .ofString "/e/.." ∧
      let run := (reclaim (Disk.filesystem []) .silent .standard f).run Disk.linked
      run.1.isClean = true ∧
      run.2.exists? [] (.ofString "/a") = true ∧
      run.2.exists? [] (.ofString "/e/c.note") = true ∧
      run.2.exists? [] f.primary = false ∧
      (plan (Disk.filesystem []) .standard f).run run.2 = ([], run.2) ∧
      (reclaim (Disk.filesystem []) .silent .standard f).run run.2 =
        ({ primaryDeleted := true, warnings := [], removed := [], bytesFreed := 0 }, run.2) := by
  let f : Footprint :=
    ⟨.ofString "/b", .ofString "/e/..", "b", by decide, by decide, rfl, by decide⟩
  have clean : ((reclaim (Disk.filesystem []) .silent .standard f).run Disk.linked).1.isClean = true := by
    decide +kernel
  obtain ⟨⟨-, primary, -⟩, -, empty, idle⟩ := clean_run_clears Disk.linked [] .standard f clean
  exact ⟨f, rfl, rfl, clean, by decide +kernel, by decide +kernel, primary, empty, idle⟩

/-- **Where the verdict is that the primary file is gone**, nothing is found there behind the run. -/
theorem absent_of_primaryDeleted {d : Disk} (suffixes : Suffixes) (f : Footprint) :
    let run := (reclaim (Disk.filesystem cwd) .silent suffixes f).run d
    run.1.primaryDeleted = true → run.2.exists? cwd f.primary = false := by
  intro run deleted
  obtain ⟨c, houtcome, hplay⟩ := reclaim_course (Disk.filesystem cwd) suffixes f d
  obtain ⟨swept, visited, verified, -, -, hprimary, hnote⟩ := Course.replay_iff.mp hplay
  have outcome : run.1 = c.outcome suffixes f := houtcome
  have verdict : c.verdict = true := by
    rw [outcome] at deleted
    exact deleted
  rw [Course.verdict, ← Visit.isEmpty_warnings .primary f.primary, List.isEmpty_iff] at verdict
  have toEnd : run.2.Within verified := within_replay hnote
  exact toEnd.absent (absent_of_visit verdict hprimary)

/-- **Where nothing is found there, that is the verdict**, if a directory at the primary path is found there
under its canonical path: what was found and could not be deleted is a directory, and the last visit deletes
none. -/
theorem primaryDeleted_of_absent {d : Disk} (suffixes : Suffixes)
    (real : ∀ k, d.find cwd f.primary = .ok k → d.lookup k = some .directory → f.primary = k.path) :
    let run := (reclaim (Disk.filesystem cwd) .silent suffixes f).run d
    run.2.exists? cwd f.primary = false → run.1.primaryDeleted = true := by
  intro run absent
  obtain ⟨c, houtcome, hplay⟩ := reclaim_course (Disk.filesystem cwd) suffixes f d
  obtain ⟨swept, visited, verified, hsweep, hdirectory, hprimary, hnote⟩ := Course.replay_iff.mp hplay
  have outcome : run.1 = c.outcome suffixes f := houtcome
  have earlier : visited.Within d := (within_replay hdirectory).trans (within_replay hsweep)
  have verdict : run.1.primaryDeleted = c.verdict := by rw [outcome]; rfl
  rw [verdict, Course.verdict, ← Visit.isEmpty_warnings .primary f.primary, List.isEmpty_iff]
  cases hv : c.primary with
  | none => rfl
  | some trial =>
    obtain ⟨size, answer⟩ := trial
    cases answer with
    | ok => rfl
    | error reason =>
      rw [hv] at hprimary
      obtain ⟨k, found⟩ := exists?_eq_true_iff.mp (isSome_visit hprimary).symm
      obtain ⟨rfl, failure, failed, -⟩ := kept_of_failed (removal_of_visit hprimary)
      obtain ⟨l, named, spelled⟩ := Path.exists_location f.absolute f.canonical
      have directory : verified.lookup k = some .directory := by
        rw [spelled] at found failed
        exact directory_of_unlink_error named found failed
      have still : run.2.lookup k = some .directory := by
        rcases loses_replay hnote k with same | ⟨-, call, removes, -, kind⟩
        · exact same.trans directory
        · rw [Visit.filterMap_exchanges Exchange.reads_removal?] at removes
          obtain ⟨a, tried, same⟩ := List.mem_filterMap.mp removes
          obtain ⟨t, -, rfl⟩ := List.mem_map.mp tried
          obtain rfl := Option.some.inj same
          cases kind.mpr directory
      have before := earlier.find found
      rw [real k before (earlier k _ directory)] at absent before
      exact absurd (find_path (isInReach_of_find before) still) (exists?_eq_false_iff.mp absent k)

end Disk

end Reclaim
