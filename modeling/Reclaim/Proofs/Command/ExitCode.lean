import Reclaim.Proofs.Command.Turns
import Reclaim.Proofs.Reclamation.Cleared

/-!
# What the exit code says

The exit code of a run is 0 when every turn has deleted its database. A turn says so by the verdict of its
run, and that was given in the middle of it. **The law** (`exit_code_truthful`): the exit code speaks of the
disk all the same. Where it is 0, every argument has a footprint and nothing is at the primary path behind the
turn, nor at the end.

That nothing comes back is plain, since a disk only loses. The other direction is not: the primary path may
be lost behind the verdict, when a later deletion takes a link on the way to it. But the primary path of an
argument is canonical wherever calls find it so (`Disk.HasFootprint.path_of_directory`), and has no link on
the way. Only a directory that calls do not find so, since something on the way to it is out of reach, may be
lost behind its verdict (`directory_lost_behind_verdict`).
-/

namespace Reclaim

namespace Disk

variable {d : Disk} {cwd k : Location} {options : Options} {suffixes : Suffixes} {p : Path}
  {f : Footprint}

/-- **A directory at the primary path of an argument** is found there under its canonical path, if that is
found by calls: it would have been followed before. -/
theorem HasFootprint.path_of_directory (h : d.HasFootprint cwd options p f)
    (found : d.find cwd f.primary = .ok k) (canonical : ∃ q, d.canonicalize cwd f.primary = .ok q) :
    f.primary = k.path := by
  obtain ⟨given, -, primary, -⟩ := h
  have located := (find_eq_ok_iff.mp found).2
  obtain ⟨q, canonical⟩ := canonical
  cases led : d.canonicalize cwd (d.absolute cwd p) with
  | ok before =>
    rw [led] at primary
    obtain ⟨t, traced, rfl⟩ := canonicalize_eq_ok_iff.mp led
    replace primary : f.primary = t.path := primary
    obtain ⟨e, stands, -⟩ := isFirm_of_resolve (resolve_of_trace traced)
    rw [primary] at located ⊢
    rw [Except.ok.inj ((locate_path stands).symm.trans located)]
  | error failure =>
    rw [led] at primary
    replace primary : f.primary = d.absolute cwd p := primary
    rw [primary, led] at canonical
    cases canonical

/-- **What a turn says of its database**: where it is deleted, the argument has a footprint and nothing is
left at the primary path. -/
theorem exists_footprint_of_allDeleted (wet : options.dryRun = false)
    (deleted : (d.turn cwd options suffixes p).1.allDeleted = true) :
    ∃ f, d.footprint? cwd options p = .ok f ∧
      (d.turn cwd options suffixes p).2.exists? cwd f.primary = false := by
  cases made : d.footprint? cwd options p with
  | error report =>
    rw [turn_of_error made] at deleted
    cases deleted
  | ok f =>
    rw [turn_of_ok wet made] at deleted ⊢
    exact ⟨f, rfl, absent_of_primaryDeleted suffixes f deleted⟩

/-- **And the other way round**, if a directory at the primary path has a canonical path. -/
theorem allDeleted_turn (wet : options.dryRun = false) (made : d.footprint? cwd options p = .ok f)
    (canonical : ∀ k, d.find cwd f.primary = .ok k → d.lookup k = some .directory →
      ∃ q, d.canonicalize cwd f.primary = .ok q)
    (gone : (d.turn cwd options suffixes p).2.exists? cwd f.primary = false) :
    (d.turn cwd options suffixes p).1.allDeleted = true := by
  have real : ∀ k, d.find cwd f.primary = .ok k → d.lookup k = some .directory → f.primary = k.path :=
    fun k found directory => (hasFootprint_of_ok made).path_of_directory found (canonical k found directory)
  rw [turn_of_ok wet made] at gone ⊢
  exact primaryDeleted_of_absent suffixes real gone

/-- In a dry run it says that there is a footprint. -/
theorem allDeleted_turn_iff_of_dryRun (dry : options.dryRun = true) :
    (d.turn cwd options suffixes p).1.allDeleted = true ↔ ∃ f, d.footprint? cwd options p = .ok f := by
  cases made : d.footprint? cwd options p with
  | error report =>
    rw [turn_of_error made]
    exact iff_of_false Bool.false_ne_true nofun
  | ok f =>
    rw [turn_of_dryRun dry made]
    exact iff_of_true rfl ⟨f, rfl⟩

end Disk

/-- **The exit code tells the truth.** For a run whose options are accepted and whose rules are loaded, let
`met` be the machine that the arguments before one leave to it.

* Without `--dry-run`, where the run ends with 0, each argument has a footprint on the machine that it meets,
  and behind its turn nothing is at the primary path. Nothing is there at the end either: the path names
  nothing, unless it is one that no call takes.
* And where that holds of each argument, the run ends with 0, if each directory that is at a primary path when
  its turn comes has its canonical path found by calls.
* With `--dry-run` the run ends with 0 exactly when each argument has a footprint. -/
theorem exit_code_truthful (s : Machine) (around : Surroundings) {arguments : List (List UInt8)}
    {options : Options} {suffixes : Suffixes} (accepted : s.Accepts arguments options suffixes) :
    let paths := distinctBy Path.components options.paths
    let met := s.behind (logFilter around options.verbose) around.coloredLog options suffixes
    let run := (run Machine.host around arguments).run s
    run.2.disk = (met paths).disk ∧
    (options.dryRun = false →
      (run.1 = 0 → ∀ done p rest, paths = done ++ p :: rest →
        ∃ f, ((footprintOf Machine.host options p).run.run (met done)).1 = .ok f ∧
          (met (done ++ [p])).disk.exists? s.cwd f.primary = false ∧
          run.2.disk.exists? s.cwd f.primary = false ∧
          (Disk.requireCallable f.primary = .ok () → ∀ k, run.2.disk.locate s.cwd f.primary ≠ .ok k)) ∧
      ((∀ done p rest, paths = done ++ p :: rest →
        ∃ f, ((footprintOf Machine.host options p).run.run (met done)).1 = .ok f ∧
          (met (done ++ [p])).disk.exists? s.cwd f.primary = false ∧
          ∀ k, (met done).disk.find s.cwd f.primary = .ok k →
            (met done).disk.lookup k = some .directory →
              ∃ q, (met done).disk.canonicalize s.cwd f.primary = .ok q) → run.1 = 0)) ∧
    (options.dryRun = true →
      (run.1 = 0 ↔ ∀ done p rest, paths = done ++ p :: rest →
        ∃ f, ((footprintOf Machine.host options p).run.run (met done)).1 = .ok f)) := by
  intro paths met run
  have zero : run.1 = 0 ↔ (Disk.turns s.cwd options suffixes paths s.disk).1.allDeleted = true :=
    Machine.run_eq_zero_iff around accepted
  obtain ⟨-, left, -⟩ := Machine.run_turns around accepted
  replace left : run.2.disk = (Disk.turns s.cwd options suffixes paths s.disk).2 := left
  have disk : ∀ done, (met done).disk = (Disk.turns s.cwd options suffixes done s.disk).2 :=
    Machine.disk_behind s _ _ options suffixes
  have made : ∀ done p, ((footprintOf Machine.host options p).run.run (met done)).1 =
      ((Disk.turns s.cwd options suffixes done s.disk).2).footprint? s.cwd options p := by
    intro done p
    rw [Machine.footprintOf_run, disk, Machine.cwd_behind]
  have behind : ∀ done p, (met (done ++ [p])).disk =
      (((Disk.turns s.cwd options suffixes done s.disk).2).turn s.cwd options suffixes p).2 := by
    intro done p
    rw [disk, Disk.turns_append]
    rfl
  refine ⟨left.trans (disk paths).symm, fun wet => ⟨fun ended done p rest split => ?_, fun each => ?_⟩,
    fun dry => ?_⟩
  · have deleted := Disk.allDeleted_turns_iff.mp (zero.mp ended) done p rest split
    obtain ⟨f, found, gone⟩ := Disk.exists_footprint_of_allDeleted wet deleted
    have within : run.2.disk.Within (met (done ++ [p])).disk := by
      rw [left, behind, split]
      exact Disk.within_turns_behind s.cwd options suffixes done rest p s.disk
    rw [← behind] at gone
    have atEnd := within.absent gone
    exact ⟨f, (made done p).trans found, gone, atEnd, Disk.exists?_eq_false_iff_locate.mp atEnd⟩
  · refine zero.mpr (Disk.allDeleted_turns_iff.mpr fun done p rest split => ?_)
    obtain ⟨f, found, gone, canonical⟩ := each done p rest split
    rw [disk] at canonical
    exact Disk.allDeleted_turn wet ((made done p).symm.trans found) canonical (behind done p ▸ gone)
  · rw [zero, Disk.allDeleted_turns_iff]
    simp only [Disk.allDeleted_turn_iff_of_dryRun dry, made]

/-- The sample, from its root: the database at `/a` is deleted, and nothing is at its path. -/
theorem exit_code_truthful_sample :
    let s : Machine := ⟨.sample, [], "", ""⟩
    let options : Options := { paths := [.ofString "a"] }
    s.Accepts (words ["a"]) options .standard ∧
      ((run Machine.host {} (words ["a"])).run s).1 = 0 ∧
      ((run Machine.host {} (words ["a"])).run s).2.disk.exists? [] (.ofString "/a") = false := by
  intro s options
  have accepted : s.Accepts (words ["a"]) options .standard := ⟨rfl, by decide, rfl⟩
  obtain ⟨-, wet, -⟩ := exit_code_truthful s {} accepted
  obtain ⟨truthful, -⟩ := wet rfl
  have ended : ((run Machine.host {} (words ["a"])).run s).1 = 0 := by decide +kernel
  have made : ((footprintOf Machine.host options (.ofString "a")).run.run s).1 = .ok .atRoot := rfl
  obtain ⟨f, found, -, gone, -⟩ := truthful ended [] (.ofString "a") [] rfl
  obtain rfl := Except.ok.inj (made.symm.trans found)
  exact ⟨accepted, ended, gone⟩

/-- **A directory lost behind its verdict.** From the root, `b.note/b` is the directory `/b`: the way to it
goes out of reach and back, and so it has no canonical path. The run cannot delete the directory. Then it
deletes the link `/b.note`, and nothing is left at the primary path; but the verdict stays, and the run ends
with 1. -/
theorem directory_lost_behind_verdict :
    let s : Machine := ⟨.deepLinked, [], "", ""⟩
    let options : Options := { paths := [.ofString "b.note/b"] }
    let ended := (run Machine.host {} (words ["b.note/b"])).run s
    s.Accepts (words ["b.note/b"]) options .standard ∧
      ∃ f, ((footprintOf Machine.host options (.ofString "b.note/b")).run.run s).1 = .ok f ∧
        s.disk.find [] f.primary = .ok [Text.encode "b"] ∧
        s.disk.lookup [Text.encode "b"] = some .directory ∧
        ended.2.disk.exists? [] f.primary = false ∧ ended.1 = 1 := by
  refine ⟨⟨rfl, by decide, rfl⟩,
    ⟨.ofString "/b.note/b", .ofString "/b.note", "b", by decide, by decide, rfl, by decide⟩, ?_⟩
  decide +kernel

end Reclaim
