import Reclaim.Proofs.Command.Recorded
import Reclaim.Proofs.Command.Turns

/-!
# A run with one argument

A run that is accepted and has one argument with a footprint does one thing: it lists what stands, or
reclaims. Before that it looks things up, and behind it come the closing lines. So its answers, and the
calls that it makes on the files, are those of that one thing (`Machine.run_alone`).

* **A dry run** answers with what stands of the footprint (`Machine.answers_of_dryRun`).
* **A run in earnest** makes the calls of a course, and answers with its outcome
  (`Machine.answers_of_earnest`).

Both are read off the disk. A recording machine and a recording disk are in step (`Machine.account`), and
what happens on the machine beside the disk is that something is complained of.
-/

namespace Reclaim

/-! ## What is reclaimed on a recording machine -/

namespace Machine

variable {s : Machine} {arguments : List (List UInt8)} {options : Options} {suffixes : Suffixes} {p : Path}
  {f : Footprint}

/-- **A recording machine and a recording disk in step**: seen from a working directory, a program has the
same answer on either, makes the same exchanges, and does the same to the disk. It may complain, and
answers nothing. -/
def account (cwd : Location) : InStep (StateT Record (StateM Machine)) (StateT Record (StateM Disk)) where
  Rel x y := ∀ r r' s, r.exchanges = r'.exchanges → s.cwd = cwd → ∃ a more more' t,
    (x.run r).run s = ((a, more), t) ∧ (y.run r').run s.disk = ((a, more'), t.disk) ∧
      more.exchanges = more'.exchanges ∧ t.cwd = cwd ∧ t.answers = s.answers
  rel_pure a r r' s same here := ⟨a, r, r', s, rfl, rfl, same, here, rfl⟩
  rel_bind hx hf r r' s same here := by
    obtain ⟨a, more, more', t, onMachine, onDisk, same, here, said⟩ := hx r r' s same here
    obtain ⟨b, last, last', u, onMachine', onDisk', same, here, said'⟩ := hf a more more' t same here
    exact ⟨b, last, last', u, (run_bind_of_recorded onMachine).trans onMachine',
      (run_bind_of_recorded onDisk).trans onDisk', same, here, said'.trans said⟩

theorem account_calls (cwd : Location) :
    (account cwd).Calls host.recorded.toFilesystem (Disk.filesystem cwd).recorded := by
  refine ⟨?_, ?_, ?_, ?_, ?_⟩ <;>
    (rintro path r r' s same rfl
     exact ⟨_, _, _, _, rfl, rfl, congrArg (· ++ [_]) same, rfl, rfl⟩)

theorem account_reports (cwd : Location) (filter : Log.Filter) (colored : Bool) :
    (account cwd).Reports (host.recorded.reporter filter colored) .recorded := by
  have logged : ∀ event (r r' : Record) (s : Machine), r.exchanges = r'.exchanges → s.cwd = cwd → ∃ a more t,
      ((host.recorded.log filter colored event).run r).run s = ((a, more), t) ∧
        more.exchanges = r'.exchanges ∧ t.disk = s.disk ∧ t.cwd = cwd ∧ t.answers = s.answers := by
    intro event r r' s same here
    unfold Host.log
    split
    · exact ⟨_, _, _, rfl, same, rfl, here, rfl⟩
    · exact ⟨_, _, _, rfl, same, rfl, here, rfl⟩
  constructor
  · intro kind path r r' s same here
    obtain ⟨a, more, t, run, same, disk, here, said⟩ := logged (removedEvent kind path) r r' s same here
    exact ⟨a, more, r', t, run, by rw [disk]; rfl, same, here, said⟩
  · intro text r r' s same here
    obtain ⟨a, more, t, run, same, disk, here, said⟩ := logged ⟨.warn, text, []⟩ r r' s same here
    exact ⟨a, more, r'.warned text, t, run, by rw [disk]; rfl, same, here, said⟩

/-- **Reclaiming on a recording machine** has a course, with the outcome that it has on the disk, and answers
nothing. -/
theorem reclaim_recorded (s : Machine) (filter : Log.Filter) (colored : Bool) (suffixes : Suffixes)
    (f : Footprint) : ∃ (c : Course) (r : Record) (t : Machine),
      ((reclaim host.recorded.toFilesystem (host.recorded.reporter filter colored) suffixes f).run
        {}).run s = ((c.outcome suffixes f, r), t) ∧ r.exchanges = c.exchanges suffixes f ∧
      ((reclaim (Disk.filesystem s.cwd) .silent suffixes f).run s.disk).1 = c.outcome suffixes f ∧
      Replay (Disk.filesystem s.cwd) s.disk (c.exchanges suffixes f) t.disk ∧ t.answers = s.answers := by
  obtain ⟨a, r, r', t, onMachine, onDisk, same, -, said⟩ := InStep.reclaim (account_calls s.cwd)
    (account_reports s.cwd filter colored) suffixes f {} {} s rfl rfl
  obtain ⟨_, _, left, run, hplay, c, rfl, rfl⟩ :=
    (@says_reclaim _ (Disk.filesystem s.cwd) suffixes f).run s.disk
  have erased := InStep.reclaim (erasure_calls (Disk.filesystem s.cwd)) erasure_reports suffixes f {} s.disk
  rw [run] at erased
  obtain ⟨ended, rfl⟩ := Prod.mk.inj (onDisk.symm.trans run)
  obtain ⟨rfl, rfl⟩ := Prod.mk.inj ended
  exact ⟨c, r, t, onMachine, same, congrArg Prod.fst erased.symm, hplay, said⟩

/-- **A plan on a recording machine** lists what stands on the disk, and answers nothing. -/
theorem plan_recorded (s : Machine) (suffixes : Suffixes) (f : Footprint) :
    ∃ (r : Record) (t : Machine), ((plan host.recorded.toFilesystem suffixes f).run {}).run s =
      ((s.disk.standing s.cwd suffixes f, r), t) ∧ t.answers = s.answers := by
  obtain ⟨planned, r, r', t, onMachine, onDisk, -, -, said⟩ :=
    InStep.plan (account_calls s.cwd) suffixes f {} {} s rfl rfl
  have erased := InStep.plan (erasure_calls (Disk.filesystem s.cwd)) suffixes f {} s.disk
  rw [onDisk, Disk.plan_run] at erased
  obtain rfl : planned = s.disk.standing s.cwd suffixes f := congrArg Prod.fst erased
  exact ⟨r, t, onMachine, said⟩

/-! ## A run with one argument -/

/-- What is done with a footprint. -/
def finish (host : Host (StateT Record (StateM Machine))) (around : Surroundings) (options : Options)
    (suffixes : Suffixes) (f : Footprint) : StateT Record (StateM Machine) Progress :=
  if options.dryRun then do
    showPlan host suffixes f
    return {}
  else reclaimOne host (host.reporter (logFilter around options.verbose) around.coloredLog) options suffixes f

/-- The footprint is looked up, and none of that is recorded. -/
theorem handleArguments_alone {around : Surroundings} {progress : Progress} {r : Record} {u : Machine}
    (made : s.disk.footprint? s.cwd options p = .ok f)
    (finished : ((finish host.recorded around options suffixes f).run {}).run s = ((progress, r), u)) :
    ((handleArguments host.recorded (host.recorded.reporter (logFilter around options.verbose)
      around.coloredLog) options suffixes [p]).run {}).run s = ((progress, r), u) := by
  have found := InStep.footprintOf (look_lookups host) options p {} s
  rw [footprintOf_run, made] at found
  have handled : ((handleArgument host.recorded (host.recorded.reporter (logFilter around options.verbose)
      around.coloredLog) options suffixes p).run {}).run s = ((progress, r), u) := by
    unfold handleArgument
    rw [run_bind_of_recorded found]
    exact finished
  refine (run_bind_of_recorded handled).trans ?_
  change (((⟨progress.allDeleted && true, progress.freed + 0⟩ : Progress), r), u) = _
  rw [Bool.and_true, Nat.add_zero]

/-- So are the rules; and the closing lines are answered last. -/
theorem reclaimAll_alone {around : Surroundings} {progress : Progress} {r : Record} {u : Machine}
    (accepted : s.Accepts arguments options suffixes)
    (alone : distinctBy Path.components options.paths = [p])
    (made : s.disk.footprint? s.cwd options p = .ok f)
    (finished : ((finish host.recorded around options suffixes f).run {}).run s = ((progress, r), u)) :
    ((reclaimAll host.recorded (host.recorded.reporter (logFilter around options.verbose)
      around.coloredLog) options).run {}).run s = ((.ok progress.allDeleted, r),
        { u with answers := u.answers ++ closingLines options 1 progress.freed }) := by
  have source := InStep.rulesSource (look_lookups host) options.config {} s
  have loaded := accepted.loaded
  rw [rulesSource_run] at source loaded
  unfold reclaimAll
  dsimp only
  rw [alone, if_neg (by simp), run_bind_of_recorded source]
  dsimp only
  rw [loaded]
  dsimp only
  rw [run_bind_of_recorded (handleArguments_alone made finished)]
  rfl

/-- **A recorded run with one argument**: before the footprint is met nothing is recorded, and nothing is
answered; and behind it the closing lines are. -/
theorem run_alone (around : Surroundings) (accepted : s.Accepts arguments options suffixes)
    (alone : distinctBy Path.components options.paths = [p])
    (made : s.disk.footprint? s.cwd options p = .ok f) :
    ∃ t : Machine, t.disk = s.disk ∧ t.cwd = s.cwd ∧ t.answers = s.answers ∧
      ∀ progress r u,
        ((finish host.recorded around options suffixes f).run {}).run t = ((progress, r), u) →
        ∃ code, ((run host.recorded around arguments).run {}).run s =
          ((code, r), { u with answers := u.answers ++ closingLines options 1 progress.freed }) := by
  obtain ⟨t, logged, disk, cwd, said⟩ := probed s around options
  refine ⟨t, disk, cwd, said, fun progress r u finished => ?_⟩
  have log := InStep.log (look_lookups host) (logFilter around options.verbose) around.coloredLog
    (probedEvent colorProbe (colorProbe.ask around.colorOutput).1) {} s
  rw [logged] at log
  have all := reclaimAll_alone ((accepts_congr disk cwd).mpr accepted) alone
    (by rw [disk, cwd]; exact made) finished
  refine ⟨if progress.allDeleted then 0 else 1, ?_⟩
  unfold Reclaim.run
  rw [accepted.read]
  dsimp only
  unfold runOptions
  dsimp only
  rw [run_bind_of_recorded log, run_bind_of_recorded all]
  rfl

/-- **A dry run with one argument** answers with what stands of the footprint. -/
theorem answers_of_dryRun (around : Surroundings) (accepted : s.Accepts arguments options suffixes)
    (alone : distinctBy Path.components options.paths = [p])
    (made : s.disk.footprint? s.cwd options p = .ok f) (dry : options.dryRun = true) :
    ((run host around arguments).run s).2.answers = s.answers ++
      (planLines f (s.disk.standing s.cwd suffixes f) ++ "Dry run mode: No files were deleted.\n") := by
  obtain ⟨t, disk, cwd, said, ends⟩ := run_alone around accepted alone made
  obtain ⟨r, u, planned, kept⟩ := plan_recorded t suffixes f
  rw [disk, cwd] at planned
  obtain ⟨code, run⟩ := ends {} r
      { u with answers := u.answers ++ planLines f (s.disk.standing s.cwd suffixes f) } (by
    unfold finish showPlan
    rw [if_pos dry, bind_assoc, run_bind_of_recorded planned]
    rfl)
  have erased := run_recorded host around arguments s
  rw [run] at erased
  rw [← erased, ← said, ← kept, ← String.append_assoc, closingLines, if_pos dry]

/-- **A run in earnest with one argument** makes the calls of a course, and answers with its outcome. -/
theorem answers_of_earnest (around : Surroundings) (accepted : s.Accepts arguments options suffixes)
    (alone : distinctBy Path.components options.paths = [p])
    (made : s.disk.footprint? s.cwd options p = .ok f) (wet : options.dryRun = false) :
    ∃ (c : Course) (left : Disk), Replay (Disk.filesystem s.cwd) s.disk (c.exchanges suffixes f) left ∧
      ((reclaim (Disk.filesystem s.cwd) .silent suffixes f).run s.disk).1 = c.outcome suffixes f ∧
      (((run host.recorded around arguments).run {}).run s).1.2.exchanges = c.exchanges suffixes f ∧
      ((run host around arguments).run s).2.answers =
        s.answers ++ outcomeLines f (c.outcome suffixes f) options.verbose := by
  obtain ⟨t, disk, cwd, said, ends⟩ := run_alone around accepted alone made
  obtain ⟨c, r, u, reclaimed, calls, outcome, hplay, kept⟩ := reclaim_recorded t
    (logFilter around options.verbose) around.coloredLog suffixes f
  rw [disk, cwd] at outcome hplay
  refine ⟨c, u.disk, hplay, outcome, ?_⟩
  obtain ⟨code, run⟩ := ends ⟨(c.outcome suffixes f).primaryDeleted, (c.outcome suffixes f).bytesFreed⟩ r
    { u with answers := u.answers ++ outcomeLines f (c.outcome suffixes f) options.verbose } (by
      unfold finish reclaimOne
      rw [wet, if_neg Bool.false_ne_true, run_bind_of_recorded reclaimed]
      rfl)
  have erased := run_recorded host around arguments s
  rw [run] at erased ⊢
  refine ⟨calls, ?_⟩
  rw [← erased, ← said, ← kept, closingLines, wet]
  exact String.append_empty

end Machine

end Reclaim
