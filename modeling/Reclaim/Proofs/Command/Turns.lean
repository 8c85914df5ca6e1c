import Reclaim.Proofs.Command.Effect
import Reclaim.Proofs.Reclamation.Confinement

/-!
# The turns of a run

A run of the command takes its arguments in turn. What a turn does to the disk, and what it adds to the
exit code, depend on the disk that it meets and on the working directory. They do not depend on what has been
said before. So a turn is a function of these two (`Disk.turn`), and a run is the turns in a row
(`Disk.turns`).

* **A run of the command** ends as its turns do (`Machine.run_turns`), where the options are accepted, the
  rules can be loaded, and a root or a name is given for one database alone. Where one of these fails there
  is no turn (`Machine.run_refused`).
* **What a turn costs the disk** is what the footprint of its argument confines there (`Disk.loses_turn`),
  and what a run costs is what its turns do (`Machine.loses_run`).
-/

namespace Reclaim

/-! ## Turns -/

namespace Disk

/-- **A turn**: what an argument adds to the progress of a run, and the disk that it leaves. -/
def turn (d : Disk) (cwd : Location) (options : Options) (suffixes : Suffixes) (p : Path) :
    Progress × Disk :=
  match d.footprint? cwd options p with
  | .error _ => (⟨false, 0⟩, d)
  | .ok f =>
    if options.dryRun then ({}, d)
    else
      let (o, left) := (reclaim (Disk.filesystem cwd) .silent suffixes f).run d
      (⟨o.primaryDeleted, o.bytesFreed⟩, left)

/-- **The turns of a run**, in a row. -/
def turns (cwd : Location) (options : Options) (suffixes : Suffixes) : List Path → Disk → Progress × Disk
  | [], d => ({}, d)
  | p :: rest, d =>
    let first := d.turn cwd options suffixes p
    let others := turns cwd options suffixes rest first.2
    (⟨first.1.allDeleted && others.1.allDeleted, first.1.freed + others.1.freed⟩, others.2)

variable {d left : Disk} {cwd : Location} {options : Options} {suffixes : Suffixes} {p : Path}
  {f : Footprint} {paths more : List Path}

/-- **Turns go on** from the disk that those before them left. -/
theorem turns_append (paths more : List Path) (d : Disk) :
    turns cwd options suffixes (paths ++ more) d =
      let first := turns cwd options suffixes paths d
      let others := turns cwd options suffixes more first.2
      (⟨first.1.allDeleted && others.1.allDeleted, first.1.freed + others.1.freed⟩, others.2) := by
  induction paths generalizing d with
  | nil => simp [turns]
  | cons p rest ih =>
    rw [List.cons_append, turns, ih]
    simp only [turns, Bool.and_assoc, Nat.add_assoc]

/-- **Every database is gone** when each is, in the turn of its argument. -/
theorem allDeleted_turns_iff {d : Disk} :
    (turns cwd options suffixes paths d).1.allDeleted = true ↔ ∀ done p rest, paths = done ++ p :: rest →
      (((turns cwd options suffixes done d).2).turn cwd options suffixes p).1.allDeleted = true := by
  induction paths generalizing d with
  | nil => exact iff_of_true rfl fun done p rest h => by simp at h
  | cons q rest ih =>
    rw [turns, Bool.and_eq_true, ih]
    constructor
    · rintro ⟨first, others⟩ done p rest' h
      cases done with
      | nil =>
        obtain ⟨rfl, rfl⟩ := List.cons.inj h
        exact first
      | cons q' done =>
        obtain ⟨rfl, rfl⟩ := List.cons.inj h
        exact others done p rest' rfl
    · intro h
      refine ⟨h [] q rest rfl, fun done p rest' same => ?_⟩
      exact h (q :: done) p rest' (by rw [same]; rfl)

/-- **A turn without a footprint** does nothing. -/
theorem turn_of_error {report : Report} (made : d.footprint? cwd options p = .error report) :
    d.turn cwd options suffixes p = (⟨false, 0⟩, d) := by
  rw [turn, made]

theorem turn_of_dryRun (dry : options.dryRun = true) (made : d.footprint? cwd options p = .ok f) :
    d.turn cwd options suffixes p = ({}, d) := by
  rw [turn, made]
  exact if_pos dry

/-- **A turn with a footprint** reclaims it. -/
theorem turn_of_ok (wet : options.dryRun = false) (made : d.footprint? cwd options p = .ok f) :
    d.turn cwd options suffixes p =
      let run := (reclaim (Disk.filesystem cwd) .silent suffixes f).run d
      (⟨run.1.primaryDeleted, run.1.bytesFreed⟩, run.2) := by
  rw [turn, made, wet]
  rfl

/-! ### What a turn costs -/

/-- **What is at stake** with an argument: what its footprint confines a run to. -/
def AtStake (d : Disk) (cwd : Location) (options : Options) (suffixes : Suffixes) (p : Path)
    (k : Location) : Prop :=
  options.dryRun = false ∧ d.lookup (p.start cwd) = some .directory ∧
    ∃ f, d.HasFootprint cwd options p f ∧ d.Confines cwd suffixes f k

/-- **A turn costs at most what is at stake in it.** -/
theorem loses_turn (d : Disk) (cwd : Location) (options : Options) (suffixes : Suffixes) (p : Path) :
    d.Loses (d.turn cwd options suffixes p).2 (d.AtStake cwd options suffixes p) := by
  cases made : d.footprint? cwd options p with
  | error report =>
    rw [turn_of_error made]
    exact .nothing d
  | ok f =>
    cases dry : options.dryRun with
    | true =>
      rw [turn_of_dryRun dry made]
      exact .nothing d
    | false =>
      rw [turn_of_ok dry made]
      obtain ⟨c, -, hplay⟩ := reclaim_course (Disk.filesystem cwd) suffixes f d
      exact (loses_course hplay).mono fun k confined =>
        ⟨dry, start_of_footprint made, f, hasFootprint_of_ok made, confined⟩

/-- **So do turns**, by induction: each on the disk that those before it have left. -/
theorem loses_turns (cwd : Location) (options : Options) (suffixes : Suffixes) (paths : List Path)
    (d : Disk) : d.Loses (turns cwd options suffixes paths d).2 fun k =>
      ∃ done p rest, paths = done ++ p :: rest ∧
        ((turns cwd options suffixes done d).2).AtStake cwd options suffixes p k := by
  induction paths generalizing d with
  | nil => exact .nothing d
  | cons p rest ih =>
    refine ((loses_turn d cwd options suffixes p).mono ?_).trans ((ih _).mono ?_)
    · intro k stake
      exact ⟨[], p, rest, rfl, stake⟩
    · rintro k ⟨done, q, rest', rfl, stake⟩
      exact ⟨p :: done, q, rest', rfl, stake⟩

/-- **What turns leave** is within what each of them leaves. -/
theorem within_turns_behind (cwd : Location) (options : Options) (suffixes : Suffixes)
    (done rest : List Path) (p : Path) (d : Disk) :
    (turns cwd options suffixes (done ++ p :: rest) d).2.Within
      (((turns cwd options suffixes done d).2).turn cwd options suffixes p).2 := by
  rw [turns_append]
  exact (loses_turns cwd options suffixes rest _).within

end Disk

namespace Machine

variable {s : Machine} {options : Options} {suffixes : Suffixes}

/-- **One argument** does to a machine what its turn does to the disk. -/
theorem handleArgument_run (s : Machine) (filter : Log.Filter) (colored : Bool) (options : Options)
    (suffixes : Suffixes) (p : Path) :
    let run := (handleArgument host (host.reporter filter colored) options suffixes p).run s
    (run.1, run.2.disk) = s.disk.turn s.cwd options suffixes p ∧ run.2.cwd = s.cwd := by
  have looked := footprintOf_run s options p
  unfold handleArgument
  rw [run_bind_of_run looked]
  cases made : s.disk.footprint? s.cwd options p with
  | error report =>
    rw [Disk.turn_of_error made]
    exact ⟨rfl, rfl⟩
  | ok f =>
    cases dry : options.dryRun with
    | true =>
      rw [Disk.turn_of_dryRun dry made]
      obtain ⟨-, disk, cwd⟩ := InStep.plan (sight_calls s.cwd) suffixes f s rfl
      rw [Disk.plan_run] at disk
      exact ⟨Prod.ext rfl disk, cwd⟩
    | false =>
      rw [Disk.turn_of_ok dry made]
      obtain ⟨outcome, disk, cwd⟩ := InStep.reclaim (sight_calls s.cwd)
        (sight_reports s.cwd filter colored) suffixes f s rfl
      exact ⟨Prod.ext (congrArg (fun o => (⟨o.primaryDeleted, o.bytesFreed⟩ : Progress)) outcome) disk,
        cwd⟩

/-- **All arguments, in order**, by induction. -/
theorem handleArguments_run (s : Machine) (filter : Log.Filter) (colored : Bool) (options : Options)
    (suffixes : Suffixes) (paths : List Path) :
    let run := (handleArguments host (host.reporter filter colored) options suffixes paths).run s
    (run.1, run.2.disk) = Disk.turns s.cwd options suffixes paths s.disk ∧ run.2.cwd = s.cwd := by
  induction paths generalizing s with
  | nil => exact ⟨rfl, rfl⟩
  | cons p rest ih =>
    obtain ⟨first, here⟩ := handleArgument_run s filter colored options suffixes p
    obtain ⟨t, made, run⟩ : ∃ t made, (handleArgument host (host.reporter filter colored) options
      suffixes p).run s = (made, t) := ⟨_, _, rfl⟩
    rw [run] at first here
    obtain ⟨others, there⟩ := ih t
    replace here : t.cwd = s.cwd := here
    rw [here] at others
    unfold handleArguments
    rw [run_bind_of_run run]
    refine ⟨?_, there.trans here⟩
    rw [Disk.turns, ← first]
    dsimp only
    rw [← others]
    rfl

/-- The disk behind arguments is the one that their turns leave. -/
theorem disk_behind (s : Machine) (filter : Log.Filter) (colored : Bool) (options : Options)
    (suffixes : Suffixes) (paths : List Path) :
    (s.behind filter colored options suffixes paths).disk =
      (Disk.turns s.cwd options suffixes paths s.disk).2 :=
  congrArg Prod.snd (handleArguments_run s filter colored options suffixes paths).1

theorem cwd_behind (s : Machine) (filter : Log.Filter) (colored : Bool) (options : Options)
    (suffixes : Suffixes) (paths : List Path) :
    (s.behind filter colored options suffixes paths).cwd = s.cwd :=
  (handleArguments_run s filter colored options suffixes paths).2

/-! ## The whole run -/

/-- **A run is accepted**: its options are read, a root or a name is given for one database alone, and the
suffixes can be loaded. -/
structure Accepts (s : Machine) (arguments : List (List UInt8)) (options : Options) (suffixes : Suffixes) :
    Prop where
  read : Options.read arguments = .ok options
  single : 1 < (distinctBy Path.components options.paths).length →
    options.root = none ∧ options.name = none
  loaded : Suffixes.load ((rulesSource host options.config).run s).1 = .ok suffixes

/-- What a rules file holds depends on the disk and the working directory. -/
theorem rulesSource_run (s : Machine) (config : Option Path) :
    (rulesSource host config).run s =
      (config.map fun file => (file, (s.disk.read s.cwd file).mapError Failure.message), s) := by
  cases config <;> rfl

/-- What is said does not count. -/
theorem accepts_congr {t : Machine} {arguments : List (List UInt8)} (disk : t.disk = s.disk)
    (cwd : t.cwd = s.cwd) : t.Accepts arguments options suffixes ↔ s.Accepts arguments options suffixes := by
  have same : ((rulesSource host options.config).run t).1 =
      ((rulesSource host options.config).run s).1 := by
    rw [rulesSource_run, rulesSource_run, disk, cwd]
  constructor
  · rintro ⟨read, single, loaded⟩
    exact ⟨read, single, same ▸ loaded⟩
  · rintro ⟨read, single, loaded⟩
    exact ⟨read, single, same ▸ loaded⟩

theorem reclaimAll_accepted (filter : Log.Filter) (colored : Bool) {arguments : List (List UInt8)}
    (accepted : s.Accepts arguments options suffixes) :
    let run := (reclaimAll host (host.reporter filter colored) options).run s
    let turns := Disk.turns s.cwd options suffixes (distinctBy Path.components options.paths) s.disk
    run.1 = .ok turns.1.allDeleted ∧ run.2.disk = turns.2 ∧ run.2.cwd = s.cwd := by
  have alone : ¬ (1 < (distinctBy Path.components options.paths).length &&
      (options.root.isSome || options.name.isSome)) = true := by
    intro both
    obtain ⟨several, given⟩ := Bool.and_eq_true_iff.mp both
    obtain ⟨noRoot, noName⟩ := accepted.single (of_decide_eq_true several)
    rw [noRoot, noName] at given
    cases given
  have loaded := accepted.loaded
  obtain ⟨turns, cwd⟩ := handleArguments_run s filter colored options suffixes
    (distinctBy Path.components options.paths)
  obtain ⟨t, made, run⟩ : ∃ t made, (handleArguments host (host.reporter filter colored) options
    suffixes (distinctBy Path.components options.paths)).run s = (made, t) := ⟨_, _, rfl⟩
  rw [run] at turns cwd
  unfold reclaimAll
  dsimp only
  rw [if_neg alone, run_bind_of_run (rulesSource_run s options.config)]
  rw [rulesSource_run] at loaded
  rw [loaded]
  dsimp only
  rw [run_bind_of_run run, ← turns]
  exact ⟨rfl, rfl, cwd⟩

theorem reclaimAll_refused (filter : Log.Filter) (colored : Bool) {arguments : List (List UInt8)}
    (read : Options.read arguments = .ok options)
    (refused : ∀ suffixes, ¬ s.Accepts arguments options suffixes) :
    ∃ report, (reclaimAll host (host.reporter filter colored) options).run s = (.error report, s) := by
  unfold reclaimAll
  dsimp only
  split
  · exact ⟨_, rfl⟩
  · rename_i alone
    rw [run_bind_of_run (rulesSource_run s options.config)]
    cases loaded : Suffixes.load (options.config.map fun file =>
        (file, (s.disk.read s.cwd file).mapError Failure.message)) with
    | error e => exact ⟨_, rfl⟩
    | ok suffixes =>
      refine absurd ⟨read, fun several => ?_, ?_⟩ (refused suffixes)
      · simp only [several, decide_true, Bool.true_and, Bool.or_eq_true, not_or,
          Bool.not_eq_true, Option.isSome_eq_false_iff, Option.isNone_iff_eq_none] at alone
        exact alone
      · rw [rulesSource_run]
        exact loaded

/-- What comes before the first turn is a log line. -/
theorem probed (s : Machine) (around : Surroundings) (options : Options) :
    ∃ t, (host.log (logFilter around options.verbose) around.coloredLog
      (probedEvent colorProbe (colorProbe.ask around.colorOutput).1)).run s = ((), t) ∧
      t.disk = s.disk ∧ t.cwd = s.cwd ∧ t.answers = s.answers := by
  unfold Host.log
  split
  · exact ⟨_, rfl, rfl, rfl, rfl⟩
  · exact ⟨_, rfl, rfl, rfl, rfl⟩

/-- **A run that is accepted ends as its turns do.** -/
theorem run_turns {arguments : List (List UInt8)} (around : Surroundings)
    (accepted : s.Accepts arguments options suffixes) :
    let run := (run host around arguments).run s
    let turns := Disk.turns s.cwd options suffixes (distinctBy Path.components options.paths) s.disk
    run.1 = (if turns.1.allDeleted then 0 else 1) ∧ run.2.disk = turns.2 ∧ run.2.cwd = s.cwd := by
  obtain ⟨t, logged, disk, cwd, -⟩ := probed s around options
  obtain ⟨result, left, place⟩ := reclaimAll_accepted (logFilter around options.verbose)
    around.coloredLog ((accepts_congr disk cwd).mpr accepted)
  obtain ⟨made, u, reclaimed⟩ : ∃ made u, (reclaimAll host (host.reporter
    (logFilter around options.verbose) around.coloredLog) options).run t = (made, u) := ⟨_, _, rfl⟩
  rw [reclaimed, disk, cwd] at result left
  rw [reclaimed, cwd] at place
  unfold Reclaim.run
  rw [accepted.read]
  dsimp only
  unfold runOptions
  dsimp only
  rw [run_bind_of_run logged, run_bind_of_run reclaimed]
  replace result : made = _ := result
  rw [result]
  exact ⟨rfl, left, place⟩

/-- It ends with 0 when every turn has deleted its database. -/
theorem run_eq_zero_iff {arguments : List (List UInt8)} (around : Surroundings)
    (accepted : s.Accepts arguments options suffixes) :
    ((run host around arguments).run s).1 = 0 ↔
      (Disk.turns s.cwd options suffixes (distinctBy Path.components options.paths)
        s.disk).1.allDeleted = true := by
  obtain ⟨code, -⟩ := run_turns around accepted
  rw [code]
  split
  · exact iff_of_true rfl ‹_›
  · exact iff_of_false (by decide) ‹_›

/-- **A run with one argument** is the run of its footprint. -/
theorem run_single {arguments : List (List UInt8)} {p : Path} {f : Footprint} (around : Surroundings)
    (accepted : s.Accepts arguments options suffixes)
    (alone : distinctBy Path.components options.paths = [p]) (wet : options.dryRun = false)
    (made : s.disk.footprint? s.cwd options p = .ok f) :
    let ended := (run host around arguments).run s
    let turn := (reclaim (Disk.filesystem s.cwd) .silent suffixes f).run s.disk
    (ended.1 = 0 ↔ turn.1.primaryDeleted = true) ∧ ended.2.disk = turn.2 := by
  intro ended turn
  have zero := run_eq_zero_iff around accepted
  obtain ⟨-, disk, -⟩ := run_turns around accepted
  rw [alone, Disk.turns, Disk.turns, Disk.turn_of_ok wet made] at zero disk
  exact ⟨zero.trans (by rw [Bool.and_true]), disk⟩

/-- **A run that is not accepted does nothing**, and with its options read it ends with 1 and says nothing
but why. -/
theorem run_refused {arguments : List (List UInt8)} (around : Surroundings)
    (refused : ∀ options suffixes, ¬ s.Accepts arguments options suffixes) :
    let run := (run host around arguments).run s
    run.2.disk = s.disk ∧ run.2.cwd = s.cwd ∧
      ∀ options, Options.read arguments = .ok options → run.1 = 1 ∧ run.2.answers = s.answers := by
  intro run
  cases read : Options.read arguments with
  | error ending =>
    have same : run.2.disk = s.disk ∧ run.2.cwd = s.cwd := by
      simp only [run, Reclaim.run, read]
      cases ending <;> exact ⟨rfl, rfl⟩
    exact ⟨same.1, same.2, nofun⟩
  | ok options =>
    obtain ⟨t, logged, disk, cwd, answers⟩ := probed s around options
    obtain ⟨report, reclaimed⟩ := reclaimAll_refused (logFilter around options.verbose)
      around.coloredLog read fun suffixes accepted =>
        refused options suffixes ((accepts_congr disk cwd).mp accepted)
    have ended : run = (1, { t with complaints := t.complaints ++ (report.closing ++ "\n") }) := by
      simp only [run, Reclaim.run, read]
      unfold runOptions
      dsimp only
      rw [run_bind_of_run logged, run_bind_of_run reclaimed]
      rfl
    rw [ended]
    exact ⟨disk, cwd, fun _ _ => ⟨rfl, answers⟩⟩

/-! ## What a run costs -/

/-- One argument costs at most what is at stake in its turn. -/
theorem loses_handleArgument (s : Machine) (filter : Log.Filter) (colored : Bool) (options : Options)
    (suffixes : Suffixes) (p : Path) :
    s.disk.Loses
      ((handleArgument host (host.reporter filter colored) options suffixes p).run s).2.disk
      (s.disk.AtStake s.cwd options suffixes p) := by
  obtain ⟨turn, -⟩ := handleArgument_run s filter colored options suffixes p
  have loses := Disk.loses_turn s.disk s.cwd options suffixes p
  rw [← turn] at loses
  exact loses

/-- **A run** costs at most what is at stake in its turns: each path of its options, on the disk that the
paths before it have left. -/
theorem loses_run (s : Machine) (around : Surroundings) (arguments : List (List UInt8)) :
    s.disk.Loses ((run host around arguments).run s).2.disk fun k => ∃ options suffixes,
      s.Accepts arguments options suffixes ∧ ∃ done p rest,
        distinctBy Path.components options.paths = done ++ p :: rest ∧
          (s.behind (logFilter around options.verbose) around.coloredLog options suffixes
            done).disk.AtStake s.cwd options suffixes p k := by
  by_cases accepted : ∃ options suffixes, s.Accepts arguments options suffixes
  · obtain ⟨options, suffixes, accepted⟩ := accepted
    obtain ⟨-, left, -⟩ := run_turns around accepted
    rw [left]
    refine (Disk.loses_turns s.cwd options suffixes _ s.disk).mono ?_
    rintro k ⟨done, p, rest, split, stake⟩
    rw [← disk_behind] at stake
    exact ⟨options, suffixes, accepted, done, p, rest, split, stake⟩
  · obtain ⟨left, -⟩ := run_refused around fun options suffixes h => accepted ⟨options, suffixes, h⟩
    rw [left]
    exact .nothing s.disk

end Machine

end Reclaim
