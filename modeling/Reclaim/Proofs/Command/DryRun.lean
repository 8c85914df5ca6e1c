import Reclaim.Proofs.Command.Alone
import Reclaim.Proofs.Command.Arguments
import Reclaim.Proofs.Reclamation.Preview

/-!
# Dry runs

A dry run deletes nothing, and says what a run would delete. **The law** (`dry_run_faithful`) compares the
two runs of the command, with the flag and without it, from the same machine.

* **Nothing is deleted**, whatever the arguments are and whatever is on the disk. Only the flag has to be one:
  behind a `--` it is a path (`flag_behind_separator`).
* **What is listed is what is tried**: on a disk without links, for one argument with a footprint of its own
  root and name, and with two different suffixes. That the three artifacts have three paths need not be
  asked for. Without links an argument is made into the path of its database
  (`Disk.IsLinkless.ofPrimary_footprint`), and the sidecars are beside it.

A dry run does not say what can be deleted. Only a run without warnings removes all that was listed.
-/

namespace Reclaim

section

variable {d : Disk} {cwd l : Location} {n : List UInt8} {options : Options} {p : Path} {f : Footprint}

theorem Disk.IsLinkless.real_eq (linkless : d.IsLinkless) (named : Location.IsNamed (n :: l)) :
    d.real cwd (n :: l) = n :: l := by
  unfold Disk.real
  cases traced : d.trace cwd (Location.path (n :: l)) with
  | error failure => rfl
  | ok t =>
    have walked := (Disk.resolve_eq_ok_iff.mp (Disk.resolve_of_trace traced)).2
    rw [Location.steps_path named, ← Location.components_cons] at walked
    exact linkless.reaches_components walked

/-- **On a disk without links a footprint is that of its primary path**, where no root and no name are asked
for: an argument is made into the path of a location, and no link leads on from there. -/
theorem Disk.IsLinkless.ofPrimary_footprint (linkless : d.IsLinkless) (noRoot : options.root = none)
    (noName : options.name = none) (made : d.footprint? cwd options p = .ok f) :
    Footprint.ofPrimary f.primary = .ok f := by
  obtain ⟨given, absolute, made⟩ := bind_eq_ok.mp made
  obtain ⟨asGiven, asGivenMade, made⟩ := bind_eq_ok.mp made
  replace asGivenMade := mapError_eq_ok.mp asGivenMade
  obtain ⟨n, l, named, rfl, primary, -⟩ := Footprint.ofPrimary_eq_ok asGivenMade
  rw [noRoot, noName, Disk.canonicalize_path, linkless.real_eq named, ← primary] at made
  obtain rfl := Except.ok.inj ((mapError_eq_ok.mp made).symm.trans (Footprint.ofParts_of_footprint asGiven))
  rw [primary]
  exact asGivenMade

/-! ## The dry run and the run in earnest -/

/-- **The turns of a dry run** leave the disk as it is, by induction. -/
theorem Disk.turns_of_dryRun (suffixes : Suffixes) (dry : options.dryRun = true) (paths : List Path)
    (d : Disk) : (turns cwd options suffixes paths d).2 = d := by
  induction paths generalizing d with
  | nil => rfl
  | cons p rest ih =>
    have first : (d.turn cwd options suffixes p).2 = d := by
      cases made : d.footprint? cwd options p with
      | error report => rw [turn_of_error made]
      | ok f => rw [turn_of_dryRun dry made]
    rw [turns, first]
    exact ih d

/-- **Arguments that ask for a dry run** leave the disk of a machine as it is, accepted or not. -/
theorem Machine.disk_of_dryRun (s : Machine) (around : Surroundings) {arguments : List (List UInt8)}
    (dry : ∀ options, Options.read arguments = .ok options → options.dryRun = true) :
    ((run host around arguments).run s).2.disk = s.disk := by
  by_cases accepted : ∃ options suffixes, s.Accepts arguments options suffixes
  · obtain ⟨options, suffixes, accepted⟩ := accepted
    obtain ⟨-, left, -⟩ := run_turns around accepted
    exact left.trans (Disk.turns_of_dryRun suffixes (dry options accepted.read) _ s.disk)
  · exact (run_refused around fun options suffixes h => accepted ⟨options, suffixes, h⟩).1

/-- A plan says that there is nothing where it lists nothing, and nowhere else: its lines begin with other
words. -/
theorem planLines_eq_nothing_iff {planned : List Planned} {last : String} :
    planLines f planned ++ last = "Nothing to reclaim for " ++ f.primary.text ++ "\n" ++ last ↔
      planned = [] := by
  unfold planLines
  cases planned with
  | nil => exact iff_of_true rfl rfl
  | cons artifact rest =>
    refine iff_of_false (fun same => ?_) (List.cons_ne_nil _ _)
    have first := congrArg (fun text : String => text.toList.head?) same
    simp at first

end

/-- **A dry run is harmless and faithful.** For any machine and any arguments with `--dry-run` in front of
any `--`, the disk behind the run is the disk before it.

Let the arguments be accepted on a disk without links, with two different suffixes, without a root or a
name, and with one path that has a footprint. The same command without the flag is run on the same machine,
with its calls recorded; the record changes nothing. Then there is a course such that:

* the calls of the real run are those of the course, and its removals are `planned`, kind by kind and path
  by path;
* the dry run answers with the lines of `planned`, and that there is nothing to reclaim just where the real
  run attempts no removal;
* the same command with `--verbose` answers with the removals that its course reports, and these are the
  paths of `planned` if it warns of nothing. -/
theorem dry_run_faithful (s : Machine) (around : Surroundings) {before : List (List UInt8)}
    (after : List (List UInt8)) (option : Text.encode "--" ∉ before) :
    let dry := (run Machine.host around (before ++ Text.encode "--dry-run" :: after)).run s
    dry.2.disk = s.disk ∧
    ∀ options suffixes p f, s.Accepts (before ++ Text.encode "--dry-run" :: after) options suffixes →
      s.disk.IsLinkless → suffixes.management ≠ suffixes.note →
      options.root = none → options.name = none → distinctBy Path.components options.paths = [p] →
      ((footprintOf Machine.host options p).run.run s).1 = .ok f →
      let real := ((run Machine.host.recorded around (before ++ after)).run {}).run s
      let removals := real.1.2.exchanges.filterMap Exchange.removal?
      (real.1.1, real.2) = (run Machine.host around (before ++ after)).run s ∧
      ∃ c : Course,
        let planned := (c.attempts suffixes f).map Attempt.artifact
        let o := c.outcome suffixes f
        real.1.2.exchanges = c.exchanges suffixes f ∧
        removals = planned.map (fun artifact => (artifact.1.removal, artifact.2)) ∧
        dry.2.answers =
          s.answers ++ (planLines f planned ++ "Dry run mode: No files were deleted.\n") ∧
        (dry.2.answers = s.answers ++ ("Nothing to reclaim for " ++ f.primary.text ++ "\n" ++
          "Dry run mode: No files were deleted.\n") ↔ removals = []) ∧
        ∀ loud, Options.read loud = .ok { options with dryRun := false, verbose := true } →
          ((run Machine.host around loud).run s).2.answers = s.answers ++ outcomeLines f o true ∧
            (o.warnings = [] → o.removed = planned.map Prod.snd) := by
  intro dry
  refine ⟨s.disk_of_dryRun around fun options read => (Options.read_dryRun option read).1,
    fun options suffixes p f accepted linkless differ noRoot noName alone made => ?_⟩
  intro real removals
  obtain ⟨raised, read⟩ := Options.read_dryRun option accepted.read
  have checked := check_of_load accepted.loaded
  rw [Machine.footprintOf_run] at made
  replace made : s.disk.footprint? s.cwd options p = .ok f := made
  have own := linkless.ofPrimary_footprint noRoot noName made
  obtain ⟨n, l, places⟩ := Footprint.exists_places own checked
  have apart := (Footprint.apart_iff own checked).mpr differ
  have earnest : s.Accepts (before ++ after) options.inEarnest suffixes :=
    ⟨read, accepted.single, accepted.loaded⟩
  have answers := Machine.answers_of_dryRun around accepted alone made raised
  obtain ⟨c, left', hplay, outcome, calls, -⟩ :=
    Machine.answers_of_earnest around earnest alone made rfl
  -- The plan and the attempts are both what stands.
  rw [← linkless.attempts_course places apart hplay] at answers
  have made_removals : removals = ((c.attempts suffixes f).map Attempt.artifact).map
      (fun artifact => (artifact.1.removal, artifact.2)) := by
    change real.1.2.exchanges.filterMap _ = _
    rw [calls, Course.filterMap_removal?, List.map_map]
    rfl
  refine ⟨run_recorded Machine.host around _ s, c, calls, made_removals, answers, ?_,
    fun loud read' => ?_⟩
  · rw [answers, String.append_right_inj, planLines_eq_nothing_iff, made_removals]
    simp only [List.map_eq_nil_iff]
  · have louder : s.Accepts loud { options with dryRun := false, verbose := true } suffixes :=
      ⟨read', accepted.single, accepted.loaded⟩
    obtain ⟨c', -, -, outcome', -, said⟩ := Machine.answers_of_earnest around louder alone made rfl
    rw [outcome'.symm.trans outcome] at said
    refine ⟨said, fun clean => ?_⟩
    rw [List.map_map]
    exact Attempt.filterMap_removed?_of_no_warning (List.append_eq_nil_iff.mp clean).2

/-- The database at `/a`, from the root. -/
theorem dry_run_faithful_sample :
    let s : Machine := ⟨.plain, [], "", ""⟩
    let options : Options := { paths := [.ofString "a"], dryRun := true }
    (Text.encode "--" ∉ words ["a"] ∧ s.Accepts (words ["a", "--dry-run"]) options .standard ∧
      s.disk.IsLinkless ∧
      distinctBy Path.components options.paths = [.ofString "a"] ∧
      ((footprintOf Machine.host options (.ofString "a")).run.run s).1 = .ok .atRoot ∧
      Options.read (words ["-v", "a"]) = .ok { options with dryRun := false, verbose := true }) ∧
    ((run Machine.host {} (words ["a", "--dry-run"])).run s).2.disk = s.disk ∧
    ∃ planned o,
      ((run Machine.host {} (words ["a", "--dry-run"])).run s).2.answers = s.answers ++
        (planLines .atRoot planned ++ "Dry run mode: No files were deleted.\n") ∧
      (((run Machine.host.recorded {} (words ["a"])).run {}).run s).1.2.exchanges.filterMap
        Exchange.removal? = planned.map (fun artifact => (artifact.1.removal, artifact.2)) ∧
      ((run Machine.host {} (words ["-v", "a"])).run s).2.answers =
        s.answers ++ outcomeLines .atRoot o true ∧
      (o.warnings = [] → o.removed = planned.map Prod.snd) := by
  intro s options
  have linkless : s.disk.IsLinkless := Disk.isLinkless_of_entries (by simp [s, Disk.plain])
  have accepted : s.Accepts (words ["a", "--dry-run"]) options .standard := ⟨rfl, by decide, rfl⟩
  have made : ((footprintOf Machine.host options (.ofString "a")).run.run s).1 = .ok .atRoot := rfl
  have option : Text.encode "--" ∉ words ["a"] := by decide
  have loud : Options.read (words ["-v", "a"]) =
      .ok { options with dryRun := false, verbose := true } := rfl
  have dry : words ["a", "--dry-run"] = words ["a"] ++ [Text.encode "--dry-run"] := rfl
  have earnest : words ["a"] ++ [] = words ["a"] := List.append_nil _
  rw [dry] at accepted ⊢
  obtain ⟨harmless, faithful⟩ := dry_run_faithful s {} [] option
  obtain ⟨-, c, -, removals, answers, -, verbose⟩ :=
    faithful options .standard (.ofString "a") .atRoot accepted linkless (by decide) rfl rfl rfl made
  obtain ⟨said, clean⟩ := verbose _ loud
  rw [earnest] at removals
  refine ⟨⟨option, accepted, linkless, rfl, made, loud⟩, harmless, ?_⟩
  exact ⟨_, _, answers, removals, said, clean⟩

/-- **Behind a `--` the flag is a path**: the run is none of the dry ones, and deletes. -/
theorem flag_behind_separator :
    let s : Machine := ⟨.sample, [], "", ""⟩
    let arguments := words ["a", "--", "--dry-run"]
    Text.encode "--dry-run" ∈ arguments ∧
      s.disk.lookup [Text.encode "a"] = some (.file (.zeros 8)) ∧
      ((run Machine.host {} arguments).run s).2.disk.lookup [Text.encode "a"] = none := by
  exact ⟨by decide, rfl, by decide +kernel⟩

end Reclaim
