import Reclaim.Proofs.Command.Fewer
import Reclaim.Proofs.Command.Turns
import Reclaim.Proofs.Command.Validity
import Reclaim.Proofs.Distinct

/-!
# Errors cost nothing

Two kinds of errors are told apart. Where the rules cannot be loaded, or a root or a name is given for more
than one database, a run **ends before its first turn**: nothing is deleted, and nothing is said but why.
Where an argument has no footprint, its turn does nothing, and the run goes on.

**The law** (`Machine.errors_cost_nothing`): with some arguments that have no footprint among those that do, a
run ends with 1, and it leaves the disk that it leaves without them. It does not matter whether
footprints are looked for before the first turn or each in its own, on the disk that the turns before it
have left: an argument without one has none later either (`Machine.separates_validAtFirst`).
-/

namespace Reclaim

namespace Disk

variable {d : Disk} {cwd : Location} {options : Options} {suffixes : Suffixes} {p : Path}
  {keep : Path → Bool} {paths : List Path}

/-- **Whether an argument is valid**: whether it has a footprint on a disk. -/
def isValid (d : Disk) (cwd : Location) (options : Options) (p : Path) : Bool :=
  (d.footprint? cwd options p).isOk

theorem isValid_eq_true_iff :
    d.isValid cwd options p = true ↔ ∃ f, d.footprint? cwd options p = .ok f := by
  unfold isValid
  cases d.footprint? cwd options p with
  | ok f => exact iff_of_true rfl ⟨f, rfl⟩
  | error report => exact iff_of_false Bool.false_ne_true nofun

/-- An argument that is not valid has a turn that does nothing. -/
theorem turn_of_not_isValid (invalid : d.isValid cwd options p = false) :
    d.turn cwd options suffixes p = (⟨false, 0⟩, d) := by
  unfold isValid at invalid
  cases made : d.footprint? cwd options p with
  | error report => exact turn_of_error made
  | ok f =>
    rw [made] at invalid
    cases invalid

/-- **Arguments that are not valid in their turn** may be left out, by induction. -/
theorem turns_filter (idle : ∀ done p rest, paths = done ++ p :: rest → keep p = false →
      (turns cwd options suffixes done d).2.isValid cwd options p = false) :
    (turns cwd options suffixes (paths.filter keep) d).2 = (turns cwd options suffixes paths d).2 := by
  induction paths generalizing d with
  | nil => rfl
  | cons p rest ih =>
    have later := ih (d := (d.turn cwd options suffixes p).2) fun done q rest' split =>
      idle (p :: done) q rest' (by rw [split]; rfl)
    cases kept : keep p with
    | true =>
      rw [List.filter_cons_of_pos kept]
      exact later
    | false =>
      have nothing : d.turn cwd options suffixes p = (⟨false, 0⟩, d) :=
        turn_of_not_isValid (idle [] p rest rfl kept)
      rw [nothing] at later
      rw [List.filter_cons_of_neg (Bool.eq_false_iff.mp kept), turns, nothing]
      exact later

end Disk

namespace Machine

variable {s : Machine} {options : Options} {suffixes : Suffixes} {p q : Path}

/-! ## Validity in a run -/

/-- **Whether an argument is valid at first**: before anything is deleted. -/
def validAtFirst (s : Machine) (options : Options) (p : Path) : Bool :=
  s.disk.isValid s.cwd options p

/-- **Whether an argument is valid in its turn**: behind the turns of the arguments before the first that is
like it. -/
def validInTurn (s : Machine) (options : Options) (suffixes : Suffixes) (p : Path) : Bool :=
  let before := (distinctBy Path.components options.paths).takeWhile fun q => ¬ q.Alike p
  (Disk.turns s.cwd options suffixes before s.disk).2.isValid s.cwd options p

/-- **A test that separates**: it does not tell like arguments apart, and what does not pass is not valid in
its turn. -/
structure Separates (s : Machine) (options : Options) (suffixes : Suffixes) (keep : Path → Bool) :
    Prop where
  alike : ∀ p q, p.Alike q → keep p = keep q
  idle : ∀ done p rest, distinctBy Path.components options.paths = done ++ p :: rest → keep p = false →
    (Disk.turns s.cwd options suffixes done s.disk).2.isValid s.cwd options p = false

section Separates

variable (rootless : options.root = none) (nameless : options.name = none)
include rootless nameless

theorem isValid_congr (d : Disk) (cwd : Location) (alike : p.Alike q) :
    d.isValid cwd options p = d.isValid cwd options q := by
  rw [Bool.eq_iff_iff, Disk.isValid_eq_true_iff, Disk.isValid_eq_true_iff]
  exact Disk.exists_footprint_congr rootless nameless alike

/-- **An argument that is not valid at first** is not valid later. -/
theorem separates_validAtFirst (s : Machine) (suffixes : Suffixes) :
    s.Separates options suffixes (s.validAtFirst options) := by
  refine ⟨fun p q alike => isValid_congr rootless nameless s.disk s.cwd alike,
    fun done p rest split invalid => ?_⟩
  refine Bool.eq_false_iff.mpr fun valid => Bool.eq_false_iff.mp invalid ?_
  have within := (Disk.loses_turns s.cwd options suffixes done s.disk).within
  exact Disk.isValid_eq_true_iff.mpr
    (within.exists_footprint rootless nameless (Disk.isValid_eq_true_iff.mp valid))

theorem separates_validInTurn (s : Machine) (suffixes : Suffixes) :
    s.Separates options suffixes (s.validInTurn options suffixes) := by
  refine ⟨fun p q alike => ?_, fun done p rest split invalid => ?_⟩
  · have like : ∀ r : Path, r.Alike p ↔ r.Alike q := fun r =>
      ⟨fun h => h.trans alike, fun h => h.trans alike.symm⟩
    unfold validInTurn
    dsimp only
    simp only [like]
    exact isValid_congr rootless nameless _ s.cwd alike
  · -- No argument before its turn is like it.
    have others : ∀ q ∈ done, decide (¬ q.Alike p) = true := by
      intro q hq
      have apart := pairwise_distinctBy Path.components options.paths
      rw [split, List.pairwise_append] at apart
      exact decide_eq_true (apart.2.2 q hq p List.mem_cons_self)
    have before : (distinctBy Path.components options.paths).takeWhile
        (fun q => decide (¬ q.Alike p)) = done := by
      rw [split, List.takeWhile_append_of_pos others]
      simp [Path.Alike]
    unfold validInTurn at invalid
    rw [before] at invalid
    exact invalid

end Separates

/-! ## What errors cost -/

/-- **What does not pass is left out** of the turns, and the disk is the same. -/
theorem Separates.turns {keep : Path → Bool} (separates : s.Separates options suffixes keep) :
    (Disk.turns s.cwd options suffixes
      (distinctBy Path.components (options.only keep).paths) s.disk).2 =
    (Disk.turns s.cwd options suffixes (distinctBy Path.components options.paths) s.disk).2 := by
  have filtered : distinctBy Path.components (options.only keep).paths =
      (distinctBy Path.components options.paths).filter keep :=
    distinctBy_filter fun p _ q _ alike => separates.alike p q alike
  rw [filtered, Disk.turns_filter separates.idle]

/-- **An argument that does not pass** is one of which the turn fails. -/
theorem Separates.not_allDeleted {keep : Path → Bool} (separates : s.Separates options suffixes keep)
    (some : ∃ p ∈ options.paths, keep p = false) :
    (Disk.turns s.cwd options suffixes (distinctBy Path.components options.paths)
      s.disk).1.allDeleted = false := by
  obtain ⟨p, given, dropped⟩ := some
  obtain ⟨q, left, like⟩ := exists_mem_distinctBy Path.components given
  obtain ⟨done, rest, split⟩ := List.append_of_mem left
  refine Bool.eq_false_iff.mpr fun all => ?_
  have deleted := Disk.allDeleted_turns_iff.mp all done q rest split
  rw [Disk.turn_of_not_isValid
    (separates.idle done q rest split ((separates.alike q p like).trans dropped))] at deleted
  cases deleted

/-- Other turns are made where only the paths differ. -/
theorem turns_only (keep : Path → Bool) (paths : List Path) (d : Disk) :
    Disk.turns s.cwd (options.only keep) suffixes paths d = Disk.turns s.cwd options suffixes paths d := by
  induction paths generalizing d with
  | nil => rfl
  | cons p rest ih =>
    rw [Disk.turns, Disk.turns, ih]
    rfl

/-- **Errors cost nothing.** -/
theorem errors_cost_nothing (s : Machine) (around : Surroundings) {arguments : List (List UInt8)}
    (read : Options.read arguments = .ok options) :
    let loaded := Suffixes.load ((rulesSource host options.config).run s).1
    let ended := (run host around arguments).run s
    -- An error before the first turn.
    ((∀ suffixes, loaded ≠ .ok suffixes) ∨
        1 < (distinctBy Path.components options.paths).length ∧
          (options.root ≠ none ∨ options.name ≠ none) →
      ended.1 = 1 ∧ ended.2.answers = s.answers ∧ ended.2.disk = s.disk) ∧
    -- Arguments that are not valid among those that are.
    (∀ suffixes, loaded = .ok suffixes → options.root = none → options.name = none →
      ∀ valid, valid = s.validAtFirst options ∨ valid = s.validInTurn options suffixes →
      (∃ p ∈ options.paths, valid p = false) → (∃ p ∈ options.paths, valid p = true) →
        ended.1 = 1 ∧
        (∃ fewer, fewer.Sublist arguments ∧ Options.read fewer = .ok (options.only valid)) ∧
        ∀ fewer, Options.read fewer = .ok (options.only valid) →
          ((run host around fewer).run s).2.disk = ended.2.disk) := by
  intro loaded ended
  refine ⟨fun error => ?_, fun suffixes loads rootless nameless valid which none some => ?_⟩
  · have refused : ∀ options suffixes, ¬ s.Accepts arguments options suffixes := by
      rintro options' suffixes accepted
      obtain rfl := Except.ok.inj (read.symm.trans accepted.read)
      rcases error with unloaded | ⟨several, given⟩
      · exact unloaded suffixes accepted.loaded
      · obtain ⟨rootless, nameless⟩ := accepted.single several
        exact given.elim (absurd rootless) (absurd nameless)
    obtain ⟨disk, -, said⟩ := run_refused around refused
    obtain ⟨code, answers⟩ := said options read
    exact ⟨code, answers, disk⟩
  · have separates : s.Separates options suffixes valid := by
      rcases which with rfl | rfl
      · exact separates_validAtFirst rootless nameless s suffixes
      · exact separates_validInTurn rootless nameless s suffixes
    have accepted : s.Accepts arguments options suffixes := ⟨read, fun _ => ⟨rootless, nameless⟩, loads⟩
    obtain ⟨code, disk, -⟩ := run_turns around accepted
    have filled : options.paths.filter valid ≠ [] := by
      obtain ⟨p, given, passes⟩ := some
      exact List.ne_nil_of_mem (List.mem_filter.mpr ⟨given, passes⟩)
    refine ⟨?_, Options.exists_read_only filled read, fun fewer readFewer => ?_⟩
    · rw [separates.not_allDeleted none] at code
      exact code
    · have acceptedFewer : s.Accepts fewer (options.only valid) suffixes :=
        ⟨readFewer, fun _ => ⟨rootless, nameless⟩, loads⟩
      obtain ⟨-, diskFewer, -⟩ := run_turns around acceptedFewer
      rw [diskFewer, turns_only, separates.turns]
      exact disk.symm

/-- The sample, from its root. Neither `/`, nor a name that is no text, nor `a/..` is a database; the one
among them is deleted. -/
theorem errors_cost_nothing_sample :
    let s : Machine := ⟨.sample, [], "", ""⟩
    let arguments := [Text.encode "/", Text.encode "a", [0xFF], Text.encode "a/.."]
    let options : Options := { paths := arguments.map Path.mk }
    Options.read arguments = .ok options ∧ s.validAtFirst options (.ofString "/") = false ∧
      s.validAtFirst options ⟨[0xFF]⟩ = false ∧ s.validAtFirst options (.ofString "a") = true ∧
      ((run host {} arguments).run s).1 = 1 ∧
      ((run host {} (words ["a"])).run s).2.disk = ((run host {} arguments).run s).2.disk ∧
      s.disk.lookup [Text.encode "a"] ≠ none ∧
      ((run host {} (words ["a"])).run s).2.disk.lookup [Text.encode "a"] = none := by
  intro s arguments options
  have read : Options.read arguments = .ok options := by decide +kernel
  have root : s.validAtFirst options (.ofString "/") = false := by decide +kernel
  have untexted : s.validAtFirst options ⟨[0xFF]⟩ = false := by decide +kernel
  have named : s.validAtFirst options (.ofString "a") = true := by decide +kernel
  obtain ⟨code, -, same⟩ := (errors_cost_nothing s {} read).2 .standard (by rfl) rfl rfl _ (.inl rfl)
    ⟨.ofString "/", by decide, root⟩ ⟨.ofString "a", by decide, named⟩
  exact ⟨read, root, untexted, named, code, same (words ["a"]) (by decide +kernel), by decide +kernel,
    by decide +kernel⟩

end Machine

end Reclaim
