import Reclaim.Command.Machine
import Reclaim.Proofs.Command.Absolute
import Reclaim.Proofs.Footprint
import Reclaim.Proofs.Reclamation.InStep
import Reclaim.Proofs.Rules

/-!
# From a machine to its disk

The command makes its footprints by looking. Making a path absolute, and finding the footprint of an
argument, leave the machine as it was, and give what a program on its disk gives: a path
(`Machine.absolutePath_run`), a footprint (`Machine.footprintOf_run`), or the same report.

A deletion is made in reclaiming a footprint alone, and that is a run on the disk of the machine, seen
from its working directory (`Machine.sight`).
-/

namespace Reclaim

/-! ## From an argument to a footprint -/

/-- **What the footprint of an argument is**, seen from a working directory on a disk. -/
def Disk.HasFootprint (d : Disk) (cwd : Location) (options : Options) (p : Path) (f : Footprint) : Prop :=
  ∃ given, Footprint.ofPrimary (d.absolute cwd p) = .ok given ∧
    f.primary = (d.canonicalize cwd (d.absolute cwd p)).toOption.getD (d.absolute cwd p) ∧
    f.root = options.root.elim given.root (d.absolute cwd) ∧ f.name = options.name.getD given.name

namespace Disk

/-- The path that an argument is made into, where it starts in a directory. -/
def absolute? (d : Disk) (cwd : Location) (p : Path) : Except Report Path := do
  (d.requireDirectory (p.start cwd)).mapError fun failure =>
    ⟨"Failed to read current directory", [failure.message]⟩
  return d.absolute cwd p

/-- A footprint that was made, or the report of an argument without one. -/
def reported (argument : Path) (made : Except FootprintError Footprint) : Except Report Footprint :=
  made.mapError fun e => Report.within (.ofCause e.message) ("Invalid database path " ++ argument.text)

/-- **The footprint of an argument**, or why there is none, seen from a working directory on a disk. -/
def footprint? (d : Disk) (cwd : Location) (options : Options) (p : Path) : Except Report Footprint := do
  let given ← d.absolute? cwd p
  let asGiven ← reported p (Footprint.ofPrimary given)
  let root ← options.root.elim (pure asGiven.root) (d.absolute? cwd)
  reported p (Footprint.ofParts ((d.canonicalize cwd given).toOption.getD given) root
    (options.name.getD asGiven.name))

variable {d : Disk} {cwd l : Location} {options : Options} {p q : Path} {f : Footprint} {n : List UInt8}

theorem absolute?_eq_ok_iff :
    d.absolute? cwd p = .ok q ↔ d.lookup (p.start cwd) = some .directory ∧ q = d.absolute cwd p := by
  rw [absolute?, bind_eq_ok, exists_unit, mapError_eq_ok, requireDirectory_eq_ok]
  exact and_congr_right fun _ => ⟨fun h => (Except.ok.inj h).symm, fun h => h ▸ rfl⟩

theorem hasFootprint_of_ok (h : d.footprint? cwd options p = .ok f) : d.HasFootprint cwd options p f := by
  obtain ⟨given, made, h⟩ := bind_eq_ok.mp h
  obtain ⟨-, rfl⟩ := absolute?_eq_ok_iff.mp made
  obtain ⟨asGiven, made, h⟩ := bind_eq_ok.mp h
  obtain ⟨root, rooted, h⟩ := bind_eq_ok.mp h
  obtain ⟨primary, sameRoot, name⟩ := Footprint.ofParts_eq_ok (mapError_eq_ok.mp h)
  refine ⟨asGiven, mapError_eq_ok.mp made, primary, ?_, name⟩
  rw [sameRoot]
  cases given : options.root with
  | none =>
    rw [given] at rooted
    exact (Except.ok.inj rooted).symm
  | some r =>
    rw [given] at rooted
    exact (absolute?_eq_ok_iff.mp rooted).2

/-- **What fits an argument is made of it**, where the argument and the root that was asked for start in
directories. -/
theorem footprint?_of_hasFootprint (h : d.HasFootprint cwd options p f)
    (start : ∀ q ∈ p :: options.root.toList, d.lookup (q.start cwd) = some .directory) :
    d.footprint? cwd options p = .ok f := by
  obtain ⟨given, made, primary, root, name⟩ := h
  have first : d.absolute? cwd p = .ok (d.absolute cwd p) :=
    absolute?_eq_ok_iff.mpr ⟨start p List.mem_cons_self, rfl⟩
  have second : options.root.elim (pure given.root) (d.absolute? cwd) = .ok f.root := by
    rw [root]
    cases asked : options.root with
    | none => rfl
    | some r => exact absolute?_eq_ok_iff.mpr ⟨start r (by simp [asked]), rfl⟩
  refine bind_eq_ok.mpr ⟨_, first, bind_eq_ok.mpr ⟨given, mapError_eq_ok.mpr made,
    bind_eq_ok.mpr ⟨_, second, mapError_eq_ok.mpr ?_⟩⟩⟩
  rw [← primary, ← name]
  exact Footprint.ofParts_of_footprint f

/-- **The parts of a footprint** are read off the location that the argument is made into the path of. -/
theorem HasFootprint.parts (h : d.HasFootprint cwd options p f) (named : Location.IsNamed (n :: l))
    (absolute : d.absolute cwd p = Location.path (n :: l)) :
    f.primary = (d.real cwd (n :: l)).path ∧ f.root = options.root.elim l.path (d.absolute cwd) ∧
      ∃ name, Text.encode name = n ∧ f.name = options.name.getD name := by
  obtain ⟨given, made, primary, root, name⟩ := h
  obtain ⟨m, k, named', same, -, givenRoot, encoded⟩ := Footprint.ofPrimary_eq_ok made
  obtain ⟨rfl, rfl⟩ := List.cons.inj (Location.path_inj named named' (absolute.symm.trans same))
  refine ⟨?_, givenRoot ▸ root, given.name, encoded, name⟩
  rw [primary, absolute, canonicalize_path]

/-- Where there is one, the argument starts in a directory. -/
theorem start_of_footprint (h : d.footprint? cwd options p = .ok f) :
    d.lookup (p.start cwd) = some .directory := by
  obtain ⟨given, made, -⟩ := bind_eq_ok.mp h
  exact (absolute?_eq_ok_iff.mp made).1

end Disk

namespace Machine

variable {s : Machine} {p : Path} {options : Options}

/-- A call that does not change the machine. -/
theorem run_lift {α : Type} {call : StateM Machine α} {a : α} (h : call.run s = (a, s)) :
    (liftM call : ExceptT Report (StateM Machine) α).run.run s = (.ok a, s) := by
  change (Except.ok (call.run s).1, (call.run s).2) = _
  rw [h]

/-- A program goes on from what its first part gives. -/
theorem run_bind_of_gives {α β : Type} {x : ExceptT Report (StateM Machine) α}
    {g : α → ExceptT Report (StateM Machine) β} {a : α} {t : Machine}
    (first : x.run.run s = (.ok a, t)) : (x >>= g).run.run s = (g a).run.run t := by
  change (x.run >>= ExceptT.bindCont g).run s = _
  rw [StateT.run_bind, first]
  rfl

/-- **Two programs that look, in a row.** -/
theorem run_bind_of_looks {α β : Type} {x : ExceptT Report (StateM Machine) α}
    {g : α → ExceptT Report (StateM Machine) β} {made : Except Report α} {more : α → Except Report β}
    (first : x.run.run s = (made, s)) (second : ∀ a, (g a).run.run s = (more a, s)) :
    (x >>= g).run.run s = (made >>= more, s) := by
  change (x.run >>= ExceptT.bindCont g).run s = _
  rw [StateT.run_bind, first]
  cases made with
  | ok a => exact second a
  | error report => rfl

theorem absoluteByText_run (s : Machine) (p : Path) :
    (absoluteByText host p).run.run s =
      ((do
        (s.disk.requireDirectory (p.start s.cwd)).mapError fun failure : Failure =>
          (⟨"Failed to read current directory", [failure.message]⟩ : Report)
        return p.lexical s.cwd), s) := by
  unfold absoluteByText Path.lexical Path.start
  cases p.isAbsolute with
  | true => rfl
  | false =>
    have called : (liftM host.workingDirectory : ExceptT Report (StateM Machine) _).run.run s =
        (.ok ((s.disk.workingPath s.cwd).mapError Failure.message), s) := run_lift rfl
    refine (run_bind_of_gives called).trans ?_
    simp only [Bool.false_eq_true, if_false]
    unfold Disk.workingPath
    cases s.disk.requireDirectory s.cwd with
    | ok u => rfl
    | error failure => rfl

/-- **Making a path absolute**, on a machine, is what it is on its disk. -/
theorem absolutePath_run (s : Machine) (p : Path) :
    (absolutePath host p).run.run s = (s.disk.absolute? s.cwd p, s) := by
  unfold absolutePath Disk.absolute? Disk.absolute
  cases file : p.fileName? with
  | none => exact absoluteByText_run s p
  | some n =>
    have called : (liftM (host.canonical (holder p)) : ExceptT Report (StateM Machine) _).run.run s =
        (.ok (s.disk.canonicalize s.cwd (holder p)).toOption, s) := run_lift rfl
    refine (run_bind_of_gives called).trans ?_
    unfold Disk.canonicalize
    cases traced : s.disk.trace s.cwd (holder p) with
    | error failure => exact absoluteByText_run s p
    | ok t =>
      have start := Disk.start_of_holder file (Disk.resolve_of_trace traced)
      rw [Disk.requireDirectory_eq_ok.mpr start]
      rfl

/-- It gives a path where the given one starts in a directory. -/
theorem absolutePath_gives (start : s.disk.lookup (p.start s.cwd) = some .directory) :
    (absolutePath host p).run.run s = (.ok (s.disk.absolute s.cwd p), s) := by
  rw [absolutePath_run, Disk.absolute?_eq_ok_iff.mpr ⟨start, rfl⟩]

theorem footprintOr_run (s : Machine) (p : Path) (made : Except FootprintError Footprint) :
    (footprintOr p made : ExceptT Report (StateM Machine) Footprint).run.run s =
      (Disk.reported p made, s) := by
  cases made <;> rfl

/-- **Finding the footprint of an argument**, on a machine, is what it is on its disk. -/
theorem footprintOf_run (s : Machine) (options : Options) (p : Path) :
    (footprintOf host options p).run.run s = (s.disk.footprint? s.cwd options p, s) := by
  unfold footprintOf Disk.footprint?
  refine run_bind_of_looks (absolutePath_run s p) fun given => ?_
  refine run_bind_of_looks (footprintOr_run s p _) fun asGiven => ?_
  have called : (liftM (host.canonical given) : ExceptT Report (StateM Machine) _).run.run s =
      (.ok (s.disk.canonicalize s.cwd given).toOption, s) := run_lift rfl
  -- Whichever way the root was found, the program goes on in the same way.
  have rest : ∀ root, (do
      let primary := (← host.canonical given).getD given
      footprintOr p (Footprint.ofParts primary root (options.name.getD asGiven.name)) :
        ExceptT Report (StateM Machine) Footprint).run.run s =
      (Disk.reported p (Footprint.ofParts ((s.disk.canonicalize s.cwd given).toOption.getD given) root
        (options.name.getD asGiven.name)), s) := fun root =>
    (run_bind_of_gives called).trans (footprintOr_run s p _)
  cases options.root with
  | none => exact rest asGiven.root
  | some root => exact run_bind_of_looks (absolutePath_run s root) rest

/-! ## The disk of a machine -/

/-- **A machine and its disk in step**: seen from a working directory, a program has the same answer on
either, and does the same to the disk. What is said does not count. -/
def sight (cwd : Location) : InStep (StateM Machine) (StateM Disk) where
  Rel x y := ∀ s : Machine, s.cwd = cwd →
    (x.run s).1 = (y.run s.disk).1 ∧ (x.run s).2.disk = (y.run s.disk).2 ∧ (x.run s).2.cwd = cwd
  rel_pure _ _ h := ⟨rfl, rfl, h⟩
  rel_bind {_ _ x y f g} hx hf s h := by
    obtain ⟨answer, disk, same⟩ := hx s h
    have rest := hf (x.run s).1 _ same
    rw [disk] at rest
    change _ = ((g (y.run s.disk).1).run (y.run s.disk).2).1 ∧
      _ = ((g (y.run s.disk).1).run (y.run s.disk).2).2 ∧ _
    rw [← answer]
    exact rest

theorem sight_calls (cwd : Location) :
    (sight cwd).Calls host.toFilesystem (Disk.filesystem cwd) := by
  refine ⟨?_, ?_, ?_, ?_, ?_⟩ <;> (rintro path s rfl; exact ⟨rfl, rfl, rfl⟩)

/-- What is logged is said. -/
theorem sight_log (cwd : Location) (filter : Log.Filter) (colored : Bool) (event : Log.Event) :
    (sight cwd).Rel (host.log filter colored event) (pure ()) := by
  rintro s rfl
  unfold Host.log
  split
  · exact ⟨rfl, rfl, rfl⟩
  · exact ⟨rfl, rfl, rfl⟩

theorem sight_reports (cwd : Location) (filter : Log.Filter) (colored : Bool) :
    (sight cwd).Reports (host.reporter filter colored) .silent :=
  ⟨fun _ _ => sight_log cwd filter colored _, fun _ => sight_log cwd filter colored _⟩

/-- **The machine behind arguments**, all of them handled in order. -/
def behind (s : Machine) (filter : Log.Filter) (colored : Bool) (options : Options) (suffixes : Suffixes)
    (paths : List Path) : Machine :=
  ((handleArguments host (host.reporter filter colored) options suffixes paths).run s).2

end Machine

end Reclaim
