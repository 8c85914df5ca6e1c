import Reclaim.Proofs.Command.Effect
import Reclaim.Proofs.Disk.Loss
import Reclaim.Proofs.Footprint.Acceptance
import Reclaim.Proofs.Path.Normalized

/-!
# Which arguments have a footprint

An argument is made into a path in one of two ways, and which one is a matter of the disk. Both keep the
last name. So whether there is a footprint, with its root and its name taken from the argument, is a matter
of the text alone (`Disk.exists_footprint_iff`): the normalized path has to make one, and the argument has
to start in a directory.

Hence the disk enters by the working directory only. What has no footprint on a disk has none on a smaller
one (`Disk.Within.exists_footprint`), and two arguments with the same components both have one, or neither
(`Disk.exists_footprint_congr`).
-/

namespace Reclaim

/-! ## The normalized path of an argument -/

namespace Path

variable {p q : Path} {cwd l : Location} {n : List UInt8} {way : List Component}

/-- **The normalized path of an argument** keeps its last name. -/
theorem exists_lexical_cons (named : (p.start cwd).IsNamed) (file : p.fileName? = some n) :
    ∃ k, Location.IsNamed (n :: k) ∧ p.lexical cwd = Location.path (n :: k) := by
  obtain ⟨way, before⟩ := exists_inner_last file
  have inner : ∀ c ∈ way, c.IsInner := fun c hc =>
    isInner_of_mem_inner (p := p) (before ▸ List.mem_append_left _ hc)
  obtain ⟨k, kept, settled⟩ := exists_foldl_settle [.root] rfl inner named
  have last : Location.IsNamed (n :: k) := .cons (isName_of_fileName? file) kept
  refine ⟨k, last, ?_⟩
  rw [lexical_eq named, before, List.foldl_append, Location.stack, settled]
  change ofComponents (Location.stack (n :: k)).reverse = _
  rw [Location.reverse_stack, Location.ofComponents_components last]

/-- **Arguments with the same components** start in the same place and have the same normalized path. -/
theorem Alike.lexical (alike : p.Alike q) (named : (p.start cwd).IsNamed) :
    p.start cwd = q.start cwd ∧ p.lexical cwd = q.lexical cwd := by
  have absolute : p.isAbsolute = q.isAbsolute := by
    rw [Bool.eq_iff_iff, ← root_mem_components_iff, ← root_mem_components_iff, show p.components = _ from alike]
  have start : p.start cwd = q.start cwd := by
    rw [start, start, absolute]
  refine ⟨start, ?_⟩
  rw [lexical_eq named, lexical_eq (start ▸ named), start, ← filter_components p, ← filter_components q,
    show p.components = _ from alike]

end Path

namespace Disk

variable {d left : Disk} {cwd l : Location} {options : Options} {p q : Path} {n : List UInt8}

/-! ## Arguments with a footprint -/

/-- An argument that starts in a directory is made into a path with the same last name. -/
theorem exists_absolute_cons (start : d.lookup (p.start cwd) = some .directory)
    (file : p.fileName? = some n) :
    ∃ k, Location.IsNamed (n :: k) ∧ d.absolute cwd p = Location.path (n :: k) := by
  by_cases traced : ∃ t, d.trace cwd (holder p) = .ok t
  · obtain ⟨t, traced⟩ := traced
    obtain ⟨absolute, named⟩ := absolute_of_traced file traced
    exact ⟨t, named, absolute⟩
  · rw [absolute_of_untraced fun h => traced h.2]
    exact Path.exists_lexical_cons (isNamed_of_lookup start) file

/-- **An argument and its text** come to two locations with the same last name, or both to the root. -/
theorem exists_locations (start : d.lookup (p.start cwd) = some .directory) :
    ∃ l m : Location, l.IsNamed ∧ m.IsNamed ∧ d.absolute cwd p = l.path ∧ p.lexical cwd = m.path ∧
      l.head? = m.head? := by
  cases file : p.fileName? with
  | none =>
    obtain ⟨m, named, lexical⟩ := p.exists_location_lexical cwd
    exact ⟨m, m, named, named, (absolute_of_untraced fun h => h.1 file).trans lexical, lexical, rfl⟩
  | some n =>
    obtain ⟨l, named, absolute⟩ := exists_absolute_cons start file
    obtain ⟨m, namedToo, lexical⟩ := Path.exists_lexical_cons (isNamed_of_lookup start) file
    exact ⟨n :: l, n :: m, named, namedToo, absolute, lexical, rfl⟩

/-- **Whether it makes a footprint** is seen from the normalized path. -/
theorem exists_ofPrimary_absolute_iff (start : d.lookup (p.start cwd) = some .directory) :
    (∃ f, Footprint.ofPrimary (d.absolute cwd p) = .ok f) ↔
      ∃ f, Footprint.ofPrimary (p.lexical cwd) = .ok f := by
  obtain ⟨l, m, named, namedToo, absolute, lexical, same⟩ := exists_locations start
  rw [absolute, lexical, Footprint.exists_ofPrimary_path_iff named,
    Footprint.exists_ofPrimary_path_iff namedToo, same]

/-- The real location behind a named one is named. -/
theorem isNamed_real (named : l.IsNamed) : (d.real cwd l).IsNamed := by
  unfold real
  split
  · rename_i traced
    obtain ⟨e, stands, -⟩ := isFirm_of_resolve (resolve_of_trace traced)
    exact isNamed_of_lookup stands
  · exact named

/-- **An argument has the footprint that its path makes**, with the root and the name taken from it. The
primary file may be another one, but its path is canonical all the same. -/
theorem exists_footprint_of_given {given : Footprint} (start : d.lookup (p.start cwd) = some .directory)
    (rootless : options.root = none) (nameless : options.name = none)
    (made : Footprint.ofPrimary (d.absolute cwd p) = .ok given) :
    ∃ f, d.footprint? cwd options p = .ok f ∧ f.primary.Canonical ∧ f.root = given.root ∧
      f.name = given.name := by
  obtain ⟨n, l, named, absolute, -⟩ := Footprint.ofPrimary_eq_ok made
  have real : (d.canonicalize cwd (d.absolute cwd p)).toOption.getD (d.absolute cwd p) =
      (d.real cwd (n :: l)).path := by
    rw [absolute, canonicalize_path]
  have canonical : (d.real cwd (n :: l)).path.Canonical :=
    Path.canonical_iff_exists_location.mpr ⟨_, isNamed_real named, rfl⟩
  obtain ⟨f, parts⟩ := Footprint.exists_ofParts_iff.mpr
    ⟨canonical, isSingleComponent_iff.mp given.single, given.rooted⟩
  obtain ⟨primary, root, name⟩ := Footprint.ofParts_eq_ok parts
  refine ⟨f, bind_eq_ok.mpr ⟨_, absolute?_eq_ok_iff.mpr ⟨start, rfl⟩, ?_⟩, primary ▸ canonical, root, name⟩
  refine bind_eq_ok.mpr ⟨given, mapError_eq_ok.mpr made, ?_⟩
  rw [rootless, nameless, real]
  exact mapError_eq_ok.mpr parts

/-- **Which arguments have a footprint**, with the root and the name taken from them: those that start in a
directory and the normalized path of which makes one. -/
theorem exists_footprint_iff (rootless : options.root = none) (nameless : options.name = none) :
    (∃ f, d.footprint? cwd options p = .ok f) ↔
      d.lookup (p.start cwd) = some .directory ∧ ∃ f, Footprint.ofPrimary (p.lexical cwd) = .ok f := by
  constructor
  · rintro ⟨f, made⟩
    have start := start_of_footprint made
    obtain ⟨given, primary, -⟩ := hasFootprint_of_ok made
    exact ⟨start, (exists_ofPrimary_absolute_iff start).mp ⟨given, primary⟩⟩
  · rintro ⟨start, lexical⟩
    obtain ⟨given, primary⟩ := (exists_ofPrimary_absolute_iff start).mpr lexical
    obtain ⟨f, made, -⟩ := exists_footprint_of_given start rootless nameless primary
    exact ⟨f, made⟩

/-- **What has a footprint on a smaller disk** has one. -/
theorem Within.exists_footprint (within : left.Within d) (rootless : options.root = none)
    (nameless : options.name = none) (made : ∃ f, left.footprint? cwd options p = .ok f) :
    ∃ f, d.footprint? cwd options p = .ok f := by
  obtain ⟨start, text⟩ := (exists_footprint_iff rootless nameless).mp made
  exact (exists_footprint_iff rootless nameless).mpr ⟨within _ _ start, text⟩

/-- **Of two arguments with the same components** both have a footprint, or neither. -/
theorem exists_footprint_congr (rootless : options.root = none) (nameless : options.name = none)
    (alike : p.Alike q) :
    (∃ f, d.footprint? cwd options p = .ok f) ↔ ∃ f, d.footprint? cwd options q = .ok f := by
  have half : ∀ {p q : Path}, p.Alike q → (∃ f, d.footprint? cwd options p = .ok f) →
      ∃ f, d.footprint? cwd options q = .ok f := by
    intro p q alike made
    obtain ⟨start, text⟩ := (exists_footprint_iff rootless nameless).mp made
    obtain ⟨sameStart, sameText⟩ := alike.lexical (isNamed_of_lookup start)
    exact (exists_footprint_iff rootless nameless).mpr ⟨sameStart ▸ start, sameText ▸ text⟩
  exact ⟨half alike, half alike.symm⟩

end Disk

end Reclaim
