import Reclaim.Proofs.Command.Turns

/-!
# What an argument names is what a run deletes

A run is given paths and deletes databases. The footprint of an argument is made from the path that the
argument is made into, so where that names the node that the argument does, so does the footprint: what is
found at its primary path is the database that the argument names (`Disk.HasPlace.isDatabase`), and the
sidecars are siblings of one or the other, or stand in the root that was asked for.

**The law** (`straight_argument_named`): with a straight argument nothing goes but what belongs to the
database that it names (`Disk.Owns`). Where the directory of its last name is not there, and no other root
was asked for, nothing goes at all: what is named after the argument is in that directory, and no call
gets there.

**A `..` behind a directory that is not there** is where the law ends (`missing_directory_skipped`). The
argument names nothing, and the run deletes the database that the text has come to.
-/

namespace Reclaim

variable {d : Disk} {cwd j k l t : Location} {p : Path} {n : List UInt8} {options : Options}
  {suffixes : Suffixes} {f : Footprint}

/-! ## The paths of a footprint -/

namespace Footprint

/-- **The management directory in a canonical root** is the entry with its name. -/
theorem managementDirectory_path (checked : suffixes.check = .ok ()) (named : l.IsNamed)
    (root : f.root = Location.path l) :
    f.managementDirectory suffixes = Location.path (Text.encode (f.name ++ suffixes.management) :: l) ∧
      Location.IsNamed (Text.encode (f.name ++ suffixes.management) :: l) := by
  obtain ⟨suffix, -⟩ := Suffixes.isSuffix_of_check checked
  have name : IsName (Text.encode (f.name ++ suffixes.management)) := by
    rw [Text.encode_append]
    exact (isSingleComponent_iff.mp f.single).suffix suffix
  refine ⟨?_, .cons name named⟩
  rw [managementDirectory, root]
  exact Location.path_join named name.2.1

end Footprint

namespace Disk

/-- **What belongs to the database that an argument names**, for given suffixes: the database, the
notification file beside its path, and the management directory with what is exposed in it. For a dry run
that is nothing, and nothing where the directory of the last name is not there, unless another root was asked
for. -/
def Owns (d : Disk) (cwd : Location) (options : Options) (suffixes : Suffixes) (p : Path)
    (k : Location) : Prop :=
  options.dryRun = false ∧
  (options.root = none → p.fileName? ≠ none → ∃ t, d.resolve cwd (holder p) = .ok t) ∧
  ∃ f, d.HasFootprint cwd options p f ∧
    (d.IsDatabase cwd p k ∨
      d.find cwd (f.notificationFile suffixes) = .ok k ∨
      d.find cwd (f.managementDirectory suffixes) = .ok k ∨
      d.Exposes cwd (f.managementDirectory suffixes) k)

/-- **The primary path of an argument** is that of the real location behind its place. -/
theorem HasFootprint.primary_eq (h : d.HasFootprint cwd options p f) (place : d.HasPlace cwd p j) :
    f.primary = (d.real cwd j).path := by
  obtain ⟨given, -, primary, -⟩ := h
  rw [primary, place.absolute, canonicalize_path]

/-- Nothing leads anywhere through an unheld location. -/
theorem IsUnheld.find (unheld : d.IsUnheld cwd l) (named : Location.IsNamed (n :: l)) :
    d.find cwd (Location.path (n :: l)) ≠ .ok k := fun found =>
  unheld.locate_path named (find_eq_ok_iff.mp found).2

theorem IsUnheld.resolve (unheld : d.IsUnheld cwd l) (named : Location.IsNamed (n :: l)) :
    d.resolve cwd (Location.path (n :: l)) ≠ .ok t := by
  intro resolved
  obtain ⟨k, located⟩ := exists_locate_of_resolve named resolved
  exact unheld.locate_path named located

/-- **A footprint in an unheld directory** confines a run to nothing. -/
theorem not_confines_of_isUnheld (footprint : d.HasFootprint cwd options p f)
    (checked : suffixes.check = .ok ()) (default : options.root = none)
    (place : d.HasPlace cwd p (n :: l)) (unheld : d.IsUnheld cwd l) : ¬ d.Confines cwd suffixes f k := by
  have named := place.named
  have primary : f.primary = Location.path (n :: l) := by
    rw [footprint.primary_eq place, real]
    cases traced : d.trace cwd (Location.path (n :: l)) with
    | error failure => rfl
    | ok t => exact absurd (resolve_of_trace traced) (unheld.resolve named)
  have root : f.root = Location.path l := by
    obtain ⟨-, root, -⟩ := footprint.parts named place.absolute
    rw [root, default, Option.elim_none]
  obtain ⟨note, noteNamed⟩ := Footprint.notificationFile_path checked named primary
  obtain ⟨management, managementNamed⟩ := Footprint.managementDirectory_path checked named.tail root
  unfold Confines
  rw [primary, note, management]
  rintro (⟨n', l', e, -, led, -⟩ | struck | struck | struck)
  · exact unheld.resolve managementNamed (follow_eq_ok_iff.mp led).2
  · exact unheld.find managementNamed struck.1
  · exact unheld.find named struck.1
  · exact unheld.find noteNamed struck.1

/-- **What is at stake with a straight argument belongs to the database that it names.** -/
theorem IsStraight.owns_of_atStake (straight : d.IsStraight cwd p) (checked : suffixes.check = .ok ())
    (stake : d.AtStake cwd options suffixes p k) : d.Owns cwd options suffixes p k := by
  obtain ⟨wet, start, f, footprint, confined⟩ := stake
  obtain ⟨j, place⟩ := straight.exists_place start
  refine ⟨wet, fun default file => ?_, f, footprint, ?_⟩
  · obtain ⟨n, file⟩ := Option.ne_none_iff_exists'.mp file
    obtain ⟨l, rfl, held | unheld⟩ := place.held n file
    · exact held
    · exact absurd confined (not_confines_of_isUnheld footprint checked default place unheld)
  · rcases confined with exposed | struck | struck | struck
    · exact .inr (.inr (.inr exposed))
    · exact .inr (.inr (.inl struck.1))
    · refine .inl (place.isDatabase ?_)
      rw [← footprint.primary_eq place]
      exact struck.1
    · exact .inr (.inl struck.1)

end Disk

/-- **A straight argument is acted on as the node that it names.** -/
theorem straight_argument_named (s : Machine) (p : Path) (straight : s.disk.IsStraight s.cwd p) :
    -- The path that the argument is made into names the node, or nothing if the argument names none.
    (s.disk.lookup s.cwd = some .directory →
      ∃ q, (absolutePath Machine.host p).run.run s = (.ok q, s)) ∧
    (∀ q t, (absolutePath Machine.host p).run.run s = (.ok q, t) → t = s ∧ q.isAbsolute = true ∧
      (∀ k, s.disk.locate s.cwd q = .ok k ↔ s.disk.locate s.cwd p = .ok k) ∧
      (∀ k, s.disk.find s.cwd q = .ok k ↔
        Disk.requireCallable q = .ok () ∧ s.disk.locate s.cwd p = .ok k) ∧
      (Disk.requireCallable p = .ok () → Disk.requireCallable q = .ok () →
        ∀ k, s.disk.find s.cwd q = .ok k ↔ s.disk.find s.cwd p = .ok k)) ∧
    -- One argument of a run, on the machine that it meets.
    (∀ filter colored options suffixes, suffixes.check = .ok () →
      s.disk.Loses ((handleArgument Machine.host (Machine.host.reporter filter colored) options suffixes
        p).run s).2.disk (s.disk.Owns s.cwd options suffixes p)) ∧
    -- A run with this argument, and the suffixes that are in force in it.
    (∀ around arguments options, Options.read arguments = .ok options → options.paths = [p] →
      s.disk.Loses ((run Machine.host around arguments).run s).2.disk fun k =>
        ∃ suffixes, s.Accepts arguments options suffixes ∧ s.disk.Owns s.cwd options suffixes p k) := by
  refine ⟨fun working => ?_, fun q t made => ?_, fun filter colored options suffixes checked => ?_,
    fun around arguments options read single => ?_⟩
  · exact ⟨_, Machine.absolutePath_gives (Disk.start_of_working p working)⟩
  · obtain ⟨given, rfl⟩ := Prod.mk.inj ((Machine.absolutePath_run s p).symm.trans made)
    obtain ⟨start, rfl⟩ := Disk.absolute?_eq_ok_iff.mp given
    obtain ⟨j, place⟩ := straight.exists_place start
    refine ⟨rfl, ?_, fun k => ?_, fun k => place.find_absolute, fun callable taken k => ?_⟩
    · rw [place.absolute]
      exact Location.isAbsolute_path j
    · rw [place.absolute, place.same]
    · rw [place.find_absolute, Disk.find_eq_ok_iff, and_iff_right callable, and_iff_right taken]
  · have loses := Machine.loses_handleArgument s filter colored options suffixes p
    exact loses.mono fun k => straight.owns_of_atStake checked
  · refine (Machine.loses_run s around arguments).mono ?_
    rintro k ⟨options', suffixes, accepted, done, q, rest, split, stake⟩
    obtain rfl := Except.ok.inj (read.symm.trans accepted.read)
    rw [single] at split
    replace split : [p] = done ++ q :: rest := split
    obtain ⟨rfl, rfl⟩ : done = [] ∧ q = p := by
      cases done with
      | nil => exact ⟨rfl, (List.cons.inj split).1.symm⟩
      | cons first done => exact absurd (List.cons.inj split).2.symm (by simp)
    exact ⟨suffixes, accepted, straight.owns_of_atStake (check_of_load accepted.loaded) stake⟩

/-- The sample, from its root: a way through a directory and back names the database at `/a`. -/
theorem straight_argument_named_sample :
    let s : Machine := ⟨.sample, [], "", ""⟩
    let p := Path.ofString "e/../a"
    (Disk.sample.IsStraight [] p ∧ Disk.sample.locate [] p = .ok [Text.encode "a"]) ∧
      ∃ q, (absolutePath Machine.host p).run.run s = (.ok q, s) ∧
        Disk.sample.find [] q = .ok [Text.encode "a"] := by
  intro s p
  have straight : Disk.sample.IsStraight [] p :=
    ⟨by decide, by decide, .inl ⟨by decide, [], rfl⟩⟩
  have located : Disk.sample.locate [] p = .ok [Text.encode "a"] := rfl
  obtain ⟨-, named, -⟩ := straight_argument_named s p straight
  have made : (absolutePath Machine.host p).run.run s = (.ok (.ofString "/a"), s) := rfl
  obtain ⟨-, -, -, found, -⟩ := named _ s made
  exact ⟨⟨straight, located⟩, _, made, (found _).mpr ⟨rfl, located⟩⟩

/-- **A missing directory is skipped**, and what the text has come to is deleted. And where an argument
names nothing, the notification file beside it is deleted all the same. A short argument that is made into a
path that is too long is found, and the path is not. -/
theorem missing_directory_skipped :
    (let p := Path.ofString "missing/../a"
      let s : Machine := ⟨.sample, [], "", ""⟩
      (p.EndsPlainly ∧ Disk.sample.lookup [] = some .directory ∧
        Options.read (words ["missing/../a"]) = .ok { paths := [p] }) ∧
      Disk.sample.find [] p = .error .notFound ∧
      (absolutePath Machine.host p).run.run s = (.ok (.ofString "/a"), s) ∧
      Disk.sample.find [] (.ofString "/a") = .ok [Text.encode "a"] ∧
      ((run Machine.host {} (words ["missing/../a"])).run s).2.disk.lookup [Text.encode "a"] = none) ∧
    (let p := Path.ofString "a"
      let s : Machine := ⟨.orphaned, [], "", ""⟩
      Options.read (words ["a"]) = .ok { paths := [p] } ∧
      Disk.orphaned.find [] p = .error .notFound ∧
      Disk.orphaned.lookup [Text.encode "a.note"] = some (.file (.zeros 2)) ∧
      ((run Machine.host {} (words ["a"])).run s).2.disk.lookup [Text.encode "a.note"] = none) ∧
    (let p := Path.ofString "a.note"
      let s : Machine := ⟨.deep, Location.deep 16, "", ""⟩
      (p.EndsPlainly ∧ Disk.deep.lookup (Location.deep 16) = some .directory) ∧
      Disk.deep.find (Location.deep 16) p = .ok (Text.encode "a.note" :: Location.deep 16) ∧
      ∃ q, (absolutePath Machine.host p).run.run s = (.ok q, s) ∧
        ∀ k, Disk.deep.find (Location.deep 16) q ≠ .ok k) := by
  refine ⟨⟨⟨by decide, rfl, rfl⟩, rfl, rfl, rfl, by decide +kernel⟩,
    ⟨rfl, rfl, rfl, by decide +kernel⟩, ?_⟩
  intro p s
  have start : Disk.deep.lookup (Location.deep 16) = some .directory := by decide +kernel
  have traced : Disk.deep.trace (Location.deep 16) (holder p) = .ok (Location.deep 16) := by
    decide +kernel
  obtain ⟨absolute, -⟩ := Disk.absolute_of_traced (n := Text.encode "a.note") rfl traced
  have far : ¬ Location.IsInReach (Text.encode "a.note" :: Location.deep 16) := by decide +kernel
  refine ⟨⟨by decide, start⟩, by decide +kernel, _, Machine.absolutePath_gives start, fun k found => ?_⟩
  have callable := (Disk.find_eq_ok_iff.mp found).1
  rw [absolute] at callable
  exact far (Disk.requireCallable_eq_ok.mp callable).2

end Reclaim
