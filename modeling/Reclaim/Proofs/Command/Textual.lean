import Reclaim.Proofs.Command.Validity
import Reclaim.Proofs.Disk.Listed

/-!
# What an argument lacks is seen from its text

An argument goes through up to two canonical paths and two rounds of checks before it has a footprint, and
what stands on the disk has a say in each. Whether there is a footprint is a matter of the text all the
same: the path that the argument is made into is always canonical, and it ends as the normalized text does.

**The law** (`Machine.footprint_textual`), where the working directory stands and neither a root nor a name
is asked for. There is a footprint where the normalized text is not the root and its last name is UTF-8, and
the footprint has that name. Of an argument without one only these two faults are reported; that a path is
relative or not canonical, that a name is no single component, or that an argument is empty, never is
(`FootprintError.BlamesSpelling`). The primary path and the root of a footprint are absolute canonical
paths.

**What is not a matter of the text** is which database it is: the root may be another directory than in the
text, and the primary file any other, behind a link.
-/

namespace Reclaim

/-! ## What an error says -/

namespace FootprintError

/-- **Errors about the spelling** of a path or a name, and about an empty argument. -/
def BlamesSpelling : FootprintError → Prop
  | .relativePrimary _ | .nonCanonicalPrimary _ | .nameNotAComponent _ | .argument (.empty _) => True
  | .nonUtf8Name _ | .argument (.missing _) => False

/-- How their messages begin, as far as it takes to tell them from the others. -/
def spellingOpenings : List (List Char) := ["Non-empty".toList, "Primary p".toList, "Logical n".toList]

theorem take_message {e : FootprintError} {s t : String} (same : e.message = s ++ t)
    (long : 9 ≤ s.toList.length) : e.message.toList.take 9 = s.toList.take 9 := by
  rw [same, String.toList_append, List.take_append_of_le_length long]

/-- **What blames the spelling says so**: it is seen from how the message begins. -/
theorem blamesSpelling_iff (e : FootprintError) :
    e.BlamesSpelling ↔ e.message.toList.take 9 ∈ spellingOpenings := by
  cases e with
  | argument cause =>
    cases cause with
    | empty parameter =>
      rw [take_message (s := "Non-empty '") String.append_assoc (by decide)]
      exact iff_of_true trivial (by decide)
    | missing parameter =>
      rw [take_message (s := "Nonnull '") String.append_assoc (by decide)]
      exact iff_of_false id (by decide)
  | relativePrimary path =>
    rw [take_message (s := "Primary path must be absolute: ") rfl (by decide)]
    exact iff_of_true trivial (by decide)
  | nonCanonicalPrimary path =>
    rw [take_message (s := "Primary path must be canonical (no '.' or '..' components): ") rfl
      (by decide)]
    exact iff_of_true trivial (by decide)
  | nameNotAComponent name =>
    rw [take_message (s := "Logical name must be a single path component: ") rfl (by decide)]
    exact iff_of_true trivial (by decide)
  | nonUtf8Name path =>
    rw [take_message (s := "Primary file name is not valid UTF-8: ") rfl (by decide)]
    exact iff_of_false id (by decide)

end FootprintError

variable {d : Disk} {cwd l m : Location} {options : Options} {p : Path}

/-! ## From the text to the footprint -/

namespace Location

/-- A location with a last name is not the root. -/
theorem path_bytes_ne_slash {n : List UInt8} (named : l.IsNamed) (last : l.head? = some n) :
    l.path.bytes ≠ [slash] := by
  intro root
  obtain rfl : l = [] := path_inj named nofun (congrArg Path.mk root)
  cases last

theorem fileName?_path_eq_head? (named : l.IsNamed) : l.path.fileName? = l.head? := by
  cases l with
  | nil => rfl
  | cons n l => exact fileName?_path named

end Location

/-- The report of an argument that has no footprint. -/
def Footprint.refusal (argument : Path) (e : FootprintError) : Report :=
  Report.within (.ofCause e.message) ("Invalid database path " ++ argument.text)

theorem Footprint.refusal_ne {e other : FootprintError} (spares : ¬ e.BlamesSpelling)
    (blames : other.BlamesSpelling) : refusal p e ≠ refusal p other := by
  intro same
  have message : e.message = other.message := (List.cons.inj (congrArg Report.causes same)).1
  rw [FootprintError.blamesSpelling_iff, message, ← FootprintError.blamesSpelling_iff] at spares
  exact spares blames

namespace Disk

/-- An argument whose path makes no footprint is reported with the fault of that path. -/
theorem footprint?_of_refused {e : FootprintError} (start : d.lookup (p.start cwd) = some .directory)
    (refused : Footprint.ofPrimary (d.absolute cwd p) = .error e) :
    d.footprint? cwd options p = .error (Footprint.refusal p e) := by
  have given : d.absolute? cwd p = .ok (d.absolute cwd p) := absolute?_eq_ok_iff.mpr ⟨start, rfl⟩
  unfold footprint?
  rw [given]
  change (reported p (Footprint.ofPrimary (d.absolute cwd p)) >>= _) = _
  rw [refused]
  rfl

/-- **What comes of an argument** is seen from the location that its text comes to. -/
theorem footprint?_cases (start : d.lookup (p.start cwd) = some .directory)
    (rootless : options.root = none) (nameless : options.name = none) :
    ∃ m : Location, m.IsNamed ∧ p.lexical cwd = m.path ∧
      ((m = [] ∧
        d.footprint? cwd options p = .error (Footprint.refusal p (.argument (.missing "root_directory")))) ∨
      (∃ n, m.head? = some n ∧ (∀ name, Text.encode name ≠ n) ∧
        d.footprint? cwd options p = .error (Footprint.refusal p (.nonUtf8Name (d.absolute cwd p)))) ∨
      ∃ f, m.head? = some (Text.encode f.name) ∧ d.footprint? cwd options p = .ok f ∧
        f.root.Canonical ∧ f.primary.Canonical) := by
  obtain ⟨l, m, named, namedToo, absolute, lexical, same⟩ := exists_locations start
  refine ⟨m, namedToo, lexical, ?_⟩
  rw [← same]
  rcases Footprint.ofPrimary_path_cases named with
    ⟨rfl, refused⟩ | ⟨n, k, rfl, unread, refused⟩ | ⟨name, k, given, rfl, made, root, rfl⟩
  · rw [← absolute] at refused
    exact .inl ⟨List.head?_eq_none_iff.mp same.symm, footprint?_of_refused start refused⟩
  · rw [← absolute] at refused
    exact .inr (.inl ⟨n, rfl, unread, footprint?_of_refused start refused⟩)
  · rw [← absolute] at made
    obtain ⟨f, made, primary, sameRoot, name⟩ := exists_footprint_of_given start rootless nameless made
    refine .inr (.inr ⟨f, congrArg (some ∘ Text.encode) name.symm, made, ?_, primary⟩)
    exact Path.canonical_iff_exists_location.mpr ⟨k, named.tail, sameRoot.trans root⟩

end Disk

namespace Machine

/-- **Whether an argument has a footprint is seen from its text**, and so is what it lacks. -/
theorem footprint_textual (s : Machine) (options : Options) (p : Path)
    (working : s.disk.lookup s.cwd = some .directory) (rootless : options.root = none)
    (nameless : options.name = none) :
    let text := (s.cwd.path.join p).normalize
    let made := (footprintOf host options p).run.run s
    made.2 = s ∧
    ((∃ f, made.1 = .ok f) ↔
      text.bytes ≠ [slash] ∧ ∃ name, text.fileName? = some (Text.encode name)) ∧
    (∀ f, made.1 = .ok f →
      text.fileName? = some (Text.encode f.name) ∧ f.root.Canonical ∧ f.primary.Canonical) ∧
    (∀ report, made.1 = .error report →
      (text.bytes = [slash] → report = Footprint.refusal p (.argument (.missing "root_directory"))) ∧
      (text.bytes ≠ [slash] → report = Footprint.refusal p (.nonUtf8Name (s.disk.absolute s.cwd p))) ∧
      ∀ e : FootprintError, e.BlamesSpelling → report ≠ Footprint.refusal p e) := by
  intro text made
  have start := Disk.start_of_working p working
  obtain ⟨m, named, lexical, which⟩ := Disk.footprint?_cases start rootless nameless
  rw [Path.lexical_eq_normalize] at lexical
  have run : made = (s.disk.footprint? s.cwd options p, s) := footprintOf_run s options p
  rw [run, show text = m.path from lexical, Location.fileName?_path_eq_head? named]
  refine ⟨rfl, ?_⟩
  rcases which with ⟨rfl, refused⟩ | ⟨n, last, unread, refused⟩ | ⟨f, last, given, root, primary⟩
  · rw [refused]
    refine ⟨iff_of_false nofun fun h => h.1 rfl, nofun, ?_⟩
    rintro report ⟨⟩
    exact ⟨fun _ => rfl, fun below => absurd rfl below, fun e => Footprint.refusal_ne id⟩
  · rw [refused, last]
    have below := Location.path_bytes_ne_slash named last
    refine ⟨iff_of_false nofun ?_, nofun, ?_⟩
    · rintro ⟨-, name, written⟩
      exact unread name (Option.some.inj written).symm
    · rintro report ⟨⟩
      exact ⟨fun root => absurd root below, fun _ => rfl, fun e => Footprint.refusal_ne id⟩
  · rw [given, last]
    have below := Location.path_bytes_ne_slash named last
    refine ⟨iff_of_true ⟨f, rfl⟩ ⟨below, f.name, rfl⟩, ?_, nofun⟩
    rintro g ⟨⟩
    exact ⟨rfl, root, primary⟩

/-- The sample, from its root. A directory that is not there is taken back by `..`, and the text names the
database at `/a`; taking back a name that is there leaves the root, which is none. -/
theorem footprint_textual_sample :
    let s : Machine := ⟨.sample, [], "", ""⟩
    let skipped := Path.ofString "missing/../a"
    let emptied := Path.ofString "a/.."
    (s.disk.lookup s.cwd = some .directory ∧ ({} : Options).root = none ∧ ({} : Options).name = none) ∧
    (∃ f, ((footprintOf host {} skipped).run.run s).1 = .ok f ∧ f.name = "a" ∧ f.root.Canonical) ∧
    ∀ f, ((footprintOf host {} emptied).run.run s).1 ≠ .ok f := by
  intro s skipped emptied
  have working : s.disk.lookup s.cwd = some .directory := rfl
  obtain ⟨-, found, parts, -⟩ := footprint_textual s {} skipped working rfl rfl
  obtain ⟨f, made⟩ := found.mpr ⟨by decide, "a", rfl⟩
  obtain ⟨file, root, -⟩ := parts f made
  have last : (s.cwd.path.join skipped).normalize.fileName? = some (Text.encode "a") := rfl
  have name : f.name = "a" := Text.encode_injective (Option.some.inj (file.symm.trans last))
  obtain ⟨-, none, -⟩ := footprint_textual s {} emptied working rfl rfl
  exact ⟨⟨working, rfl, rfl⟩, ⟨f, made, name, root⟩, fun f made => (none.mp ⟨f, made⟩).1 (by decide)⟩

end Machine

end Reclaim
