import Reclaim.Proofs.Footprint

/-!
# The two sidecars are siblings

The sidecars of a footprint are named in two ways. The management directory is joined to the root, which
may be spelled in any way; the notification file is the primary path with bytes put behind it. With
suffixes in force both ways end in the same: a name with a suffix behind it is a name, however the suffix
goes on, `..` included.

**The law** (`Footprint.sidecars_are_siblings`): the management directory is one step below the root, and
the notification file stands in the directory of the primary file, under its name with the suffix behind
it. Where the root and the name come from the primary path, the management directory stands there too, and
the two are one path only if the two suffixes are equal.

**Where the law ends.** The primary path `/` has no last name that a suffix could be put behind. And a root
that was given apart need not be absolute: then the management directory is not absolute either.
-/

namespace Reclaim.Footprint

variable {f : Footprint} {s : Suffixes} {n : List UInt8} {l : Location}

/-- **The management directory is one step below the root**, whatever the spelling of the root. -/
theorem components_managementDirectory (f : Footprint) (checked : s.check = .ok ()) :
    IsName (Text.encode (f.name ++ s.management)) ∧
      (f.managementDirectory s).components =
        f.root.components ++ [.name (Text.encode (f.name ++ s.management))] := by
  obtain ⟨suffix, -⟩ := Suffixes.isSuffix_of_check checked
  have name : IsName (Text.encode (f.name ++ s.management)) := by
    rw [Text.encode_append]
    exact (isSingleComponent_iff.mp f.single).suffix suffix
  have inner : (Component.name (Text.encode (f.name ++ s.management))).IsInner := name
  exact ⟨name, Path.components_join_inner f.rooted inner⟩

/-- Below the root, a primary path is that of an entry of a directory. -/
theorem exists_primary_cons (below : f.primary.bytes ≠ [slash]) :
    ∃ (n : List UInt8) (l : Location), Location.IsNamed (n :: l) ∧ f.primary = Location.path (n :: l) := by
  obtain ⟨l, named, primary⟩ := Path.exists_location f.absolute f.canonical
  cases l with
  | nil => exact absurd (congrArg Path.bytes primary) below
  | cons n l => exact ⟨n, l, named, primary⟩

/-- **The notification file stands beside the primary file**, under its name with the suffix behind it. -/
theorem notificationFile_beside (checked : s.check = .ok ()) (named : Location.IsNamed (n :: l))
    (primary : f.primary = Location.path (n :: l)) :
    (f.notificationFile s).Canonical ∧ f.notificationFile s ≠ f.primary ∧
      (f.notificationFile s).parent? = some l.path ∧
      (f.notificationFile s).fileName? = some (n ++ Text.encode s.note) := by
  obtain ⟨note, noteNamed⟩ := notificationFile_path checked named primary
  obtain ⟨-, suffix⟩ := Suffixes.isSuffix_of_check checked
  refine ⟨?_, Path.append_ne_self suffix, ?_, ?_⟩
  · exact Path.canonical_iff_exists_location.mpr ⟨_, noteNamed, note⟩
  · rw [note, Location.parent?_path noteNamed]
  · rw [note, Location.fileName?_path noteNamed]

/-- **The sidecars are siblings**: of the entries of the root the one, of the primary file the other, and
of the primary file both where nothing but its path was given. -/
theorem sidecars_are_siblings (s : Suffixes) (checked : s.check = .ok ()) :
    (∀ primary root name f, ofParts primary root name = .ok f → primary.bytes ≠ [slash] →
      (IsName (Text.encode (name ++ s.management)) ∧
        (f.managementDirectory s).components =
          root.components ++ [.name (Text.encode (name ++ s.management))]) ∧
      (f.notificationFile s).Canonical ∧ f.notificationFile s ≠ primary ∧
      ∃ directory n, primary.parent? = some directory ∧ primary.fileName? = some n ∧
        (f.notificationFile s).parent? = some directory ∧
        (f.notificationFile s).fileName? = some (n ++ Text.encode s.note)) ∧
    (∀ primary f, ofPrimary primary = .ok f →
      (f.managementDirectory s).bytes = primary.bytes ++ Text.encode s.management ∧
      f.managementDirectory s ≠ primary ∧
      (f.managementDirectory s = f.notificationFile s ↔ s.management = s.note)) := by
  refine ⟨fun primary root name f made below => ?_, fun primary f made => ?_⟩
  · obtain ⟨rfl, rfl, rfl⟩ := ofParts_eq_ok made
    obtain ⟨n, l, named, primary⟩ := exists_primary_cons below
    obtain ⟨canonical, other, parent, file⟩ := notificationFile_beside checked named primary
    refine ⟨components_managementDirectory f checked, canonical, other, l.path, n, ?_, ?_, parent, file⟩
    · rw [primary, Location.parent?_path named]
    · rw [primary, Location.fileName?_path named]
  · obtain ⟨suffix, -⟩ := Suffixes.isSuffix_of_check checked
    obtain ⟨n, l, -, rfl, same, -⟩ := ofPrimary_eq_ok made
    have beside := managementDirectory_eq made checked
    rw [same] at beside
    exact ⟨congrArg Path.bytes beside, beside ▸ Path.append_ne_self suffix,
      managementDirectory_eq_notificationFile_iff made checked⟩

/-- A suffix that is `..`, behind a root with dots and separators in it: still one name more. -/
theorem sidecars_are_siblings_sample :
    let s : Suffixes := ⟨"..", ".n"⟩
    let primary := Path.ofString "/d/a"
    let root := Path.ofString "../r//."
    s.check = .ok () ∧ primary.bytes ≠ [slash] ∧
    (∃ f, ofParts primary root "a" = .ok f ∧
      (f.managementDirectory s).components =
        [.up, .name (Text.encode "r"), .name (Text.encode "a..")] ∧
      (f.notificationFile s).fileName? = some (Text.encode "a.n")) ∧
    ∃ f, ofPrimary primary = .ok f ∧ (f.managementDirectory s).bytes = Text.encode "/d/a.." ∧
      f.managementDirectory s ≠ f.notificationFile s := by
  intro s primary root
  have checked : s.check = .ok () := by decide
  have below : primary.bytes ≠ [slash] := by decide
  obtain ⟨given, alone⟩ := sidecars_are_siblings s checked
  refine ⟨checked, below, ⟨_, rfl, ?_, ?_⟩, _, rfl, ?_, ?_⟩
  · exact (given primary root "a" _ rfl below).1.2
  · obtain ⟨-, -, -, directory, n, -, file, -, note⟩ := given primary root "a" _ rfl below
    obtain rfl : n = Text.encode "a" := (Option.some.inj file).symm
    exact note
  · exact (alone primary _ rfl).1
  · exact mt (alone primary _ rfl).2.2.mp (by decide)

end Reclaim.Footprint
