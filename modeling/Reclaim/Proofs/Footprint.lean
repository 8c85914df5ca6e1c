import Reclaim.Footprint
import Reclaim.Proofs.Path.Location
import Reclaim.Proofs.Suffixes

/-!
# Footprints of a primary path

What is known of a footprint once it has been built. From three parts it holds these three parts. From
a primary path alone it holds that path, the directory in which it is an entry, and its last name: the
path is then that of a location below the root (`Footprint.ofPrimary_eq_ok`), and the other two are
read off it.

So with suffixes in force the two sidecars of such a footprint are **siblings** of the primary file:
both have the bytes of its path, with a suffix behind them that holds no separator
(`Footprint.managementDirectory_eq`). Of any other footprint this holds for the notification file
alone; the management directory stands in a root that need have nothing to do with the primary path.
-/

namespace Reclaim

/-! ## Names with suffixes -/

theorem IsName.append {n suffix : List UInt8} (h : IsName n) (nonempty : suffix ≠ [])
    (noSlash : slash ∉ suffix) : IsName (n ++ suffix) := by
  obtain ⟨filled, single, notHere, -⟩ := h
  obtain ⟨a, rest, rfl⟩ := List.exists_cons_of_ne_nil filled
  have more : rest ++ suffix ≠ [] := List.append_ne_nil_of_right_ne_nil rest nonempty
  refine ⟨List.cons_ne_nil _ _, ?_, fun here => more (List.cons.inj here).2, fun up => ?_⟩
  · rw [List.mem_append, not_or]
    exact ⟨single, noSlash⟩
  · obtain ⟨rfl, last⟩ := List.cons.inj up
    rcases List.append_eq_singleton_iff.mp last with ⟨rfl, -⟩ | ⟨-, nothing⟩
    · exact notHere rfl
    · exact nonempty nothing

/-- **A name with a suffix in force behind it is a name.** -/
theorem IsName.suffix {n : List UInt8} {value : String} (h : IsName n) (suffix : isSuffix value = true) :
    IsName (n ++ Text.encode value) :=
  h.append (isSuffix_bytes suffix).1 (isSuffix_bytes suffix).2

theorem IsName.note {n : List UInt8} {suffixes : Suffixes} (checked : suffixes.check = .ok ())
    (h : IsName n) : IsName (n ++ Text.encode suffixes.note) :=
  h.suffix (Suffixes.isSuffix_of_check checked).2

namespace Path

/-- Paths with texts behind them differ as the texts do. -/
theorem append_inj {p : Path} {s t : String} : p.append s = p.append t ↔ s = t := by
  constructor
  · intro same
    exact Text.encode_injective (List.append_cancel_left (congrArg bytes same))
  · rintro rfl
    rfl

theorem append_ne_self {p : Path} {s : String} (h : isSuffix s = true) : p.append s ≠ p :=
  fun same => (isSuffix_bytes h).1 (List.append_right_eq_self.mp (congrArg bytes same))

end Path

namespace Footprint

/-- A footprint made from parts holds them. -/
theorem ofParts_eq_ok {primary root : Path} {name : String} {f : Footprint}
    (h : ofParts primary root name = .ok f) :
    f.primary = primary ∧ f.root = root ∧ f.name = name := by
  unfold ofParts at h
  split at h
  · cases h
  split at h
  · cases h
  split at h
  · split at h
    · split at h
      · split at h
        · cases h
        · cases h
          exact ⟨rfl, rfl, rfl⟩
      · cases h
    · cases h
  · cases h

/-- **What a footprint holds makes it again.** -/
theorem ofParts_of_footprint (f : Footprint) : ofParts f.primary f.root f.name = .ok f := by
  have filled : f.primary.bytes ≠ [] := Path.bytes_ne_nil_of_isAbsolute f.absolute
  have named : f.name.isEmpty = false := by
    refine Bool.eq_false_iff.mpr fun nothing => ?_
    have single := f.single
    rw [String.isEmpty_iff.mp nothing] at single
    exact absurd single (by decide)
  unfold ofParts
  rw [if_neg filled, named, if_neg Bool.false_ne_true, dif_pos f.absolute, dif_pos f.canonical,
    dif_pos f.single, dif_neg f.rooted]

/-- **A canonical path below the root makes a footprint** where its last name is that of one. -/
theorem ofPrimary_path {n : List UInt8} {l : Location} {name : String}
    (named : Location.IsNamed (n :: l)) (single : isSingleComponent name = true)
    (encoded : Text.encode name = n) : ∃ f, ofPrimary (Location.path (n :: l)) = .ok f ∧
      f.primary = Location.path (n :: l) ∧ f.root = Location.path l ∧ f.name = name := by
  let f : Footprint := ⟨Location.path (n :: l), Location.path l, name, Location.isAbsolute_path _,
    Location.isCanonical_path named, single, Location.path_bytes_ne_nil l⟩
  refine ⟨f, ?_, rfl, rfl, rfl⟩
  unfold ofPrimary
  rw [Location.parent?_path named, Location.fileName?_path named]
  dsimp only
  rw [← encoded, Text.decode?_encode]
  subst encoded
  exact ofParts_of_footprint f

/-- **What the path of a location makes.** The root has no directory, and a last name that is not UTF-8 is no
logical name; every other location has a footprint. -/
theorem ofPrimary_path_cases {l : Location} (named : l.IsNamed) :
    (l = [] ∧ ofPrimary l.path = .error (.argument (.missing "root_directory"))) ∨
    (∃ n k, l = n :: k ∧ (∀ name, Text.encode name ≠ n) ∧
      ofPrimary l.path = .error (.nonUtf8Name l.path)) ∨
    ∃ name k f, l = Text.encode name :: k ∧ ofPrimary l.path = .ok f ∧ f.root = Location.path k ∧
      f.name = name := by
  cases l with
  | nil => exact .inl ⟨rfl, rfl⟩
  | cons n k =>
    refine .inr ?_
    cases read : Text.decode? n with
    | none =>
      refine .inl ⟨n, k, rfl, ?_, ?_⟩
      · rintro name rfl
        rw [Text.decode?_encode] at read
        cases read
      · unfold ofPrimary
        rw [Location.parent?_path named, Location.fileName?_path named]
        dsimp only
        rw [read]
    | some name =>
      obtain rfl := Text.encode_of_decode? read
      obtain ⟨f, made, -, root, same⟩ := ofPrimary_path named (isSingleComponent_iff.mpr named.head) rfl
      exact .inr ⟨name, k, f, rfl, made, root, same⟩

/-- **A footprint made from a primary path**: the path leads to a location below the root, whose
directory and name are the other two parts. -/
theorem ofPrimary_eq_ok {primary : Path} {f : Footprint} (h : ofPrimary primary = .ok f) :
    ∃ n l, Location.IsNamed (n :: l) ∧ primary = Location.path (n :: l) ∧
      f.primary = Location.path (n :: l) ∧ f.root = Location.path l ∧ Text.encode f.name = n := by
  unfold ofPrimary at h
  cases hparent : primary.parent? with
  | none =>
    rw [hparent] at h
    cases h
  | some root =>
    cases hfile : primary.fileName? with
    | none =>
      rw [hparent, hfile] at h
      cases h
    | some bytes =>
      cases hname : Text.decode? bytes with
      | none =>
        rw [hparent, hfile] at h
        dsimp only at h
        rw [hname] at h
        cases h
      | some name =>
        rw [hparent, hfile] at h
        dsimp only at h
        rw [hname] at h
        obtain ⟨hprimary, hroot, hf⟩ := ofParts_eq_ok h
        obtain ⟨k, named, hk⟩ := Path.exists_location f.absolute f.canonical
        obtain rfl : primary = k.path := hprimary.symm.trans hk
        cases k with
        | nil => cases hparent
        | cons n l =>
          rw [Location.parent?_path named] at hparent
          rw [Location.fileName?_path named] at hfile
          obtain rfl := Option.some.inj hparent
          obtain rfl := Option.some.inj hfile
          refine ⟨n, l, named, rfl, hprimary, hroot, ?_⟩
          rw [hf]
          exact Text.encode_of_decode? hname

/-- **The management directory is a sibling of the primary file**: both differ in the suffix alone. -/
theorem managementDirectory_eq {primary : Path} {f : Footprint} {s : Suffixes}
    (made : ofPrimary primary = .ok f) (checked : s.check = .ok ()) :
    f.managementDirectory s = f.primary.append s.management := by
  obtain ⟨n, l, named, -, hprimary, hroot, hname⟩ := ofPrimary_eq_ok made
  obtain ⟨hsuffix, -⟩ := Suffixes.isSuffix_of_check checked
  have noSlash : slash ∉ n ++ Text.encode s.management := by
    rw [List.mem_append, not_or]
    exact ⟨named.head.2.1, (isSuffix_bytes hsuffix).2⟩
  rw [managementDirectory, hroot, hprimary, Location.path_append, Path.ofString,
    Text.encode_append, hname]
  exact Location.path_join named.tail noSlash

/-- **The notification file of a canonical primary path** is the entry whose name has the suffix behind it. -/
theorem notificationFile_path {n : List UInt8} {l : Location} {f : Footprint} {suffixes : Suffixes}
    (checked : suffixes.check = .ok ()) (named : Location.IsNamed (n :: l))
    (primary : f.primary = Location.path (n :: l)) :
    f.notificationFile suffixes = Location.path ((n ++ Text.encode suffixes.note) :: l) ∧
      Location.IsNamed ((n ++ Text.encode suffixes.note) :: l) := by
  refine ⟨?_, .cons (named.head.note checked) named.tail⟩
  rw [notificationFile, primary, Location.path_append]

/-- **The artifacts have three places**: the primary file is an entry of some directory, and the sidecars
are the entries with the suffixes behind its name. -/
structure Places (f : Footprint) (suffixes : Suffixes) (n : List UInt8) (l : Location) : Prop where
  named : Location.IsNamed (n :: l)
  primary : f.primary = Location.path (n :: l)
  directory : f.managementDirectory suffixes =
    Location.path ((n ++ Text.encode suffixes.management) :: l)
  directoryNamed : Location.IsNamed ((n ++ Text.encode suffixes.management) :: l)
  note : f.notificationFile suffixes = Location.path ((n ++ Text.encode suffixes.note) :: l)
  noteNamed : Location.IsNamed ((n ++ Text.encode suffixes.note) :: l)

/-- **A footprint made from a primary path has places.** -/
theorem exists_places {primary : Path} {f : Footprint} {suffixes : Suffixes}
    (made : ofPrimary primary = .ok f) (checked : suffixes.check = .ok ()) :
    ∃ n l, f.Places suffixes n l := by
  obtain ⟨n, l, named, -, hprimary, -, -⟩ := ofPrimary_eq_ok made
  obtain ⟨suffix, -⟩ := Suffixes.isSuffix_of_check checked
  obtain ⟨note, noteNamed⟩ := notificationFile_path checked named hprimary
  have directory := managementDirectory_eq made checked
  rw [hprimary, Location.path_append] at directory
  exact ⟨n, l, named, hprimary, directory, .cons (named.head.suffix suffix) named.tail, note, noteNamed⟩

/-- The two sidecars of a primary path are one where their suffixes are. -/
theorem managementDirectory_eq_notificationFile_iff {primary : Path} {f : Footprint} {s : Suffixes}
    (made : ofPrimary primary = .ok f) (checked : s.check = .ok ()) :
    f.managementDirectory s = f.notificationFile s ↔ s.management = s.note := by
  rw [managementDirectory_eq made checked]
  exact Path.append_inj

/-- **A footprint keeps its artifacts apart** where they have three paths. -/
structure Apart (f : Footprint) (suffixes : Suffixes) : Prop where
  directory_primary : f.managementDirectory suffixes ≠ f.primary
  directory_note : f.managementDirectory suffixes ≠ f.notificationFile suffixes
  primary_note : f.primary ≠ f.notificationFile suffixes

/-- **The artifacts have three paths unless the two suffixes are equal.** -/
theorem apart_iff {primary : Path} {f : Footprint} {suffixes : Suffixes}
    (made : ofPrimary primary = .ok f) (checked : suffixes.check = .ok ()) :
    f.Apart suffixes ↔ suffixes.management ≠ suffixes.note := by
  obtain ⟨hmanagement, hnote⟩ := Suffixes.isSuffix_of_check checked
  have sidecars := managementDirectory_eq_notificationFile_iff made checked
  constructor
  · intro apart
    exact mt sidecars.mpr apart.directory_note
  · intro distinct
    refine ⟨?_, mt sidecars.mp distinct, (Path.append_ne_self hnote).symm⟩
    rw [managementDirectory_eq made checked]
    exact Path.append_ne_self hmanagement

end Footprint

end Reclaim
