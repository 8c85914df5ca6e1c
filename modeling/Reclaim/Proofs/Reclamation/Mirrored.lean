import Reclaim.Proofs.Disk.Listed
import Reclaim.Proofs.Disk.Mirror
import Reclaim.Proofs.Reclamation.Commuting
import Reclaim.Proofs.Reclamation.Standing

/-!
# A store in place of a disk

What is shown of runs on a store in memory is meant for disks. This is what carries it over: where a disk
has no links, and a directory or nothing at the management path, a store without a script that mirrors the
disk simulates it on the artifacts of any database (`Footprint.Places.simulates`).

The two find their nodes in different ways. A disk walks, name by name, through directories that may be
missing or be files; a store takes the path as it is spelled. Without links both come to the node at that
location or to none. And what only a disk can answer, it answers where nothing stands: there a run makes no
further call.

**The law** (`reclaim_mirrored`): where the artifacts are in reach, the runs on both have the same verdict,
removals and bytes, warn of the same artifacts in the same order, each for its own reasons, and leave the
same nodes. The plans are the same.

**Out of reach** they part (`Footprint.Places.plan_files`): what stands at a path that is too long for a call
is not found on the disk, and is in the store.
-/

namespace Reclaim

namespace Disk

variable {d : Disk} {k l : Location} {n : List UInt8}

/-- **What stands on a disk below the root**, by its canonical path. -/
def Holds (d : Disk) (q : Path) : Prop :=
  ∃ n l e, d.lookup (n :: l) = some e ∧ q = Location.path (n :: l)

/-- Whether all of it is in reach can be read off the list of the disk. -/
theorem isInReach_of_entries {q : Path} (h : ∀ e ∈ d.entries.entries, e.1.IsInReach) (held : d.Holds q) :
    q.bytes.length ≤ pathLimit := by
  obtain ⟨n, l, e, stands, rfl⟩ := held
  exact h _ (Keyed.mem_of_get? stands)

theorem within_delete (leaf : d.names (n :: l) = []) : (d.delete (n :: l)).Within d := by
  have loses : d.Loses (d.delete (n :: l)) fun _ => True := loses_delete leaf trivial
  exact loses.within

/-- **A disk is stored**: it has no links, a directory or nothing at the location of the management
directory, holds the artifacts of a database in reach, and is mirrored by a store in which nothing goes
wrong. -/
structure Stored (f : Footprint) (suffixes : Suffixes) (management : Location) (d : Disk)
    (t : ScriptedStore) : Prop where
  linkless : d.IsLinkless
  directory : ∀ e, d.lookup management = some e → e = .directory
  near : ∀ kind q, f.Owns suffixes kind q → d.Holds q → q.bytes.length ≤ pathLimit
  script : t.script = .empty
  mirrored : d.Mirrored t.store

namespace Stored

variable {f : Footprint} {suffixes : Suffixes} {management : Location} {t : ScriptedStore}
  {kind : ArtifactKind}

theorem quiet (h : Stored f suffixes management d t) : t.Quiet := congrArg Script.hooks h.script

theorem failure? (h : Stored f suffixes management d t) (call : CallKind) (q : Path) :
    t.failure? call q = none := by
  rw [ScriptedStore.failure?, h.script]
  rfl

theorem unlisted (h : Stored f suffixes management d t) (q : Path) : t.script.listings.get? q = none := by
  rw [h.script]
  rfl

/-- What stands of the artifacts is in reach. -/
theorem isInReach {e : Entry} (h : Stored f suffixes management d t)
    (owned : f.Owns suffixes kind (Location.path (n :: l))) (stands : d.lookup (n :: l) = some e) :
    Location.IsInReach (n :: l) :=
  h.near kind _ owned ⟨n, l, e, stands, rfl⟩

/-- So it is found. -/
theorem exists?_path (h : Stored f suffixes management d t) (cwd : Location)
    (owned : f.Owns suffixes kind (Location.path (n :: l))) (named : Location.IsNamed (n :: l)) :
    d.exists? cwd (Location.path (n :: l)) = (d.lookup (n :: l)).isSome := by
  rw [h.linkless.exists?_path named]
  cases stands : d.lookup (n :: l) with
  | none => exact Bool.and_false _
  | some e => rw [decide_eq_true (h.isInReach owned stands), Bool.true_and]

theorem stands_path (h : Stored f suffixes management d t) (named : k.IsNamed) :
    t.stands k.path = (d.lookup k).isSome := by
  rw [ScriptedStore.stands_of_visible (h.failure? _ _), h.mirrored.isSome_path h.linkless named]

theorem listing_path (h : Stored f suffixes management d t) (named : k.IsNamed)
    (stands : d.lookup k = some .directory) :
    t.listing k.path = .ok ((d.names k).map fun x => Location.path (x :: k)) := by
  rw [ScriptedStore.listing_eq (h.unlisted _), h.failure?, h.mirrored.childrenOf_path h.linkless stands]
  exact if_pos ((h.mirrored.directory_iff named).mpr stands)

theorem measured_path {e : Entry} (h : Stored f suffixes management d t) (stands : d.lookup (n :: l) = some e) :
    t.measured (Location.path (n :: l)) = e.size? := by
  rw [ScriptedStore.measured, h.failure?]
  dsimp only
  rw [Store.sizeOf?, h.mirrored.get?_path (isNamed_of_lookup stands), stands, e.size?_eq]
  rfl

/-- What the store refuses is what the disk does not yield. -/
theorem refusal?_path (h : Stored f suffixes management d t) (named : k.IsNamed)
    (fits : kind = .managementDirectory → d.lookup k = some .directory) :
    t.refusal? kind k.path = none ↔ d.Yields kind k := by
  rw [ScriptedStore.refusal?_eq_none_iff, ScriptedStore.Removable, and_iff_right (h.failure? _ _),
    h.mirrored.yields_path h.linkless named fits]

/-- What a deletion leaves is stored. -/
theorem delete (h : Stored f suffixes management d t) (named : Location.IsNamed (n :: l))
    (leaf : d.names (n :: l) = []) :
    Stored f suffixes management (d.delete (n :: l)) (t.change (·.erase (Location.path (n :: l)))) where
  linkless := h.linkless.within (within_delete leaf)
  directory e stands := h.directory e (within_delete leaf _ e stands)
  near kind q owned held := by
    obtain ⟨m, k, e, stands, rfl⟩ := held
    exact h.near kind _ owned ⟨m, k, e, within_delete leaf _ e stands, rfl⟩
  script := h.script
  mirrored := h.mirrored.delete named leaf

end Stored

end Disk

namespace Footprint

variable {f : Footprint} {suffixes : Suffixes} {n : List UInt8} {l : Location}

/-- The three artifacts have canonical paths. -/
theorem Owns.exists_named {kind : ArtifactKind} {q : Path} (owned : f.Owns suffixes kind q)
    (places : f.Places suffixes n l) (asked : kind ≠ .managementEntry) :
    ∃ m, Location.IsNamed (m :: l) ∧ q = Location.path (m :: l) := by
  cases owned with
  | entry => exact absurd rfl asked
  | directory => exact ⟨_, places.directoryNamed, places.directory⟩
  | primary => exact ⟨_, places.named, places.primary⟩
  | notification => exact ⟨_, places.noteNamed, places.note⟩

/-- **A store that mirrors a disk does in place of it.** -/
theorem Places.simulates (places : f.Places suffixes n l) (cwd : Location) :
    Simulates (Disk.filesystem cwd) ScriptedStore.filesystem suffixes f (fun _ => "")
      (Disk.Stored f suffixes ((n ++ Text.encode suffixes.management) :: l)) Disk.Holds where
  present {d t kind path} h owned asked := by
    obtain ⟨m, named, rfl⟩ := owned.exists_named places asked
    refine ⟨(d.lookup (m :: l)).isSome, ?_, ?_, fun stands => ?_⟩
    · exact Prod.ext (h.exists?_path cwd owned named) rfl
    · rw [ScriptedStore.present_run, h.quiet.fire, h.stands_path named]
    · obtain ⟨e, stands⟩ := Option.isSome_iff_exists.mp stands
      exact ⟨m, l, e, stands, rfl⟩
  children {d t} h stood := by
    obtain ⟨m, l', e, stands, same⟩ := stood
    rw [places.directory] at same ⊢
    obtain ⟨rfl, rfl⟩ := List.cons.inj
      (Location.path_inj places.directoryNamed (Disk.isNamed_of_lookup stands) same)
    obtain rfl := h.directory e stands
    have owned : f.Owns suffixes .managementDirectory
        (Location.path ((n ++ Text.encode suffixes.management) :: l)) := by
      rw [← places.directory]
      exact .directory
    have list : d.list cwd _ = _ := Disk.list_path (h.isInReach owned stands) stands
    refine .inl ⟨_, ?_, ?_, d.nodup_paths_names stands, fun q listed => ?_⟩
    · exact Prod.ext (congrArg (Except.mapError Failure.message) list) rfl
    · rw [ScriptedStore.children_run, h.quiet.fire, h.listing_path places.directoryNamed stands]
    · obtain ⟨x, hx, rfl⟩ := List.mem_map.mp listed
      obtain ⟨e, there⟩ := Option.isSome_iff_exists.mp ((d.mem_names _ x).mp hx)
      have named := Location.IsNamed.cons (Disk.isName_of_mem_names hx) places.directoryNamed
      refine ⟨.entry ?_, x, _, e, there, rfl⟩
      rw [places.directory]
      exact (Store.isChild_path_path places.directoryNamed named).mpr ⟨x, rfl⟩
  fileSize {d t kind path} h owned stood := by
    obtain ⟨m, l', e, stands, rfl⟩ := stood
    refine ⟨e.size?, Prod.ext (Disk.fileSize_path (h.isInReach owned stands) stands) rfl, ?_⟩
    rw [ScriptedStore.fileSize_run, h.quiet.fire, h.measured_path stands]
  remove {d t kind path} h owned stood := by
    obtain ⟨m, l', e, stands, rfl⟩ := stood
    have named := Disk.isNamed_of_lookup stands
    have near := h.isInReach owned stands
    have fits : kind = .managementDirectory → d.lookup (m :: l') = some .directory := by
      rintro rfl
      generalize same : Location.path (m :: l') = q at owned
      cases owned
      rw [places.directory] at same
      rw [Location.path_inj named places.directoryNamed same] at stands ⊢
      rw [stands, h.directory e stands]
    have alike := h.refusal?_path named fits
    rcases Disk.remove_path near stands cwd kind with ⟨yields, run⟩ | ⟨kept, reason, run⟩
    · rcases h.quiet.remove kind (Location.path (m :: l')) with ⟨-, run'⟩ | ⟨reason', refused, -⟩
      · refine .inl ⟨_, _, run, run', h.delete named yields.leaf, ?_⟩
        rintro q other ⟨x, k, e', there, rfl⟩
        refine ⟨x, k, e', ?_, rfl⟩
        rw [Disk.lookup_deleted yields.leaf, if_neg fun same => other (congrArg Location.path same)]
        exact there
      · cases refused.symm.trans (alike.mpr yields)
    · rcases h.quiet.remove kind (Location.path (m :: l')) with ⟨free, -⟩ | ⟨reason', -, run'⟩
      · exact absurd (alike.mp free) kept
      · exact .inr ⟨_, _, run, run', rfl⟩

end Footprint

/-! ## Runs on both -/

/-- **A run in memory is the run on the disk.** On a disk without links, for a footprint made from its
primary path, with suffixes in force, with a directory or nothing at the management path, and with no
artifact out of reach: the run on the disk and the run on its mirror have the same verdict, remove the same
paths and free as many bytes, and warn of the same artifacts, in the same order. They leave the same nodes.
The plans are the same. -/
theorem reclaim_mirrored {d : Disk} {primary : Path} {f : Footprint} (cwd : Location)
    (suffixes : Suffixes) (linkless : d.IsLinkless) (made : Footprint.ofPrimary primary = .ok f)
    (checked : suffixes.check = .ok ())
    (directory : ∀ k, d.find cwd (f.managementDirectory suffixes) = .ok k →
      d.lookup k = some .directory)
    (near : ∀ kind q, f.Owns suffixes kind q → d.Holds q → q.bytes.length ≤ pathLimit) :
    let onDisk := (reclaim (Disk.filesystem cwd) .silent suffixes f).run d
    let inStore := (reclaim ScriptedStore.filesystem .silent suffixes f).run (.ofStore d.mirror)
    inStore.1.primaryDeleted = onDisk.1.primaryDeleted ∧
    inStore.1.removed = onDisk.1.removed ∧
    inStore.1.bytesFreed = onDisk.1.bytesFreed ∧
    inStore.1.warnings.map Warning.artifact = onDisk.1.warnings.map Warning.artifact ∧
    onDisk.2.IsLinkless ∧
    (∀ q, inStore.2.store.get? q = onDisk.2.mirror.get? q) ∧
    ((plan ScriptedStore.filesystem suffixes f).run (.ofStore d.mirror)).1 =
      ((plan (Disk.filesystem cwd) suffixes f).run d).1 := by
  intro onDisk inStore
  obtain ⟨n, l, places⟩ := Footprint.exists_places made checked
  have stored : Disk.Stored f suffixes ((n ++ Text.encode suffixes.management) :: l) d
      (.ofStore d.mirror) := by
    refine ⟨linkless, fun e stands => ?_, near, rfl, fun _ => rfl⟩
    have reached := near _ _ .directory ⟨_, l, e, stands, places.directory⟩
    rw [places.directory] at directory reached
    exact Option.some.inj (stands.symm.trans (directory _ (Disk.find_path reached stands)))
  have sim := places.simulates cwd
  obtain ⟨o, o', left, left', run, run', alike, still⟩ := sim.reclaim stored
  obtain ⟨planned, planning, planning'⟩ := sim.plan stored
  have disk : onDisk = (o, left) := run
  have store : inStore = (o', left') := run'
  rw [disk, store, planning, planning', ← o.map_artifact_reread, ← o'.map_artifact_reread, alike]
  exact ⟨(congrArg Outcome.primaryDeleted alike).symm, (congrArg Outcome.removed alike).symm,
    (congrArg Outcome.bytesFreed alike).symm, rfl, still.linkless, still.mirrored, rfl⟩

/-- A database with a directory in its management directory. -/
theorem reclaim_mirrored_sample :
    let onDisk := (reclaim (Disk.filesystem []) .silent .standard .atRoot).run Disk.plain
    let inStore := (reclaim ScriptedStore.filesystem .silent .standard .atRoot).run
      (.ofStore Disk.plain.mirror)
    (Disk.plain.IsLinkless ∧ Footprint.ofPrimary (.ofString "/a") = .ok .atRoot ∧
      Suffixes.standard.check = .ok ()) ∧
    inStore.1.removed = onDisk.1.removed ∧
    inStore.1.warnings.map Warning.artifact = onDisk.1.warnings.map Warning.artifact ∧
    ∀ q, inStore.2.store.get? q = onDisk.2.mirror.get? q := by
  intro onDisk inStore
  have linkless : Disk.plain.IsLinkless := Disk.isLinkless_of_entries (by simp [Disk.plain])
  have made : Footprint.ofPrimary (.ofString "/a") = .ok .atRoot := by decide +kernel
  have checked : Suffixes.standard.check = .ok () := by decide
  have directory : ∀ k, Disk.plain.find [] (Footprint.atRoot.managementDirectory .standard) = .ok k →
      Disk.plain.lookup k = some .directory := by
    intro k found
    have there : Disk.plain.find [] (Footprint.atRoot.managementDirectory .standard) =
        .ok [Text.encode "a.management"] := by decide +kernel
    obtain rfl := Except.ok.inj (there.symm.trans found)
    decide
  have near : ∀ kind q, Footprint.atRoot.Owns .standard kind q → Disk.plain.Holds q →
      q.bytes.length ≤ pathLimit := fun _ _ _ => Disk.isInReach_of_entries (by decide)
  obtain ⟨-, removed, -, warned, -, left, -⟩ :=
    reclaim_mirrored [] .standard linkless made checked directory near
  exact ⟨⟨linkless, made, checked⟩, removed, warned, left⟩

/-! ## Out of reach -/

/-- **A plan without a management directory**, on a disk without links and on its mirror: the disk lists the
files that stand in reach, and the mirror all that stand. -/
theorem Footprint.Places.plan_files {d : Disk} {f : Footprint} {suffixes : Suffixes} {n : List UInt8}
    {l : Location} (places : f.Places suffixes n l) (linkless : d.IsLinkless) (cwd : Location)
    (absent : d.lookup ((n ++ Text.encode suffixes.management) :: l) = none) :
    let primary : Location := n :: l
    let note : Location := (n ++ Text.encode suffixes.note) :: l
    ((plan (Disk.filesystem cwd) suffixes f).run d).1 =
        Survey.filePlanned .primary f.primary (decide primary.IsInReach && (d.lookup primary).isSome) ++
          Survey.filePlanned .notification (f.notificationFile suffixes)
            (decide note.IsInReach && (d.lookup note).isSome) ∧
      ((plan ScriptedStore.filesystem suffixes f).run (.ofStore d.mirror)).1 =
        Survey.filePlanned .primary f.primary (d.lookup primary).isSome ++
          Survey.filePlanned .notification (f.notificationFile suffixes) (d.lookup note).isSome := by
  intro primary note
  constructor
  · have nothing : d.exists? cwd (f.managementDirectory suffixes) = false := by
      rw [places.directory, linkless.exists?_path places.directoryNamed, absent]
      exact Bool.and_false _
    rw [Disk.plan_run, Disk.standing, Disk.found_of_absent nothing, nothing, places.primary, places.note,
      linkless.exists?_path places.named, linkless.exists?_path places.noteNamed]
    rfl
  · have mirrored : d.Mirrored d.mirror := fun _ => rfl
    have stands : ∀ {k : Location}, k.IsNamed →
        (ScriptedStore.ofStore d.mirror).stands k.path = (d.lookup k).isSome := by
      intro k named
      rw [ScriptedStore.stands_of_visible rfl]
      exact mirrored.isSome_path linkless named
    have quiet : (ScriptedStore.ofStore d.mirror).Quiet := rfl
    obtain ⟨v, planned, looked⟩ := plan_survey ScriptedStore.filesystem suffixes f (.ofStore d.mirror)
    rw [planned, (quiet.survey looked).2, ScriptedStore.standing, ScriptedStore.found, places.directory,
      places.primary, places.note, stands places.directoryNamed, stands places.named,
      stands places.noteNamed, absent]
    rfl

/-- **Out of reach the mirror tells more.** The database at the end of sixteen directories is in reach, and
its notification file is not: a call on the disk does not find it, and the store does. -/
theorem deep_run_not_mirrored :
    ∃ f, Footprint.ofPrimary (Location.path (Text.encode "a" :: Location.deep 16)) = .ok f ∧
      Disk.deep.IsLinkless ∧ Suffixes.standard.check = .ok () ∧
      (∀ k, Disk.deep.find [] (f.managementDirectory .standard) ≠ .ok k) ∧
      ((plan (Disk.filesystem []) .standard f).run Disk.deep).1 = [(.primary, f.primary)] ∧
      ((plan ScriptedStore.filesystem .standard f).run (.ofStore Disk.deep.mirror)).1 =
        [(.primary, f.primary), (.notification, f.notificationFile .standard)] := by
  have checked : Suffixes.standard.check = .ok () := by decide
  have linkless : Disk.deep.IsLinkless :=
    Disk.isLinkless_of_entries (by simp [Disk.deep, Disk.deepEntries])
  have database : Disk.deep.lookup (Text.encode "a" :: Location.deep 16) = some (.file (.zeros 8)) := by
    decide +kernel
  have named := Disk.isNamed_of_lookup database
  obtain ⟨f, made, primary, -⟩ := Footprint.ofPrimary_path named rfl rfl
  obtain ⟨n, l, places⟩ := Footprint.exists_places made checked
  obtain ⟨rfl, rfl⟩ :=
    List.cons.inj (Location.path_inj places.named named (places.primary.symm.trans primary))
  -- What stands at the three places, and what is in reach of it.
  have management : Disk.deep.lookup
      ((Text.encode "a" ++ Text.encode Suffixes.standard.management) :: Location.deep 16) = none := by
    decide +kernel
  have note : Disk.deep.lookup
      ((Text.encode "a" ++ Text.encode Suffixes.standard.note) :: Location.deep 16) =
        some (.file (.zeros 2)) := by
    decide +kernel
  have near : Location.IsInReach (Text.encode "a" :: Location.deep 16) := by decide +kernel
  have far : ¬ Location.IsInReach
      ((Text.encode "a" ++ Text.encode Suffixes.standard.note) :: Location.deep 16) := by decide +kernel
  obtain ⟨onDisk, inStore⟩ := places.plan_files linkless [] management
  rw [database, note, decide_eq_true near, decide_eq_false far] at onDisk
  rw [database, note] at inStore
  refine ⟨f, made, linkless, checked, fun k found => ?_, onDisk, inStore⟩
  rw [places.directory, linkless.find_path_iff places.directoryNamed, management] at found
  obtain ⟨-, ⟨e, stands⟩, -⟩ := found
  cases stands

end Reclaim
