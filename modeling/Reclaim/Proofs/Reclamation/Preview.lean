import Reclaim.Proofs.Disk.Linkless
import Reclaim.Proofs.Footprint
import Reclaim.Proofs.Reclamation.Cleared

/-!
# What a plan foresees on a disk

A plan looks at a disk as it is, and lists what stands of the footprint (`Disk.plan_run`). A run looks at a
disk that it has deleted from. **The law** (`Disk.IsLinkless.attempts_course`): on a disk without links,
for a footprint with places that are apart, the run too attempts what stands at first, in the same order.

Its deletions are made at canonical paths, and without links such a path leads to its own location and no
other. So what stands at another place keeps standing (`Disk.IsLinkless.lookup_replay`). The management
path need not be that of a directory. A file there cannot be listed, is planned without entries, and is
tried.
-/

namespace Reclaim

namespace Disk

variable {d left : Disk} {cwd k l : Location} {suffixes : Suffixes} {f : Footprint} {path : Path}
  {kind : ArtifactKind} {v : Visit} {w : Sweep} {c : Course} {n : List UInt8}

/-- **What stands at a location keeps standing** behind deletions that are made at the canonical paths of
others. -/
theorem IsLinkless.lookup_replay {log : List Exchange} (linkless : d.IsLinkless)
    (h : Replay (Disk.filesystem cwd) d log left)
    (others : ∀ call ∈ log.filterMap Exchange.removal?, ∃ j : Location,
      j.IsNamed ∧ call.2 = j.path ∧ j ≠ k) : left.lookup k = d.lookup k := by
  rcases loses_replay h k with same | ⟨-, call, made, found, -⟩
  · exact same
  · obtain ⟨j, named, path, other⟩ := others call made
    rw [path] at found
    exact absurd ((linkless.find_path_iff named).mp found).2.2.symm other

/-- So it is found there as before. -/
theorem IsLinkless.exists?_replay {log : List Exchange} (linkless : d.IsLinkless) (named : k.IsNamed)
    (h : Replay (Disk.filesystem cwd) d log left)
    (others : ∀ call ∈ log.filterMap Exchange.removal?, ∃ j : Location,
      j.IsNamed ∧ call.2 = j.path ∧ j ≠ k) : left.exists? cwd k.path = d.exists? cwd k.path := by
  rw [(linkless.within (within_replay h)).exists?_path named, linkless.exists?_path named,
    linkless.lookup_replay h others]

/-- A sweep deletes below its directory. -/
theorem removals_sweep (named : k.IsNamed)
    (h : Replay (Disk.filesystem cwd) d (w.exchanges k.path) left) :
    ∀ call ∈ (w.exchanges k.path).filterMap Exchange.removal?, ∃ x,
      Location.IsNamed (x :: k) ∧ call.2 = Location.path (x :: k) := by
  intro call made
  rw [Sweep.filterMap_exchanges Exchange.reads_removal?] at made
  cases w with
  | absent => cases made
  | unreadable reason => cases made
  | listed entries =>
    obtain ⟨a, tried, same⟩ := List.mem_filterMap.mp made
    obtain ⟨e, listed, rfl⟩ := List.mem_map.mp tried
    obtain ⟨x, name, path⟩ := mem_of_list (list_of_sweep h) (List.mem_map_of_mem listed)
    refine ⟨x, .cons name named, ?_⟩
    rw [← Option.some.inj same]
    exact path.trans (Location.path_join named name.2.1)

/-- A visit deletes at its path. -/
theorem removals_visit {call : CallKind × Path}
    (made : call ∈ (v.exchanges kind path).filterMap Exchange.removal?) : call.2 = path := by
  rw [Visit.filterMap_exchanges Exchange.reads_removal?] at made
  obtain ⟨a, tried, same⟩ := List.mem_filterMap.mp made
  obtain ⟨t, -, rfl⟩ := List.mem_map.mp tried
  rw [← Option.some.inj same]

/-- **A run attempts what stands** at first: no deletion touches what a later step looks for. -/
theorem IsLinkless.attempts_course (linkless : d.IsLinkless) (places : f.Places suffixes n l)
    (apart : f.Apart suffixes) (h : Replay (Disk.filesystem cwd) d (c.exchanges suffixes f) left) :
    (c.attempts suffixes f).map Attempt.artifact = d.standing cwd suffixes f := by
  obtain ⟨swept, visited, verified, hsweep, hdirectory, hprimary, hnote⟩ := Course.replay_iff.mp h
  have toDirectory := Replay.append_iff.mpr ⟨swept, hsweep, hdirectory⟩
  have toPrimary := Replay.append_iff.mpr ⟨visited, toDirectory, hprimary⟩
  -- An entry of the management directory is none of the three.
  have entry : ∀ call ∈ (c.sweep.exchanges (f.managementDirectory suffixes)).filterMap Exchange.removal?,
      ∀ m, ∃ j : Location, j.IsNamed ∧ call.2 = j.path ∧ j ≠ m :: l := by
    rw [places.directory] at hsweep ⊢
    intro call made m
    obtain ⟨x, named, path⟩ := removals_sweep places.directoryNamed hsweep call made
    exact ⟨_, named, path, by simp⟩
  have directory : swept.exists? cwd (f.managementDirectory suffixes) =
      d.exists? cwd (f.managementDirectory suffixes) := by
    rw [places.directory]
    exact linkless.exists?_replay places.directoryNamed hsweep fun call made => entry call made _
  have primary : visited.exists? cwd f.primary = d.exists? cwd f.primary := by
    rw [places.primary]
    refine linkless.exists?_replay places.named toDirectory fun call made => ?_
    rw [List.filterMap_append, List.mem_append] at made
    rcases made with made | made
    · exact entry call made n
    · refine ⟨_, places.directoryNamed, (removals_visit made).trans places.directory, fun same => ?_⟩
      exact apart.directory_primary (by rw [places.directory, places.primary, same])
  have note : verified.exists? cwd (f.notificationFile suffixes) =
      d.exists? cwd (f.notificationFile suffixes) := by
    rw [places.note]
    refine linkless.exists?_replay places.noteNamed toPrimary fun call made => ?_
    rw [List.filterMap_append, List.filterMap_append, List.mem_append, List.mem_append] at made
    rcases made with (made | made) | made
    · exact entry call made _
    · refine ⟨_, places.directoryNamed, (removals_visit made).trans places.directory, fun same => ?_⟩
      exact apart.directory_note (by rw [places.directory, places.note, same])
    · refine ⟨_, places.named, (removals_visit made).trans places.primary, fun same => ?_⟩
      exact apart.primary_note (by rw [places.primary, places.note, same])
  have sweep := attempts_sweep hsweep
  have removed := attempts_visit hdirectory
  have file := attempts_visit hprimary
  have last := attempts_visit hnote
  rw [directory] at removed
  rw [primary] at file
  rw [note] at last
  simp only [Course.attempts, List.map_append, sweep, removed, file, last, standing]

end Disk

end Reclaim
