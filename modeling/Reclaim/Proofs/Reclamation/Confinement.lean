import Reclaim.Proofs.Disk.Listed
import Reclaim.Proofs.Disk.Loss
import Reclaim.Proofs.Reclamation.Standing

/-!
# What a run on a disk can delete

A run is confined to four things, all read off the disk that it starts from (`Disk.loses_course`): the
directory that stands at the management path, what stands at the primary path and at the notification
path, and the **exposed** entries: what is no directory in the directory that the management path leads
to, and has a path that a call takes.

**The management path is not followed to be deleted, but it is followed to be listed.** So a link there
is never deleted, and what it leads to is deleted from: all that is exposed goes, for as long as the link
leads there (`Disk.exposed_gone`). Nothing else is touched. In particular the directory that the
link leads to stays, and the directories in it.
-/

namespace Reclaim

namespace Disk

variable {d left : Disk} {cwd k l : Location} {suffixes : Suffixes} {f : Footprint} {directory : Path}

/-- **An entry is exposed** behind the path of a directory: the path leads to the directory that holds
it, it is no directory itself, and its path is one that a call takes. -/
def Exposes (d : Disk) (cwd : Location) (directory : Path) (k : Location) : Prop :=
  ∃ n l e, k = n :: l ∧ d.follow cwd directory = .ok l ∧
    requireCallable (directory.join ⟨n⟩) = .ok () ∧ d.lookup k = some e ∧ e ≠ .directory

theorem follow_bytes_ne_nil (h : d.follow cwd directory = .ok l) : directory.bytes ≠ [] :=
  (resolve_eq_ok_iff.mp (follow_eq_ok_iff.mp h).2).1

/-- The way to the entries of a directory. -/
theorem reaches_stem (led : d.follow cwd directory = .ok l) (h : d.lookup l = some .directory) :
    d.Reaches linkLimit cwd directory.stem l := by
  have walked := (resolve_eq_ok_iff.mp (follow_eq_ok_iff.mp led).2).2
  cases trailing : directory.endsInSeparator with
  | false =>
    rw [Path.steps_of_not_endsInSeparator trailing] at walked
    exact walked
  | true =>
    rw [Path.steps, trailing] at walked
    obtain ⟨m, fewer, -, first, last⟩ := walked.split
    obtain ⟨-, last⟩ := reaches_here_iff.mp last
    obtain rfl := reaches_nil_iff.mp last
    exact first

/-- **The path of an entry strikes the entry**, if anything. -/
theorem exposes_of_strikes {n : List UInt8} (led : d.follow cwd directory = .ok l)
    (listed : n ∈ d.names l) (h : d.Strikes cwd (.removeFile, directory.join ⟨n⟩) k) :
    d.Exposes cwd directory k := by
  obtain ⟨found, kind⟩ := h
  obtain ⟨callable, located⟩ := find_eq_ok_iff.mp found
  have named := isName_of_mem_names listed
  obtain ⟨e, stands⟩ := lookup_of_locate located
  obtain ⟨e', stands'⟩ := Option.isSome_iff_exists.mp ((d.mem_names l n).mp listed)
  have way := reaches_stem led (directory_of_lookup stands')
  obtain ⟨m, walked, -, rfl⟩ :=
    (locate_eq_ok_iff (Path.steps_join (follow_bytes_ne_nil led) named)).mp located
  obtain rfl := walked.unique way
  refine ⟨n, m, e, rfl, led, callable, stands, ?_⟩
  rintro rfl
  cases kind.mpr stands

/-- **An exposed entry can be deleted.** -/
theorem Exposes.unlink {n : List UInt8} {e : Entry} (led : d.follow cwd directory = .ok l)
    (callable : requireCallable (directory.join ⟨n⟩) = .ok ()) (found : d.lookup (n :: l) = some e)
    (file : e ≠ .directory) :
    d.unlink cwd (directory.join ⟨n⟩) = .ok (d.delete (n :: l)) := by
  have named := (isEntryName_of_lookup found).1
  exact unlink_eq_ok_iff.mpr ⟨callable, Path.endsInSeparator_join named, directory.stem, n, l, e,
    Path.stem_join (follow_bytes_ne_nil led) named,
    reaches_stem led (directory_of_lookup found), found, file, rfl⟩

/-! ## A run on a disk -/

/-- **What a run may delete.** -/
def Confines (d : Disk) (cwd : Location) (suffixes : Suffixes) (f : Footprint) (k : Location) : Prop :=
  d.Exposes cwd (f.managementDirectory suffixes) k ∨
  d.Strikes cwd (.removeEmptyDirectory, f.managementDirectory suffixes) k ∨
  d.Strikes cwd (.removeFile, f.primary) k ∨
  d.Strikes cwd (.removeFile, f.notificationFile suffixes) k

/-- **A run is confined**: what it loses was struck by one of its deletions, and these are made on the
entries listed at first and on the three artifacts. -/
theorem loses_course {c : Course} (h : Replay (Disk.filesystem cwd) d (c.exchanges suffixes f) left) :
    d.Loses left (d.Confines cwd suffixes f) := by
  refine (loses_replay h).mono ?_
  rintro k ⟨call, deletes, strikes⟩
  rw [Course.filterMap_removal?] at deletes
  obtain ⟨a, ha, rfl⟩ := List.mem_map.mp deletes
  simp only [Course.attempts, List.mem_append] at ha
  rcases ha with entry | visit | visit | visit
  · obtain ⟨swept, -, -, hsweep, -, -, -⟩ := Course.replay_iff.mp h
    cases hw : c.sweep with
    | absent =>
      rw [hw] at entry
      cases entry
    | unreadable reason =>
      rw [hw] at entry
      cases entry
    | listed entries =>
      rw [hw] at entry hsweep
      obtain ⟨l, led, -, paths⟩ := list_eq_ok_iff.mp (list_of_sweep hsweep)
      obtain ⟨e, he, rfl⟩ := List.mem_map.mp entry
      have listed : e.1 ∈ entries.map Prod.fst := List.mem_map_of_mem he
      rw [paths] at listed
      obtain ⟨n, hn, same⟩ := List.mem_map.mp listed
      rw [← same] at strikes
      exact .inl (exposes_of_strikes led hn strikes)
  · obtain ⟨t, -, rfl⟩ := List.mem_map.mp visit
    exact .inr (.inl strikes)
  · obtain ⟨t, -, rfl⟩ := List.mem_map.mp visit
    exact .inr (.inr (.inl strikes))
  · obtain ⟨t, -, rfl⟩ := List.mem_map.mp visit
    exact .inr (.inr (.inr strikes))

/-- **What is exposed goes** if the management path leads to the same directory behind the run. Then it
led there all the time, and each entry that is still there when its turn comes is deleted. -/
theorem exposed_gone {c : Course} (stands : d.exists? cwd (f.managementDirectory suffixes) = true)
    (h : Replay (Disk.filesystem cwd) d (c.exchanges suffixes f) left)
    (still : left.follow cwd (f.managementDirectory suffixes) =
      d.follow cwd (f.managementDirectory suffixes))
    (exposed : d.Exposes cwd (f.managementDirectory suffixes) k) : left.lookup k = none := by
  obtain ⟨n, l, e, rfl, led, callable, found, file⟩ := exposed
  have listing : d.list cwd (f.managementDirectory suffixes) =
      .ok ((d.names l).map fun n => (f.managementDirectory suffixes).join ⟨n⟩) :=
    list_eq_ok_iff.mpr ⟨l, led, directory_of_lookup found, rfl⟩
  obtain ⟨swept, -, -, hsweep, -, -, -⟩ := Course.replay_iff.mp h
  cases hw : c.sweep with
  | absent =>
    rw [hw] at hsweep
    cases (replay_present_iff.mp hsweep).1.trans stands
  | unreadable reason =>
    rw [hw] at hsweep
    obtain ⟨-, listed⟩ := replay_present_iff.mp hsweep
    have answered := (replay_children_iff.mp listed).1
    rw [listing] at answered
    cases answered
  | listed entries =>
    rw [hw] at hsweep
    have paths := Except.ok.inj (listing.symm.trans (list_of_sweep hsweep))
    have listed : n ∈ d.names l := (d.mem_names l n).mpr (Option.isSome_of_eq_some found)
    have tried : (f.managementDirectory suffixes).join ⟨n⟩ ∈ entries.map Prod.fst := by
      rw [← paths]
      exact List.mem_map_of_mem listed
    obtain ⟨⟨path, trial⟩, hentry, rfl⟩ := List.mem_map.mp tried
    have called : Exchange.removeFile ((f.managementDirectory suffixes).join ⟨n⟩) trial.answer ∈
        c.exchanges suffixes f := by
      refine List.mem_append_left _ ?_
      rw [hw]
      refine List.mem_cons_of_mem _ (List.mem_cons_of_mem _ (List.mem_flatMap.mpr ?_))
      exact ⟨_, List.mem_map_of_mem hentry, List.mem_cons_of_mem _ List.mem_cons_self⟩
    obtain ⟨before, later, u, v, hbefore, hcall, hlater⟩ := h.of_mem called
    have beforeCall : u.Within d := within_replay hbefore
    have behindCall : left.Within v := within_replay hlater
    have behind : left.Within u := behindCall.trans (loses_takesPlace hcall).within
    cases present : u.lookup (n :: l) with
    | none => exact behind.gone present
    | some e' =>
      obtain rfl := Option.some.inj ((beforeCall _ _ present).symm.trans found)
      have unlinked := Exposes.unlink (behind.follow (still.trans led)) callable present file
      refine behindCall.gone ?_
      have deleted : v = (u.deleted (u.unlink cwd _)).2 := (congrArg Prod.snd hcall).symm
      rw [deleted, unlinked]
      change (u.delete (n :: l)).lookup (n :: l) = none
      have leaf : u.names (n :: l) = [] :=
        names_eq_nil fun same => file (Option.some.inj (present.symm.trans same))
      rw [lookup_deleted leaf, if_pos rfl]

end Disk

/-- **A run behind a linked management path.** Where a link stands at the management path, for any
footprint and any suffixes:

* each location is as it was, or what stood there is gone and was a file or link at the primary path or
  at the notification path, or was exposed in the directory that the link leads to;
* so if nothing is exposed there but what stands at the three paths themselves, nothing else goes;
* if the link leads to the same directory behind the run, all that was exposed there is gone. -/
theorem linked_directory_emptied {d : Disk} {cwd link : Location} {target : Path}
    (suffixes : Suffixes) (f : Footprint)
    (found : d.find cwd (f.managementDirectory suffixes) = .ok link)
    (linked : d.lookup link = some (.link target)) :
    let after := ((reclaim (Disk.filesystem cwd) .silent suffixes f).run d).2
    let own := fun k => d.find cwd (f.managementDirectory suffixes) = .ok k ∨
      d.find cwd f.primary = .ok k ∨ d.find cwd (f.notificationFile suffixes) = .ok k
    (∀ k, after.lookup k = d.lookup k ∨ after.lookup k = none ∧
      (d.find cwd f.primary = .ok k ∨ d.find cwd (f.notificationFile suffixes) = .ok k ∨
        d.Exposes cwd (f.managementDirectory suffixes) k) ∧ d.lookup k ≠ some .directory) ∧
    ((∀ k, d.Exposes cwd (f.managementDirectory suffixes) k → own k) →
      ∀ k, after.lookup k = d.lookup k ∨ after.lookup k = none ∧ own k) ∧
    (after.follow cwd (f.managementDirectory suffixes) =
        d.follow cwd (f.managementDirectory suffixes) →
      ∀ k, d.Exposes cwd (f.managementDirectory suffixes) k → after.lookup k = none) := by
  intro after own
  obtain ⟨c, -, hplay⟩ := reclaim_course (Disk.filesystem cwd) suffixes f d
  have confined : ∀ k, after.lookup k = d.lookup k ∨ after.lookup k = none ∧
      (d.find cwd f.primary = .ok k ∨ d.find cwd (f.notificationFile suffixes) = .ok k ∨
        d.Exposes cwd (f.managementDirectory suffixes) k) ∧ d.lookup k ≠ some .directory := by
    intro k
    refine (Disk.loses_course hplay k).imp_right (And.imp_right ?_)
    rintro (exposed | struck | struck | struck)
    · refine ⟨.inr (.inr exposed), ?_⟩
      obtain ⟨n, l, e, -, -, -, stands, file⟩ := exposed
      exact fun directory => file (Option.some.inj (stands.symm.trans directory))
    · -- A directory's deletion does not strike the link.
      obtain rfl := Except.ok.inj (found.symm.trans struck.1)
      cases linked.symm.trans (struck.2.mp rfl)
    · exact ⟨.inl struck.1, struck.file⟩
    · exact ⟨.inr (.inl struck.1), struck.file⟩
  refine ⟨confined, fun none k => (confined k).imp_right (And.imp_right ?_), fun still k => ?_⟩
  · rintro ⟨primary | note | exposed, -⟩
    · exact .inr (.inl primary)
    · exact .inr (.inr note)
    · exact none k exposed
  · exact Disk.exposed_gone (Disk.exists?_eq_true_iff.mpr ⟨link, found⟩) hplay still

/-- The sample, whose management path is a link: the directory that it leads to is emptied and stays. -/
theorem linked_directory_emptied_sample :
    let management := Footprint.atRoot.managementDirectory .standard
    let after := ((reclaim (Disk.filesystem []) .silent .standard .atRoot).run .sample).2
    (Disk.sample.find [] management = .ok [Text.encode "a.management"] ∧
      Disk.sample.lookup [Text.encode "a.management"] = some (.link (.ofString "e")) ∧
      Disk.sample.Exposes [] management [Text.encode "f", Text.encode "e"] ∧
      after.follow [] management = Disk.sample.follow [] management) ∧
    after.lookup [Text.encode "f", Text.encode "e"] = none ∧
    after.lookup [Text.encode "e"] = some .directory := by
  intro management after
  have found : Disk.sample.find [] management = .ok [Text.encode "a.management"] := rfl
  have linked : Disk.sample.lookup [Text.encode "a.management"] = some (.link (.ofString "e")) := rfl
  have exposed : Disk.sample.Exposes [] management [Text.encode "f", Text.encode "e"] :=
    ⟨_, _, _, rfl, rfl, by decide, rfl, nofun⟩
  have led : (after.follow [] management).toOption = some [Text.encode "e"] := by decide +kernel
  have still : after.follow [] management = Disk.sample.follow [] management := toOption_eq_some.mp led
  obtain ⟨confined, -, emptied⟩ := linked_directory_emptied .standard .atRoot found linked
  refine ⟨⟨found, linked, exposed, still⟩, emptied still _ exposed, ?_⟩
  rcases confined [Text.encode "e"] with same | ⟨-, -, file⟩
  · exact same
  · exact absurd rfl file

/-- **A foreign file is deleted**: it is an entry of the directory that a link at the management path
leads to, and neither there nor at the primary path nor at the notification path. -/
theorem foreign_file_deleted :
    let management := Footprint.atRoot.managementDirectory .standard
    let foreign : Location := [Text.encode "f", Text.encode "e"]
    let after := ((reclaim (Disk.filesystem []) .silent .standard .atRoot).run .sample).2
    (Footprint.ofPrimary Footprint.atRoot.primary = .ok .atRoot ∧
      Suffixes.standard.check = .ok () ∧ Suffixes.standard.management ≠ Suffixes.standard.note ∧
      Disk.sample.find [] management = .ok [Text.encode "a.management"] ∧
      Disk.sample.lookup [Text.encode "a.management"] = some (.link (.ofString "e"))) ∧
    Disk.sample.find [] management ≠ .ok foreign ∧
    Disk.sample.find [] Footprint.atRoot.primary ≠ .ok foreign ∧
    Disk.sample.find [] (Footprint.atRoot.notificationFile .standard) ≠ .ok foreign ∧
    Disk.sample.lookup foreign = some (.file (.zeros 1)) ∧
    after.lookup foreign = none := by
  intro management foreign after
  have primary : Disk.sample.find [] Footprint.atRoot.primary = .ok [Text.encode "a"] := rfl
  have note : Disk.sample.find [] (Footprint.atRoot.notificationFile .standard) = .error .notFound :=
    rfl
  have found : Disk.sample.find [] management = .ok [Text.encode "a.management"] := rfl
  refine ⟨⟨rfl, by decide, by decide, found, rfl⟩, ?_, ?_, ?_, rfl, ?_⟩
  · rw [found]
    decide
  · rw [primary]
    decide
  · rw [note]
    nofun
  · change ((reclaim (Disk.filesystem []) .silent .standard .atRoot).run .sample).2.lookup
      [Text.encode "f", Text.encode "e"] = none
    decide +kernel

end Reclaim
