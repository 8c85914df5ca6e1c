import Reclaim.Command.Run
import Reclaim.Proofs.Reclamation.Survival
import Reclaim.Proofs.Store.Settled

/-!
# Warnings and what is left

A warning is meant to be an artifact that is left behind, and an artifact that is left behind is meant
to have one warning. The second half holds: what stands at the end has been warned of. The first half
holds **just where the management directory can be listed** (`warnings_are_survivors`), and then the
warnings are what a plan made afterwards would list.

A directory that cannot be listed is warned of before it is tried, and tried all the same
(`removed_in_spite_of_warning`). If it is empty it goes, and the warning stays: the run is not clean,
and the command counts a leftover that is not there. If it is not empty it is warned of twice, and
counted twice.
-/

namespace Reclaim

namespace ScriptedStore

variable {s t swept visited verified : ScriptedStore} {kind : ArtifactKind} {path directory q : Path}
  {suffixes : Suffixes} {f : Footprint} {c : Course}

/-- **A path can be listed** when nothing stands there, or a directory whose listing is not set to
fail. -/
def Listable (s : ScriptedStore) (directory : Path) : Prop :=
  s.store.get? directory = none ∨
    s.store.get? directory = some .directory ∧ s.Allows .children directory

theorem listingWarnings_eq_nil_iff (unlisted : s.script.listings.get? directory = none)
    (seen : s.Allows .present directory) :
    s.listingWarnings directory = [] ↔ s.Listable directory := by
  unfold listingWarnings Listable Allows
  rw [listing_eq unlisted]
  by_cases stood : s.stands directory = true
  · have node := (stands_iff.mp stood).2
    cases s.failure? .children directory with
    | some reason => simp [stood, node]
    | none =>
      by_cases isDirectory : s.store.get? directory = some .directory
      · simp [stood, isDirectory]
      · simp [stood, isDirectory, node]
  · have gone : s.store.get? directory = none := by
      refine Classical.byContradiction fun node => stood ?_
      exact stands_iff.mpr ⟨seen, node⟩
    simp [stood, gone]

/-- A listing that fails is warned of, once. -/
theorem listingWarnings_cases (directory : Path) :
    s.listingWarnings directory = [] ∨
      ∃ reason, s.listingWarnings directory = [⟨.managementDirectory, directory, reason⟩] := by
  unfold listingWarnings
  split
  · cases s.listing directory with
    | ok entries => exact .inl rfl
    | error reason => exact .inr ⟨reason, rfl⟩
  · exact .inl rfl

/-! ## A settled store -/

theorem artifact_warning? (stuck : ¬ s.Removable kind path) :
    (s.warning? kind path).map Warning.artifact = some (kind, path) := by
  cases refused : s.refusal? kind path with
  | none => exact absurd (refusal?_eq_none_iff.mp refused) stuck
  | some reason =>
    rw [warning?, refused]
    rfl

/-- What stands and cannot be removed is warned of. -/
theorem exists_visitWarning (stood : s.stands path = true) (stuck : ¬ s.Removable kind path) :
    ∃ w ∈ s.visitWarnings kind path, w.path = path := by
  obtain ⟨w, warned, artifact⟩ := Option.map_eq_some_iff.mp (artifact_warning? stuck)
  refine ⟨w, ?_, congrArg Prod.snd artifact⟩
  rw [visitWarnings, if_pos stood, warned]
  exact List.mem_singleton_self w

theorem artifacts_visit (stuck : s.stands path = true → ¬ s.Removable kind path) :
    (s.visitWarnings kind path).map Warning.artifact =
      Survey.filePlanned kind path (s.stands path) := by
  unfold visitWarnings
  by_cases stood : s.stands path = true
  · obtain ⟨w, warned, artifact⟩ := Option.map_eq_some_iff.mp (artifact_warning? (stuck stood))
    rw [if_pos stood, stood, warned, Option.toList_some, List.map_singleton, artifact]
    rfl
  · rw [if_neg stood, Bool.eq_false_iff.mpr stood]
    rfl

theorem artifacts_entries (stuck : ∀ q ∈ s.found directory, ¬ s.Removable .managementEntry q) :
    (s.entryWarnings directory).map Warning.artifact =
      (s.found directory).map (.managementEntry, ·) := by
  unfold entryWarnings
  rw [List.map_filterMap, ← List.filterMap_eq_map]
  exact List.filterMap_congr fun q found => artifact_warning? (stuck q found)

/-- **A settled store that can be listed warns of just what stands**, in the order of a plan. -/
theorem Settled.artifacts (settled : s.Settled suffixes f)
    (listed : s.listingWarnings (f.managementDirectory suffixes) = []) :
    (s.settledWarnings suffixes f).map Warning.artifact = s.standing suffixes f := by
  obtain ⟨entries, directory, primary, note⟩ := forall_mem_standing.mp settled
  rw [settledWarnings, listed, standing, ← artifacts_entries entries, ← artifacts_visit directory,
    ← artifacts_visit primary, ← artifacts_visit note]
  simp only [List.nil_append, List.map_append]

/-- What stands of a footprint with its artifacts apart stands at different paths. -/
theorem nodup_standing (unlisted : s.script.listings.get? (f.managementDirectory suffixes) = none)
    (apart : f.Apart suffixes)
    (primaryOutside : Store.isChild (f.managementDirectory suffixes) f.primary = false)
    (noteOutside :
      Store.isChild (f.managementDirectory suffixes) (f.notificationFile suffixes) = false) :
    ((s.standing suffixes f).map Prod.snd).Nodup := by
  have one : ∀ (kind : ArtifactKind) (path : Path) (found : Bool),
      ((Survey.filePlanned kind path found).map Prod.snd).Sublist [path] := by
    intro kind path found
    cases found with
    | true => exact List.Sublist.refl _
    | false => exact List.nil_sublist _
  have entries : (s.found (f.managementDirectory suffixes)).map
      (Prod.snd ∘ fun q => (ArtifactKind.managementEntry, q)) =
        s.found (f.managementDirectory suffixes) := List.map_id _
  have part : ((s.standing suffixes f).map Prod.snd).Sublist
      (s.found (f.managementDirectory suffixes) ++
        [f.managementDirectory suffixes, f.primary, f.notificationFile suffixes]) := by
    simp only [standing, List.map_append, List.map_map, entries]
    exact (List.Sublist.refl _).append ((one _ _ _).append ((one _ _ _).append (one _ _ _)))
  refine part.nodup (List.nodup_append.mpr ⟨nodup_found unlisted, ?_, ?_⟩)
  · simp [apart.directory_primary, apart.directory_note, apart.primary_note]
  · rintro q found _ artifact rfl
    simp only [List.mem_cons, List.not_mem_nil, or_false] at artifact
    rcases artifact with rfl | rfl | rfl
    · exact not_mem_found unlisted (Store.isChild_self _) found
    · exact not_mem_found unlisted primaryOutside found
    · exact not_mem_found unlisted noteOutside found

/-- What is planned is there. -/
theorem node_of_mem_standing
    (unlisted : s.script.listings.get? (f.managementDirectory suffixes) = none) :
    ∀ a ∈ s.standing suffixes f, s.store.get? a.2 ≠ none := by
  refine forall_mem_standing.mpr ⟨fun q found => ?_, fun stood => ?_, fun stood => ?_, fun stood => ?_⟩
  · exact node_of_mem_found unlisted found
  · exact (stands_iff.mp stood).2
  · exact (stands_iff.mp stood).2
  · exact (stands_iff.mp stood).2

/-- Nothing is left when none of the three artifacts is. -/
theorem standing_eq_nil_iff (seen : ∀ path, s.Allows .present path) :
    s.standing suffixes f = [] ↔
      s.store.get? (f.managementDirectory suffixes) = none ∧ s.store.get? f.primary = none ∧
        s.store.get? (f.notificationFile suffixes) = none := by
  have absent : ∀ path, s.stands path = false ↔ s.store.get? path = none := by
    intro path
    rw [← Bool.not_eq_true, stands_iff, and_iff_right (seen path), Classical.not_not]
  have none_planned : ∀ (kind : ArtifactKind) (path : Path) (found : Bool),
      Survey.filePlanned kind path found = [] ↔ found = false := by
    intro kind path found
    cases found <;> simp [Survey.filePlanned]
  simp only [standing, List.append_eq_nil_iff, List.map_eq_nil_iff, none_planned, absent]
  constructor
  · rintro ⟨-, gone⟩
    exact gone
  · intro gone
    refine ⟨?_, gone⟩
    rw [found, (absent _).mpr gone.1]
    rfl

/-! ## Behind a run -/

theorem Parts.unremoved_directory (apart : f.Apart suffixes) :
    f.managementDirectory suffixes ∉ (c.primary.exchanges .primary f.primary ++
      c.note.exchanges .notification (f.notificationFile suffixes)).filterMap
        Exchange.removed? := by
  rw [List.filterMap_append, Visit.filterMap_removed?, Visit.filterMap_removed?, List.mem_append]
  rintro (primary | note)
  · exact apart.directory_primary (eq_of_mem_removed_visit primary)
  · exact apart.directory_note (eq_of_mem_removed_visit note)

/-- A directory that is gone at the end was empty when it went, so none of its entries is left. -/
theorem Parts.emptied (p : Parts suffixes f c s swept visited verified t)
    (unlisted : s.script.listings.get? (f.managementDirectory suffixes) = none)
    (apart : f.Apart suffixes)
    (gone : t.store.get? (f.managementDirectory suffixes) = none) :
    ∀ q ∈ s.found (f.managementDirectory suffixes), t.store.get? q = none := by
  intro q found
  obtain ⟨-, -, isDirectory, -⟩ := (mem_found unlisted).mp found
  -- No other step than the visit to the directory removes it.
  have kept : swept.store.get? (f.managementDirectory suffixes) = some .directory := by
    rw [p.quiet.kept p.sweep, isDirectory]
    rw [Sweep.filterMap_removed?, (p.quiet.sweep p.sweep).2]
    rintro ⟨self, -⟩
    exact not_mem_found unlisted (Store.isChild_self _) self
  have removed : f.managementDirectory suffixes ∈
      (c.directory.attempts .managementDirectory (f.managementDirectory suffixes)).filterMap
        Attempt.removed? := by
    refine Classical.byContradiction fun unremoved => ?_
    rw [p.quietSwept.kept p.behindSweep, kept] at gone
    · cases gone
    · rw [List.filterMap_append, Visit.filterMap_removed?, List.mem_append]
      rintro (visit | files)
      · exact unremoved visit
      · exact Parts.unremoved_directory apart files
  obtain ⟨-, -, free⟩ :=
    (mem_removed_visit (p.quietSwept.sparesArtifact _ _) p.directory).mp removed
  have empty : swept.store.get? q = none :=
    childrenOf_eq_nil.mp free.2 q (isChild_of_mem_found unlisted found)
  exact (keeps_replay (p.quietSwept.spares q) p.behindSweep).gone empty

/-- Each visit warns of what stands at its path at the end. -/
theorem Parts.warnings_after (p : Parts suffixes f c s swept visited verified t)
    (apart : f.Apart suffixes)
    (primaryOutside : Store.isChild (f.managementDirectory suffixes) f.primary = false)
    (noteOutside :
      Store.isChild (f.managementDirectory suffixes) (f.notificationFile suffixes) = false) :
    c.warnings suffixes f =
      s.listingWarnings (f.managementDirectory suffixes) ++
        (s.entryWarnings (f.managementDirectory suffixes) ++
          (t.visitWarnings .managementDirectory (f.managementDirectory suffixes) ++
            (t.visitWarnings .primary f.primary ++
              t.visitWarnings .notification (f.notificationFile suffixes)))) := by
  rw [p.warnings,
    p.quietSwept.visitWarnings_eq p.directory p.behindDirectory
      (fun _ => unremoved_files primaryOutside noteOutside) (unremoved_directory apart),
    p.quietVisited.visitWarnings_eq p.primary p.note nofun p.primary_unremoved,
    p.quietVerified.visitWarnings_eq p.note (.nil t) nofun List.not_mem_nil]

/-- What stands in a settled store is warned of. -/
theorem Settled.exists_warning (settled : s.Settled suffixes f)
    (artifact : q = f.managementDirectory suffixes ∨ q = f.primary ∨ q = f.notificationFile suffixes)
    (stood : s.stands q = true) : ∃ w ∈ s.settledWarnings suffixes f, w.path = q := by
  obtain ⟨-, directory, primary, note⟩ := forall_mem_standing.mp settled
  simp only [settledWarnings, List.mem_append]
  rcases artifact with rfl | rfl | rfl
  · obtain ⟨w, hw, same⟩ := exists_visitWarning stood (directory stood)
    exact ⟨w, .inr (.inr (.inl hw)), same⟩
  · obtain ⟨w, hw, same⟩ := exists_visitWarning stood (primary stood)
    exact ⟨w, .inr (.inr (.inr (.inl hw))), same⟩
  · obtain ⟨w, hw, same⟩ := exists_visitWarning stood (note stood)
    exact ⟨w, .inr (.inr (.inr (.inr hw))), same⟩

/-- **A directory that could not be listed** is gone, or is warned of a second time. -/
theorem Quiet.listed_of_survivors (quiet : s.Quiet)
    (seen : s.Allows .present (f.managementDirectory suffixes))
    (primaryOutside : Store.isChild (f.managementDirectory suffixes) f.primary = false)
    (noteOutside :
      Store.isChild (f.managementDirectory suffixes) (f.notificationFile suffixes) = false)
    (h : Replay filesystem s (c.exchanges suffixes f) t)
    (once : ((c.warnings suffixes f).map Warning.path).Nodup)
    (left : ∀ w ∈ c.warnings suffixes f, t.store.get? w.path ≠ none) :
    s.listingWarnings (f.managementDirectory suffixes) = [] := by
  obtain ⟨swept, visited, verified, p⟩ := quiet.parts h
  rcases s.listingWarnings_cases (f.managementDirectory suffixes) with listed | ⟨reason, failed⟩
  · exact listed
  exfalso
  -- The first warning says that the directory is left. So the visit was refused, and has warned of
  -- the same path.
  rw [p.warnings, failed, List.singleton_append] at once left
  have node := left _ List.mem_cons_self
  have stood : t.stands (f.managementDirectory suffixes) = true :=
    stands_iff.mpr ⟨quiet.allows h seen, node⟩
  obtain ⟨same, stuck⟩ := p.quietSwept.settles_visit p.directory p.behindDirectory
    (fun _ => unremoved_files primaryOutside noteOutside) stood
  obtain ⟨w, hw, artifact⟩ := exists_visitWarning stood stuck
  rw [same] at hw
  have again : f.managementDirectory suffixes ∉ _ := (List.nodup_cons.mp once).1
  refine again (List.mem_map.mpr ⟨w, ?_, artifact⟩)
  exact List.mem_append_right _ (List.mem_append_left _ hw)

section

variable (quiet : s.Quiet) (unlisted : s.script.listings.get? (f.managementDirectory suffixes) = none)
  (seen : s.Allows .present (f.managementDirectory suffixes)) (apart : f.Apart suffixes)
  (primaryOutside : Store.isChild (f.managementDirectory suffixes) f.primary = false)
  (noteOutside :
    Store.isChild (f.managementDirectory suffixes) (f.notificationFile suffixes) = false)
  (h : Replay filesystem s (c.exchanges suffixes f) t)

include quiet unlisted seen apart primaryOutside noteOutside h

/-- **A run that could list the directory warns of what the settled store warns of.** -/
theorem Quiet.warnings_settled
    (listed : s.listingWarnings (f.managementDirectory suffixes) = []) :
    t.listingWarnings (f.managementDirectory suffixes) = [] ∧
      c.warnings suffixes f = t.settledWarnings suffixes f := by
  obtain ⟨swept, visited, verified, p⟩ := quiet.parts h
  have warned := p.warnings_after apart primaryOutside noteOutside
  have entries := quiet.entryWarnings_left unlisted p.sweep p.behindSweep
    (unremoved_behind_sweep primaryOutside noteOutside)
  by_cases left : t.stands (f.managementDirectory suffixes) = true
  · have unremoved := quiet.unremoved h (stands_iff.mp left).2
    have listed' := quiet.listingWarnings_kept unlisted h unremoved
    rw [← quiet.found_kept unlisted h unremoved] at entries
    refine ⟨listed'.trans listed, ?_⟩
    rw [warned, settledWarnings, listed', entries]
    rfl
  · -- The directory has gone, and its entries before it: there is nothing to warn of on either side.
    have gone : t.store.get? (f.managementDirectory suffixes) = none := by
      refine Classical.byContradiction fun node => left ?_
      exact stands_iff.mpr ⟨quiet.allows h seen, node⟩
    have emptied := p.emptied unlisted apart gone
    have noListing : t.listingWarnings (f.managementDirectory suffixes) = [] := if_neg left
    have noEntries : t.entryWarnings (f.managementDirectory suffixes) = [] := by
      rw [entryWarnings, found, if_neg left]
      rfl
    have noEntriesBefore : s.entryWarnings (f.managementDirectory suffixes) = [] := by
      rw [entries, List.filter_eq_nil_iff.mpr fun q found => by simp [emptied q found]]
      rfl
    refine ⟨noListing, ?_⟩
    rw [warned, settledWarnings, listed, noListing, noEntries, noEntriesBefore]

/-- **Where the directory can be listed, the warnings are what is left.** -/
theorem Quiet.artifacts_left (listable : s.Listable (f.managementDirectory suffixes)) :
    (c.warnings suffixes f).map Warning.artifact = t.standing suffixes f := by
  have listed := (listingWarnings_eq_nil_iff unlisted seen).mpr listable
  obtain ⟨listed', same⟩ :=
    quiet.warnings_settled unlisted seen apart primaryOutside noteOutside h listed
  rw [same]
  exact (quiet.settles unlisted primaryOutside noteOutside h).artifacts listed'

/-- **It is just there** that each warning is about a path of its own, with a node at the end. -/
theorem Quiet.survivors_iff :
    ((c.warnings suffixes f).map Warning.path).Nodup ∧
        (∀ w ∈ c.warnings suffixes f, t.store.get? w.path ≠ none) ↔
      s.Listable (f.managementDirectory suffixes) := by
  have unlisted' := quiet.unlisted h unlisted
  constructor
  · rintro ⟨once, survives⟩
    exact (listingWarnings_eq_nil_iff unlisted seen).mp
      (quiet.listed_of_survivors seen primaryOutside noteOutside h once survives)
  · intro listable
    have left := quiet.artifacts_left unlisted seen apart primaryOutside noteOutside h listable
    have paths : (c.warnings suffixes f).map Warning.path =
        (t.standing suffixes f).map Prod.snd := by
      rw [← left, List.map_map]
      rfl
    refine ⟨?_, fun w hw => ?_⟩
    · rw [paths]
      exact nodup_standing unlisted' apart primaryOutside noteOutside
    · have stood : w.artifact ∈ t.standing suffixes f := by
        rw [← left]
        exact List.mem_map_of_mem hw
      exact node_of_mem_standing unlisted' w.artifact stood

end

end ScriptedStore

open ScriptedStore

/-- What the command says of a database that is gone, when the run is not clean. -/
theorem verdictLine_of_leftovers (f : Footprint) {o : Outcome} (deleted : o.primaryDeleted = true)
    (unclean : o.isClean = false) :
    verdictLine f o = f.primary.text ++ ": " ++
      ("reclaimed with " ++ toString o.warnings.length ++ " leftover sidecar(s) (" ++
        Text.byteSize o.bytesFreed ++ " freed)") ++ "\n" := by
  have some_left : o.warnings.isEmpty = false := by
    rw [Outcome.isClean, deleted] at unclean
    exact unclean
  simp only [verdictLine, deleted, some_left, Bool.not_true, Bool.false_eq_true, if_false]

/-- **Warnings and survivors.** On a quiet store without a listing set for the management directory,
where every node can be seen, under any other failures, with the artifacts apart from each other and
the two files outside the management directory:

* the reporter was given one text to a warning, and what is left of the three artifacts has been
  warned of;
* **no artifact is warned of twice and each that is warned of is left, just where the management
  directory could be listed**;
* there the warnings are what is left, in the order of a plan. So the run is clean when none of the
  three artifacts is left, and the command counts the sidecars that are. -/
theorem warnings_are_survivors {s : ScriptedStore} (suffixes : Suffixes) (f : Footprint)
    (quiet : s.Quiet)
    (unlisted : s.script.listings.get? (f.managementDirectory suffixes) = none)
    (seen : ∀ path, s.Allows .present path) (apart : f.Apart suffixes)
    (primaryOutside : Store.isChild (f.managementDirectory suffixes) f.primary = false)
    (noteOutside :
      Store.isChild (f.managementDirectory suffixes) (f.notificationFile suffixes) = false) :
    let run := ((reclaim filesystem.recorded .recorded suffixes f).run {}).run s
    let outcome := run.1.1
    let after := run.2
    run.1.2.warnings = outcome.warnings.map Warning.text ∧
    (∀ q, q = f.managementDirectory suffixes ∨ q = f.primary ∨ q = f.notificationFile suffixes →
      after.store.get? q ≠ none → ∃ w ∈ outcome.warnings, w.path = q) ∧
    ((outcome.warnings.map Warning.path).Nodup ∧
        (∀ w ∈ outcome.warnings, after.store.get? w.path ≠ none) ↔
      s.Listable (f.managementDirectory suffixes)) ∧
    (s.Listable (f.managementDirectory suffixes) →
      outcome.warnings.map Warning.artifact = after.standing suffixes f ∧
      (outcome.isClean = true ↔
        after.store.get? (f.managementDirectory suffixes) = none ∧
          after.store.get? f.primary = none ∧
          after.store.get? (f.notificationFile suffixes) = none) ∧
      (outcome.primaryDeleted = true → outcome.isClean = false →
        verdictLine f outcome =
          f.primary.text ++ ": " ++
            ("reclaimed with " ++ toString (after.standing suffixes f).length ++
              " leftover sidecar(s) (" ++ Text.byteSize outcome.bytesFreed ++ " freed)") ++
            "\n")) := by
  intro run outcome after
  obtain ⟨_, _, t, hrun, hplay, c, rfl, rfl⟩ := (@says_reclaim _ filesystem suffixes f).run s
  have houtcome : outcome = c.outcome suffixes f := congrArg (·.1.1) hrun
  have hwarned : run.1.2.warnings = (c.warnings suffixes f).map Warning.text :=
    congrArg (·.1.2.warnings) hrun
  obtain rfl : t = after := (congrArg (·.2) hrun).symm
  have warnings : outcome.warnings = c.warnings suffixes f := congrArg Outcome.warnings houtcome
  have seen' : ∀ path, after.Allows .present path := fun path => quiet.allows hplay (seen path)
  have left : s.Listable (f.managementDirectory suffixes) →
      outcome.warnings.map Warning.artifact = after.standing suffixes f := by
    intro listable
    rw [warnings]
    exact quiet.artifacts_left unlisted (seen _) apart primaryOutside noteOutside hplay listable
  refine ⟨?_, fun q artifact node => ?_, ?_, fun listable => ⟨left listable, ?_, ?_⟩⟩
  · rw [warnings]
    exact hwarned
  · have settled := quiet.settles unlisted primaryOutside noteOutside hplay
    have part := quiet.settledWarnings_sublist unlisted primaryOutside noteOutside hplay
    obtain ⟨w, hw, same⟩ := settled.exists_warning artifact (stands_iff.mpr ⟨seen' q, node⟩)
    rw [warnings]
    exact ⟨w, part.subset hw, same⟩
  · rw [warnings]
    exact quiet.survivors_iff unlisted (seen _) apart primaryOutside noteOutside hplay
  · rw [← standing_eq_nil_iff seen', ← left listable, List.map_eq_nil_iff, warnings, houtcome]
    exact Course.isClean_iff
  · intro deleted unclean
    rw [verdictLine_of_leftovers f deleted unclean, ← left listable, List.length_map]

/-- The sample with a lock that cannot be removed: the lock and its directory are left, and are what
the run warns of. -/
theorem warnings_are_survivors_sample :
    let management := Footprint.sample.managementDirectory .standard
    let s := (ScriptedStore.ofStore .sample).setFailure .removeFile
      (.ofString "/d/a.management/lock") "busy"
    (s.Quiet ∧ s.script.listings.get? management = none ∧ (∀ path, s.Allows .present path) ∧
      Footprint.sample.Apart .standard ∧
      Store.isChild management Footprint.sample.primary = false ∧
      Store.isChild management (Footprint.sample.notificationFile .standard) = false ∧
      s.Listable management) ∧
    let run := ((reclaim filesystem.recorded .recorded .standard .sample).run {}).run s
    (run.1.1.warnings.map Warning.path).Nodup ∧
    (∀ w ∈ run.1.1.warnings, run.2.store.get? w.path ≠ none) ∧
    run.1.1.warnings.map Warning.artifact = run.2.standing .standard .sample := by
  intro management s
  have seen : ∀ path, s.Allows .present path := fun path => by
    simp [s, Allows, failure?, setFailure, ofStore, Script.empty]
  have primaryOutside : Store.isChild management Footprint.sample.primary = false := by decide
  have noteOutside :
      Store.isChild management (Footprint.sample.notificationFile .standard) = false := by decide
  have listable : s.Listable management := .inr ⟨rfl, rfl⟩
  obtain ⟨-, -, survivors, account⟩ := warnings_are_survivors (s := s) .standard .sample rfl rfl seen
    Footprint.sample_apart primaryOutside noteOutside
  obtain ⟨once, survives⟩ := survivors.mpr listable
  exact ⟨⟨rfl, rfl, seen, Footprint.sample_apart, primaryOutside, noteOutside, listable⟩, once,
    survives, (account listable).1⟩

/-- **Removed in spite of its warning**: an empty management directory that cannot be listed. Nothing
of the database is left, and the run warns of the directory and is not clean. -/
theorem removed_in_spite_of_warning :
    let management := Footprint.sample.managementDirectory .standard
    let note := Footprint.sample.notificationFile .standard
    let s := (ScriptedStore.ofStore ((Keyed.empty.insert management .directory).insert
      Footprint.sample.primary (.file 8))).setFailure .children management "permission denied"
    (s.Quiet ∧ (∀ path, s.script.listings.get? path = none) ∧ (∀ path, s.Allows .present path) ∧
      Footprint.sample.Apart .standard ∧
      Store.isChild management Footprint.sample.primary = false ∧
      Store.isChild management note = false) ∧
    let run := (reclaim filesystem .silent .standard .sample).run s
    run.1.warnings = [⟨.managementDirectory, management, "permission denied"⟩] ∧
    run.1.isClean = false ∧
    run.2.store.get? management = none ∧
    run.2.store.get? Footprint.sample.primary = none ∧
    run.2.store.get? note = none := by
  intro management note s
  have quiet : s.Quiet := rfl
  have unlisted : ∀ path, s.script.listings.get? path = none := fun _ => rfl
  have seen : ∀ path, s.Allows .present path := fun path => by
    simp [s, Allows, failure?, setFailure, ofStore, Script.empty]
  have primaryOutside : Store.isChild management Footprint.sample.primary = false := by decide
  have noteOutside : Store.isChild management note = false := by decide
  refine ⟨⟨quiet, unlisted, seen, Footprint.sample_apart, primaryOutside, noteOutside⟩, ?_⟩
  intro run
  obtain ⟨c, houtcome, hplay⟩ := reclaim_course filesystem .standard .sample s
  obtain ⟨swept, visited, verified, p⟩ := quiet.parts hplay
  have survival := get?_reclaim .standard .sample quiet unlisted Footprint.sample_apart
    primaryOutside noteOutside
  have empty : ∀ q, Store.isChild management q = true → s.store.get? q = none := by
    intro q child
    change ((Keyed.empty.insert management Node.directory).insert Footprint.sample.primary
      (Node.file 8)).get? q = none
    rw [Keyed.get?_insert, if_neg, Keyed.get?_insert, if_neg, Keyed.get?_empty]
    · rintro rfl
      rw [Store.isChild_self] at child
      cases child
    · rintro rfl
      rw [primaryOutside] at child
      cases child
  have directoryGone : run.2.store.get? management = none :=
    (survival management).1 (.directory ⟨nofun, rfl, rfl, fun q child => .inl (empty q child)⟩)
  have primaryGone : run.2.store.get? Footprint.sample.primary = none :=
    (survival Footprint.sample.primary).1 (.primary ⟨⟨8, rfl⟩, rfl, rfl⟩)
  have noteGone : run.2.store.get? note = none :=
    (keeps_replay (quiet.spares note) hplay).gone rfl
  have silent : ∀ kind path, run.2.store.get? path = none → run.2.visitWarnings kind path = [] :=
    fun kind path gone => if_neg fun stood => (stands_iff.mp stood).2 gone
  have warnings : run.1.warnings = [⟨.managementDirectory, management, "permission denied"⟩] := by
    have warned := p.warnings_after Footprint.sample_apart primaryOutside noteOutside
    rw [silent _ _ directoryGone, silent _ _ primaryGone, silent _ _ noteGone] at warned
    exact (congrArg Outcome.warnings houtcome).trans warned
  refine ⟨warnings, ?_, directoryGone, primaryGone, noteGone⟩
  rw [Outcome.isClean, warnings]
  exact Bool.and_false _

end Reclaim
