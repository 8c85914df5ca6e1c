import Mathlib
import Reclaim.Proofs.Footprint
import Reclaim.Proofs.Reclamation.InStep
import Reclaim.Proofs.Store.Loss

/-!
# Siblings

The artifacts of a footprint made from its primary path are **siblings**: the bytes of one path, with
nothing, the management suffix or the note suffix behind them. A suffix in force is not empty and holds
no separator. So none of the three is an entry of another (`Store.isChild_append`), and neither sidecar
is the primary file. But the suffixes are checked one by one, and may be equal: then the two sidecars
have one path.

**The law** (`planned_once_iff`): where nothing fails, nothing waits and no listing is set, a plan lists
no path twice, and a run without warnings removes just what was planned, unless the two sidecars are one
and it stands. In that case the plan lists it as a directory and as a file, and the run does not find
again what it has deleted.
-/

namespace Reclaim

namespace Path

theorem append_empty (p : Path) : p.append "" = p := by
  rw [append, show Text.encode "" = [] from rfl, List.append_nil]

end Path

/-- **Siblings are not entries of each other**: behind what two paths share, neither has a separator. -/
theorem Store.isChild_append {s t : String} (h : isSuffix s = true) (ht : slash ∉ Text.encode t)
    (p : Path) : isChild (p.append s) (p.append t) = false := by
  obtain ⟨nonempty, hs⟩ := isSuffix_bytes h
  have unended : (p.append s).bytes.getLast? ≠ some slash := by
    rw [Path.append, List.getLast?_append_of_ne_nil _ nonempty]
    exact fun last => hs (List.mem_of_getLast? last)
  rw [Bool.eq_false_iff]
  intro child
  unfold isChild childStem at child
  rw [if_neg unended, Bool.and_assoc] at child
  have begins := List.isPrefixOf_iff_prefix.mp (Bool.and_eq_true_iff.mp child).1
  unfold Path.append at begins
  rw [List.append_assoc, List.prefix_append_right_inj] at begins
  exact ht (begins.subset (by simp))

namespace Footprint

variable {primary : Path} {f : Footprint} {suffixes : Suffixes}

/-- Neither file is an entry of the management directory. -/
theorem files_outside (made : ofPrimary primary = .ok f) (checked : suffixes.check = .ok ()) :
    Store.isChild (f.managementDirectory suffixes) f.primary = false ∧
      Store.isChild (f.managementDirectory suffixes) (f.notificationFile suffixes) = false := by
  obtain ⟨hmanagement, hnote⟩ := Suffixes.isSuffix_of_check checked
  rw [managementDirectory_eq made checked]
  refine ⟨?_, Store.isChild_append hmanagement (isSuffix_bytes hnote).2 f.primary⟩
  have outside := Store.isChild_append (t := "") hmanagement List.not_mem_nil f.primary
  rwa [Path.append_empty] at outside

end Footprint

namespace ScriptedStore

variable {s t : ScriptedStore} {suffixes : Suffixes} {f : Footprint} {c : Course}

/-- **What stands is listed once** where the primary file and the notification file have two paths and
are not entries of the management directory, unless the sidecars are one and it stands. -/
theorem nodup_standing_iff
    (unlisted : s.script.listings.get? (f.managementDirectory suffixes) = none)
    (directory_primary : f.managementDirectory suffixes ≠ f.primary)
    (primary_note : f.primary ≠ f.notificationFile suffixes)
    (primaryOutside : Store.isChild (f.managementDirectory suffixes) f.primary = false)
    (noteOutside :
      Store.isChild (f.managementDirectory suffixes) (f.notificationFile suffixes) = false) :
    ((s.standing suffixes f).map Prod.snd).Nodup ↔
      (f.managementDirectory suffixes = f.notificationFile suffixes →
        s.stands (f.managementDirectory suffixes) = false) := by
  have listed : (s.found (f.managementDirectory suffixes)).map
      (Prod.snd ∘ fun q => (ArtifactKind.managementEntry, q)) =
        s.found (f.managementDirectory suffixes) := List.map_id _
  have path : ∀ kind path found, (Survey.filePlanned kind path found).map Prod.snd =
      if found then [path] else [] := by
    intro kind path found
    cases found <;> rfl
  simp only [standing, List.map_append, List.map_map, path, listed]
  -- The entries are children, which none of the three is.
  have apart : (s.found (f.managementDirectory suffixes)).Disjoint
      ((if s.stands (f.managementDirectory suffixes) then [f.managementDirectory suffixes] else []) ++
        ((if s.stands f.primary then [f.primary] else []) ++
          if s.stands (f.notificationFile suffixes) then [f.notificationFile suffixes] else [])) := by
    intro q found artifact
    simp only [List.mem_append, List.mem_ite_nil_right, List.mem_singleton] at artifact
    rcases artifact with ⟨-, rfl⟩ | ⟨-, rfl⟩ | ⟨-, rfl⟩
    · exact not_mem_found unlisted (Store.isChild_self _) found
    · exact not_mem_found unlisted primaryOutside found
    · exact not_mem_found unlisted noteOutside found
  rw [List.nodup_append', and_iff_right (nodup_found unlisted), and_iff_left apart]
  by_cases one : f.managementDirectory suffixes = f.notificationFile suffixes
  · rw [← one]
    cases s.stands (f.managementDirectory suffixes) <;> cases s.stands f.primary <;>
      simp [directory_primary]
  · cases s.stands (f.managementDirectory suffixes) <;> cases s.stands f.primary <;>
      cases s.stands (f.notificationFile suffixes) <;> simp [directory_primary, primary_note, one]

/-- A visit tries what stands. -/
theorem Quiet.tried_visit {kind : ArtifactKind} {path : Path} {v : Visit} (quiet : s.Quiet)
    (h : Replay filesystem s (v.exchanges kind path) t) :
    (v.attempts kind path).map Attempt.artifact =
      Survey.filePlanned kind path (s.stands path) := by
  rw [← isSome_visit (quiet.spares path) h]
  cases v <;> rfl

/-- **A run tries what stands** also where the two sidecars are one, if they do not stand: then nothing
is found in the directory, nothing is removed before the primary file is visited, and the notification
file is not found either. -/
theorem Quiet.tried_of_absent (quiet : s.Quiet)
    (one : f.managementDirectory suffixes = f.notificationFile suffixes)
    (absent : s.store.get? (f.managementDirectory suffixes) = none)
    (h : Replay filesystem s (c.exchanges suffixes f) t) :
    (c.attempts suffixes f).map Attempt.artifact = s.standing suffixes f := by
  obtain ⟨swept, visited, verified, hsweep, hdirectory, hprimary, hnote⟩ := Course.replay_iff.mp h
  have unseen : ∀ u : ScriptedStore, u.store.get? (f.managementDirectory suffixes) = none →
      u.stands (f.managementDirectory suffixes) = false := fun u gone =>
    Bool.eq_false_iff.mpr fun stood => (stands_iff.mp stood).2 gone
  have nothing : s.found (f.managementDirectory suffixes) = [] := by
    rw [found, unseen s absent]
    rfl
  have entriesTried : c.sweep.attempts = [] := by
    have tried := (quiet.sweep hsweep).1
    rw [nothing] at tried
    exact List.map_eq_nil_iff.mp tried
  obtain rfl : swept = s := quiet.idle hsweep (by rw [Sweep.filterMap_removed?, entriesTried]; rfl)
  have directoryTried :
      c.directory.attempts .managementDirectory (f.managementDirectory suffixes) = [] := by
    have tried := quiet.tried_visit hdirectory
    rw [unseen _ absent] at tried
    exact List.map_eq_nil_iff.mp tried
  obtain rfl : visited = swept :=
    quiet.idle hdirectory (by rw [Visit.filterMap_removed?, directoryTried]; rfl)
  have later : verified.store.get? (f.managementDirectory suffixes) = none :=
    (keeps_replay (quiet.spares _) hprimary).gone absent
  have noteTried := (quiet.replay hprimary).tried_visit hnote
  rw [← one, unseen verified later, ← unseen visited absent] at noteTried
  simp only [Course.attempts, List.map_append, entriesTried, directoryTried,
    quiet.tried_visit hprimary, ← one, noteTried, standing, nothing, unseen visited absent]
  rfl

end ScriptedStore

open ScriptedStore

/-- **Artifacts are planned once, unless the two sidecars are one.** For a footprint made from its
primary path, suffixes that pass the check, and a quiet store with no failures and no listings set:

* neither file is an entry of the management directory, and the three artifacts have three paths exactly
  when the two suffixes differ;
* planning leaves the store as it is, and lists no path twice exactly when the two suffixes differ or
  nothing stands at the management path;
* in just these cases a run without warnings removes what was planned, in the order of the plan. -/
theorem planned_once_iff {s : ScriptedStore} {primary : Path} {f : Footprint} {suffixes : Suffixes}
    (made : Footprint.ofPrimary primary = .ok f) (checked : suffixes.check = .ok ())
    (quiet : s.Quiet) (free : ∀ call path, s.Allows call path)
    (unlisted : ∀ path, s.script.listings.get? path = none) :
    let planning := (plan filesystem suffixes f).run s
    let planned := planning.1.map Prod.snd
    let run := (reclaim filesystem .silent suffixes f).run s
    let once := suffixes.management ≠ suffixes.note ∨
      s.store.get? (f.managementDirectory suffixes) = none
    Store.isChild (f.managementDirectory suffixes) f.primary = false ∧
    Store.isChild (f.managementDirectory suffixes) (f.notificationFile suffixes) = false ∧
    (f.Apart suffixes ↔ suffixes.management ≠ suffixes.note) ∧
    planning.2 = s ∧
    (planned.Nodup ↔ once) ∧
    (run.1.warnings = [] → (run.1.removed = planned ↔ once)) := by
  intro planning planned run once
  obtain ⟨primaryOutside, noteOutside⟩ := Footprint.files_outside made checked
  have apart := Footprint.apart_iff made checked
  obtain ⟨hmanagement, hnote⟩ := Suffixes.isSuffix_of_check checked
  have directory_eq := Footprint.managementDirectory_eq made checked
  have one : f.managementDirectory suffixes = f.notificationFile suffixes ↔
      suffixes.management = suffixes.note := by
    rw [directory_eq]
    exact Path.append_inj
  obtain ⟨v, listed, looked⟩ := plan_survey filesystem suffixes f s
  obtain ⟨unchanged, standing⟩ := quiet.survey looked
  have foreseen : planned = (s.standing suffixes f).map Prod.snd :=
    congrArg (List.map Prod.snd) (listed.trans standing)
  have nodup : planned.Nodup ↔ once := by
    have directory_primary : f.managementDirectory suffixes ≠ f.primary := by
      rw [directory_eq]
      exact Path.append_ne_self hmanagement
    rw [foreseen, nodup_standing_iff (unlisted _) directory_primary (Path.append_ne_self hnote).symm
      primaryOutside noteOutside, one, stands_of_visible (free _ _), Option.isSome_eq_false_iff,
      Option.isNone_iff_eq_none]
    exact imp_iff_not_or
  refine ⟨primaryOutside, noteOutside, apart, unchanged, nodup, fun clean => ?_⟩
  obtain ⟨c, houtcome, hplay⟩ := reclaim_course filesystem suffixes f s
  have removed : run.1.removed = (c.attempts suffixes f).filterMap Attempt.removed? :=
    congrArg Outcome.removed houtcome
  constructor
  · intro same
    rw [← nodup, ← same, removed]
    exact (quiet.loses_course (unlisted _) hplay).nodup
  · intro once
    have tried : (c.attempts suffixes f).map Attempt.artifact = s.standing suffixes f := by
      by_cases distinct : suffixes.management = suffixes.note
      · exact quiet.tried_of_absent (one.mpr distinct) (once.resolve_left (absurd distinct)) hplay
      · refine (quiet.course (apart.mpr distinct) (fun q found => ⟨?_, ?_, ?_⟩) hplay).1
        · exact fun same => not_mem_found (unlisted _) (Store.isChild_self _) (same ▸ found)
        · exact fun same => not_mem_found (unlisted _) primaryOutside (same ▸ found)
        · exact fun same => not_mem_found (unlisted _) noteOutside (same ▸ found)
    have warnings : c.warnings suffixes f = [] := (congrArg Outcome.warnings houtcome).symm.trans clean
    rw [removed, Attempt.filterMap_removed?_of_no_warning (List.append_eq_nil_iff.mp warnings).2,
      foreseen, ← tried, List.map_map]
    rfl

/-- An empty management directory and a primary file are planned once each, and removed. -/
theorem planned_once_iff_sample :
    let suffixes : Suffixes := ⟨".x", ".y"⟩
    let management := Footprint.sample.managementDirectory suffixes
    let s := ScriptedStore.ofStore ((Keyed.empty.insert management .directory).insert
      Footprint.sample.primary (.file 8))
    let planned := ((plan filesystem suffixes .sample).run s).1.map Prod.snd
    let run := (reclaim filesystem .silent suffixes .sample).run s
    (Footprint.ofPrimary Footprint.sample.primary = .ok .sample ∧ suffixes.check = .ok () ∧
      s.Quiet ∧ (∀ call path, s.Allows call path) ∧ ∀ path, s.script.listings.get? path = none) ∧
    run.1.warnings = [] ∧ planned.Nodup ∧ run.1.removed = planned := by
  intro suffixes management s planned run
  have made : Footprint.ofPrimary Footprint.sample.primary = .ok .sample := rfl
  have checked : suffixes.check = .ok () := by decide
  have quiet : s.Quiet := rfl
  have free : ∀ call path, s.Allows call path := fun _ _ => rfl
  have unlisted : ∀ path, s.script.listings.get? path = none := fun _ => rfl
  have clean : ((reclaim filesystem .silent suffixes .sample).run s).1.warnings = [] := by cbv
  have distinct : suffixes.management ≠ suffixes.note := by decide
  obtain ⟨-, -, -, -, once, fulfilled⟩ := planned_once_iff made checked quiet free unlisted
  exact ⟨⟨made, checked, quiet, free, unlisted⟩, clean, once.mpr (.inl distinct),
    (fulfilled clean).mpr (.inl distinct)⟩

/-- **Planned twice**: a management directory that is its own notification file. Both suffixes pass the
check. The plan names the directory first and last, and the run removes it once and warns of nothing. -/
theorem planned_twice :
    let suffixes : Suffixes := ⟨".x", ".x"⟩
    let management := Footprint.sample.managementDirectory suffixes
    let s := ScriptedStore.ofStore ((Keyed.empty.insert management .directory).insert
      Footprint.sample.primary (.file 8))
    (Footprint.ofPrimary Footprint.sample.primary = .ok .sample ∧ suffixes.check = .ok () ∧
      s.Quiet ∧ (∀ call path, s.Allows call path) ∧ ∀ path, s.script.listings.get? path = none) ∧
    let planned := ((plan filesystem suffixes .sample).run s).1.map Prod.snd
    let run := (reclaim filesystem .silent suffixes .sample).run s
    planned = [management, Footprint.sample.primary, management] ∧
    run.1.warnings = [] ∧
    run.1.removed = [management, Footprint.sample.primary] := by
  intro suffixes management s
  have checked : suffixes.check = .ok () := by decide
  refine ⟨⟨rfl, checked, rfl, fun _ _ => rfl, fun _ => rfl⟩, ?_, ?_, ?_⟩
  · cbv
  · cbv
  · cbv

end Reclaim
