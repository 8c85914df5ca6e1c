import Reclaim.Proofs.Store.Refusal
import Reclaim.Proofs.Store.Children

/-!
# Settled stores

A store is **settled** for a footprint when nothing that stands of the footprint can be removed. A run
on a settled store changes nothing, and what it warns of is known before it starts
(`settledWarnings`).

**The law** (`Quiet.settles`): a run on a quiet store without a listing set leaves a settled store,
if the primary and the notification file are outside the management directory. For what stands at
the end stood when it was tried, and was refused for a reason that is still in the way: a failure is
not taken back, a directory stays one, and a directory that was not empty keeps a child, since behind
the sweep no step removes one. The artifacts may have their paths in common.
-/

namespace Reclaim.ScriptedStore

variable {s t u : ScriptedStore} {kind : ArtifactKind} {path directory q : Path} {v : Visit}
  {w : Sweep} {log : List Exchange} {suffixes : Suffixes} {f : Footprint}

/-- **Nothing that stands of a footprint can be removed.** -/
def Settled (s : ScriptedStore) (suffixes : Suffixes) (f : Footprint) : Prop :=
  ∀ a ∈ s.standing suffixes f, ¬ s.Removable a.1 a.2

theorem forall_mem_standing {P : Planned → Prop} :
    (∀ a ∈ s.standing suffixes f, P a) ↔
      (∀ q ∈ s.found (f.managementDirectory suffixes), P (.managementEntry, q)) ∧
      (s.stands (f.managementDirectory suffixes) = true →
        P (.managementDirectory, f.managementDirectory suffixes)) ∧
      (s.stands f.primary = true → P (.primary, f.primary)) ∧
      (s.stands (f.notificationFile suffixes) = true →
        P (.notification, f.notificationFile suffixes)) := by
  have single : ∀ (kind : ArtifactKind) (path : Path) (found : Bool),
      (∀ a ∈ Survey.filePlanned kind path found, P a) ↔ (found = true → P (kind, path)) := by
    intro kind path found
    cases found <;> simp [Survey.filePlanned]
  simp only [standing, List.forall_mem_append, List.forall_mem_map, single]

/-! ## What a log leaves alone -/

theorem Quiet.kept (quiet : s.Quiet) (h : Replay filesystem s log t)
    (unremoved : q ∉ log.filterMap Exchange.removed?) : t.store.get? q = s.store.get? q := by
  rw [(keeps_replay (quiet.spares q) h).node, if_neg unremoved]

theorem Quiet.allows (quiet : s.Quiet) (h : Replay filesystem s log t) {call : CallKind}
    (allowed : s.Allows call q) : t.Allows call q := by
  unfold Allows
  rw [quiet.failures h]
  exact allowed

theorem Quiet.unlisted (quiet : s.Quiet) (h : Replay filesystem s log t)
    (unlisted : s.script.listings.get? directory = none) :
    t.script.listings.get? directory = none := by
  rw [quiet.script h]
  exact unlisted

theorem Quiet.stands_kept (quiet : s.Quiet) (h : Replay filesystem s log t)
    (unremoved : q ∉ log.filterMap Exchange.removed?) : t.stands q = s.stands q :=
  (keeps_replay (quiet.spares q) h).stands unremoved

/-- What stands behind a log was not removed by it. -/
theorem Quiet.unremoved (quiet : s.Quiet) (h : Replay filesystem s log t)
    (left : t.store.get? q ≠ none) : q ∉ log.filterMap Exchange.removed? := by
  intro removed
  refine left ?_
  rw [(keeps_replay (quiet.spares q) h).node, if_pos removed]

/-- **An artifact that a log leaves alone is refused as before.** -/
theorem Quiet.warning?_kept (quiet : s.Quiet) (h : Replay filesystem s log t)
    (unremoved : path ∉ log.filterMap Exchange.removed?)
    (below : kind = .managementDirectory →
      ∀ c, Store.isChild path c = true → c ∉ log.filterMap Exchange.removed?) :
    t.warning? kind path = s.warning? kind path := by
  refine warning?_congr (quiet.failures h) (yields_congr (quiet.kept h unremoved) ?_)
  exact fun directory c child => quiet.kept h (below directory c child)

/-- A directory that a log leaves alone holds the entries of before, less those removed. -/
theorem Quiet.found_kept (quiet : s.Quiet)
    (unlisted : s.script.listings.get? directory = none) (h : Replay filesystem s log t)
    (unremoved : directory ∉ log.filterMap Exchange.removed?) :
    t.found directory = (s.found directory).filter fun q => (t.store.get? q).isSome := by
  have unlisted' := quiet.unlisted h unlisted
  have lost : ∀ c, Store.isChild directory c = true →
      t.store.get? c = none ∨ t.store.get? c = s.store.get? c := by
    intro c _
    rw [(keeps_replay (quiet.spares c) h).node]
    split
    · exact .inl rfl
    · exact .inr rfl
  unfold found
  rw [quiet.stands_kept h unremoved, listing_eq unlisted, listing_eq unlisted', quiet.failures h,
    quiet.kept h unremoved, Store.childrenOf_eq_filter lost]
  cases s.stands directory with
  | false => rfl
  | true =>
    cases s.failure? .children directory with
    | some reason => rfl
    | none =>
      by_cases isDirectory : s.store.get? directory = some .directory
      · simp [Survey.entries, isDirectory]
      · simp [Survey.entries, isDirectory]

theorem Quiet.listingWarnings_kept (quiet : s.Quiet)
    (unlisted : s.script.listings.get? directory = none) (h : Replay filesystem s log t)
    (unremoved : directory ∉ log.filterMap Exchange.removed?) :
    t.listingWarnings directory = s.listingWarnings directory := by
  have unlisted' := quiet.unlisted h unlisted
  unfold listingWarnings
  rw [quiet.stands_kept h unremoved, listing_eq unlisted, listing_eq unlisted', quiet.failures h,
    quiet.kept h unremoved]
  cases s.failure? .children directory with
  | some reason => rfl
  | none =>
    by_cases isDirectory : s.store.get? directory = some .directory
    · simp [isDirectory]
    · simp [isDirectory]

/-! ## One visit, and what comes behind it -/

/-- **What stands at the end was refused when it was visited**, and is refused still. -/
theorem Quiet.settles_visit (quiet : s.Quiet) (h : Replay filesystem s (v.exchanges kind path) u)
    (later : Replay filesystem u log t)
    (below : kind = .managementDirectory →
      ∀ c, Store.isChild path c = true → c ∉ log.filterMap Exchange.removed?)
    (left : t.stands path = true) :
    t.visitWarnings kind path = s.visitWarnings kind path ∧ ¬ t.Removable kind path := by
  have whole := Replay.append_iff.mpr ⟨u, h, later⟩
  have unremoved := quiet.unremoved whole (stands_iff.mp left).2
  have stood : s.stands path = true := by
    rw [← quiet.stands_kept whole unremoved]
    exact left
  -- What a refusal depends on is touched neither by the visit nor behind it.
  have same : t.warning? kind path = s.warning? kind path := by
    refine quiet.warning?_kept whole unremoved fun hk c child removed => ?_
    rw [List.filterMap_append, Visit.filterMap_removed?] at removed
    rcases List.mem_append.mp removed with removed | removed
    · obtain rfl := eq_of_mem_removed_visit removed
      rw [Store.isChild_self] at child
      cases child
    · exact below hk c child removed
  -- Had it been removable, the visit would have taken it.
  have refused : ¬ s.Removable kind path := by
    intro free
    refine unremoved ?_
    rw [List.filterMap_append, Visit.filterMap_removed?]
    have removed := (mem_removed_visit (quiet.sparesArtifact kind path) h).mpr ⟨rfl, stood, free⟩
    exact List.mem_append_left _ removed
  refine ⟨?_, ?_⟩
  · rw [visitWarnings, visitWarnings, left, stood, same]
  · rw [← warning?_eq_none_iff, same, warning?_eq_none_iff]
    exact refused

theorem Quiet.visitWarnings_sublist (quiet : s.Quiet)
    (h : Replay filesystem s (v.exchanges kind path) u) (later : Replay filesystem u log t)
    (below : kind = .managementDirectory →
      ∀ c, Store.isChild path c = true → c ∉ log.filterMap Exchange.removed?) :
    (t.visitWarnings kind path).Sublist (s.visitWarnings kind path) := by
  by_cases left : t.stands path = true
  · rw [(quiet.settles_visit h later below left).1]
  · rw [visitWarnings, if_neg left]
    exact List.nil_sublist _

/-- Where nothing behind the visit removes the artifact, the warnings are the same. -/
theorem Quiet.visitWarnings_eq (quiet : s.Quiet)
    (h : Replay filesystem s (v.exchanges kind path) u) (later : Replay filesystem u log t)
    (below : kind = .managementDirectory →
      ∀ c, Store.isChild path c = true → c ∉ log.filterMap Exchange.removed?)
    (own : path ∉ log.filterMap Exchange.removed?) :
    t.visitWarnings kind path = s.visitWarnings kind path := by
  by_cases left : t.stands path = true
  · exact (quiet.settles_visit h later below left).1
  rw [visitWarnings, if_neg left, visitWarnings]
  by_cases stood : s.stands path = true
  · -- It stood and stands no more: the visit has removed it.
    have free : s.Removable kind path := by
      refine Classical.byContradiction fun refused => left ?_
      have whole := Replay.append_iff.mpr ⟨u, h, later⟩
      rw [quiet.stands_kept whole, stood]
      rw [List.filterMap_append, Visit.filterMap_removed?, List.mem_append,
        mem_removed_visit (quiet.sparesArtifact kind path) h]
      rintro (⟨-, -, free⟩ | removed)
      · exact refused free
      · exact own removed
    rw [if_pos stood, warning?_eq_none_iff.mpr free]
    rfl
  · rw [if_neg stood]

/-! ## A sweep, and what comes behind it -/

/-- **An entry found is gone at the end exactly when it could be removed**, if nothing behind the
sweep removes it. -/
theorem Quiet.gone_entry_iff (quiet : s.Quiet)
    (unlisted : s.script.listings.get? directory = none)
    (h : Replay filesystem s (w.exchanges directory) u) (later : Replay filesystem u log t)
    (unremoved : q ∉ log.filterMap Exchange.removed?) (found : q ∈ s.found directory) :
    t.store.get? q = none ↔ s.Removable .managementEntry q := by
  have whole := Replay.append_iff.mpr ⟨u, h, later⟩
  have stood := node_of_mem_found unlisted found
  have removed_iff : q ∈ (w.exchanges directory ++ log).filterMap Exchange.removed? ↔
      s.Removable .managementEntry q := by
    rw [List.filterMap_append, Sweep.filterMap_removed?, List.mem_append, (quiet.sweep h).2,
      and_iff_right found, or_iff_left unremoved]
  rw [← removed_iff, (keeps_replay (quiet.spares q) whole).node]
  by_cases removed : q ∈ (w.exchanges directory ++ log).filterMap Exchange.removed?
  · simp only [removed, if_true]
  · simp only [removed, if_false, stood]

/-- **The entries that stand at the end were refused**, and are refused still. -/
theorem Quiet.settles_entry (quiet : s.Quiet)
    (unlisted : s.script.listings.get? directory = none)
    (h : Replay filesystem s (w.exchanges directory) u) (later : Replay filesystem u log t)
    (unremoved : q ∉ log.filterMap Exchange.removed?) (found : q ∈ s.found directory)
    (left : t.store.get? q ≠ none) :
    t.warning? .managementEntry q = s.warning? .managementEntry q ∧
      ¬ t.Removable .managementEntry q := by
  have whole := Replay.append_iff.mpr ⟨u, h, later⟩
  have same : t.warning? .managementEntry q = s.warning? .managementEntry q :=
    quiet.warning?_kept whole (quiet.unremoved whole left) fun hk => by cases hk
  refine ⟨same, ?_⟩
  rw [← warning?_eq_none_iff, same, warning?_eq_none_iff,
    ← quiet.gone_entry_iff unlisted h later unremoved found]
  exact left

/-- So the warnings about entries are those about the entries that are left. -/
theorem Quiet.entryWarnings_left (quiet : s.Quiet)
    (unlisted : s.script.listings.get? directory = none)
    (h : Replay filesystem s (w.exchanges directory) u) (later : Replay filesystem u log t)
    (untouched : ∀ c, Store.isChild directory c = true → c ∉ log.filterMap Exchange.removed?) :
    s.entryWarnings directory =
      ((s.found directory).filter fun q => (t.store.get? q).isSome).filterMap
        (t.warning? .managementEntry) := by
  unfold entryWarnings
  rw [List.filterMap_filter]
  refine List.filterMap_congr fun q found => ?_
  have unremoved := untouched q (isChild_of_mem_found unlisted found)
  by_cases left : t.store.get? q = none
  · rw [left, Option.isSome_none, if_neg Bool.false_ne_true, warning?_eq_none_iff]
    exact (quiet.gone_entry_iff unlisted h later unremoved found).mp left
  · rw [if_pos (Option.isSome_iff_ne_none.mpr left)]
    exact (quiet.settles_entry unlisted h later unremoved found left).1.symm

/-! ## The parts of a run -/

/-- **The parts of a run**, with the states between them. -/
structure Parts (suffixes : Suffixes) (f : Footprint) (c : Course)
    (s swept visited verified t : ScriptedStore) : Prop where
  quiet : s.Quiet
  sweep : Replay filesystem s (c.sweep.exchanges (f.managementDirectory suffixes)) swept
  directory : Replay filesystem swept
    (c.directory.exchanges .managementDirectory (f.managementDirectory suffixes)) visited
  primary : Replay filesystem visited (c.primary.exchanges .primary f.primary) verified
  note : Replay filesystem verified
    (c.note.exchanges .notification (f.notificationFile suffixes)) t

variable {c : Course} {swept visited verified : ScriptedStore}

theorem Quiet.parts (quiet : s.Quiet) (h : Replay filesystem s (c.exchanges suffixes f) t) :
    ∃ swept visited verified, Parts suffixes f c s swept visited verified t := by
  obtain ⟨swept, visited, verified, sweep, directory, primary, note⟩ := Course.replay_iff.mp h
  exact ⟨swept, visited, verified, quiet, sweep, directory, primary, note⟩

namespace Parts

theorem quietSwept (p : Parts suffixes f c s swept visited verified t) : swept.Quiet :=
  p.quiet.replay p.sweep

theorem quietVisited (p : Parts suffixes f c s swept visited verified t) : visited.Quiet :=
  p.quietSwept.replay p.directory

theorem quietVerified (p : Parts suffixes f c s swept visited verified t) : verified.Quiet :=
  p.quietVisited.replay p.primary

theorem behindDirectory (p : Parts suffixes f c s swept visited verified t) :
    Replay filesystem visited (c.primary.exchanges .primary f.primary ++
      c.note.exchanges .notification (f.notificationFile suffixes)) t :=
  Replay.append_iff.mpr ⟨verified, p.primary, p.note⟩

theorem behindSweep (p : Parts suffixes f c s swept visited verified t) :
    Replay filesystem swept
      (c.directory.exchanges .managementDirectory (f.managementDirectory suffixes) ++
        (c.primary.exchanges .primary f.primary ++
          c.note.exchanges .notification (f.notificationFile suffixes))) t :=
  Replay.append_iff.mpr ⟨visited, p.directory, p.behindDirectory⟩

/-- What a run warns of, part by part. -/
theorem warnings (p : Parts suffixes f c s swept visited verified t) :
    c.warnings suffixes f =
      s.listingWarnings (f.managementDirectory suffixes) ++
        (s.entryWarnings (f.managementDirectory suffixes) ++
          (swept.visitWarnings .managementDirectory (f.managementDirectory suffixes) ++
            (visited.visitWarnings .primary f.primary ++
              verified.visitWarnings .notification (f.notificationFile suffixes)))) := by
  obtain ⟨listing, entries⟩ := p.quiet.warnings_sweep p.sweep
  rw [← listing, ← entries, ← p.quietSwept.warnings_visit p.directory,
    ← p.quietVisited.warnings_visit p.primary, ← p.quietVerified.warnings_visit p.note]
  simp only [Course.warnings, Course.attempts, List.filterMap_append]

/-- The verdict is that the visit to the primary file warns of nothing. -/
theorem verdict (p : Parts suffixes f c s swept visited verified t) :
    c.verdict = (visited.visitWarnings .primary f.primary).isEmpty := by
  rw [← p.quietVisited.warnings_visit p.primary]
  exact (Visit.isEmpty_warnings .primary f.primary c.primary).symm

/-- The visit to the notification file does not remove the primary file, be it the same: what it could
remove, the visit before it has removed. -/
theorem primary_unremoved (p : Parts suffixes f c s swept visited verified t) :
    f.primary ∉ (c.note.exchanges .notification (f.notificationFile suffixes)).filterMap
      Exchange.removed? := by
  intro removed
  rw [Visit.filterMap_removed?] at removed
  have same := eq_of_mem_removed_visit removed
  obtain ⟨-, stood, free⟩ :=
    (mem_removed_visit (p.quietVerified.sparesArtifact _ _) p.note).mp removed
  rw [← same] at stood free
  have unremoved := p.quietVisited.unremoved p.primary (stands_iff.mp stood).2
  have kept := keeps_replay (p.quietVisited.spares f.primary) p.primary
  have stoodBefore : visited.stands f.primary = true := (kept.stands unremoved).symm.trans stood
  have freeBefore : visited.Removable .primary f.primary := by
    rw [← kept.removable unremoved (by decide), removable_file (by decide)]
    exact (removable_file (by decide)).mp free
  refine unremoved ?_
  rw [Visit.filterMap_removed?]
  exact (mem_removed_visit (p.quietVisited.sparesArtifact _ _) p.primary).mpr
    ⟨rfl, stoodBefore, freeBefore⟩

end Parts

/-- The visits to the two files remove no child of a directory that holds neither. -/
theorem unremoved_files (primaryOutside : Store.isChild directory f.primary = false)
    (noteOutside : Store.isChild directory (f.notificationFile suffixes) = false) :
    ∀ q, Store.isChild directory q = true →
      q ∉ (c.primary.exchanges .primary f.primary ++
        c.note.exchanges .notification (f.notificationFile suffixes)).filterMap
          Exchange.removed? := by
  intro q child removed
  rw [List.filterMap_append, Visit.filterMap_removed?, Visit.filterMap_removed?] at removed
  rcases List.mem_append.mp removed with removed | removed
  · obtain rfl := eq_of_mem_removed_visit removed
    rw [primaryOutside] at child
    cases child
  · obtain rfl := eq_of_mem_removed_visit removed
    rw [noteOutside] at child
    cases child

/-- Nor does the visit to the directory itself. -/
theorem unremoved_behind_sweep (primaryOutside : Store.isChild directory f.primary = false)
    (noteOutside : Store.isChild directory (f.notificationFile suffixes) = false) :
    ∀ q, Store.isChild directory q = true →
      q ∉ (c.directory.exchanges .managementDirectory directory ++
        (c.primary.exchanges .primary f.primary ++
          c.note.exchanges .notification (f.notificationFile suffixes))).filterMap
            Exchange.removed? := by
  intro q child removed
  rw [List.filterMap_append, Visit.filterMap_removed?] at removed
  rcases List.mem_append.mp removed with removed | removed
  · obtain rfl := eq_of_mem_removed_visit removed
    rw [Store.isChild_self] at child
    cases child
  · exact unremoved_files primaryOutside noteOutside q child removed

/-! ## The law -/

/-- What a run on a settled store warns of. -/
def settledWarnings (s : ScriptedStore) (suffixes : Suffixes) (f : Footprint) : List Warning :=
  s.listingWarnings (f.managementDirectory suffixes) ++
    (s.entryWarnings (f.managementDirectory suffixes) ++
      (s.visitWarnings .managementDirectory (f.managementDirectory suffixes) ++
        (s.visitWarnings .primary f.primary ++
          s.visitWarnings .notification (f.notificationFile suffixes))))

section

variable (quiet : s.Quiet) (unlisted : s.script.listings.get? (f.managementDirectory suffixes) = none)
  (primaryOutside : Store.isChild (f.managementDirectory suffixes) f.primary = false)
  (noteOutside :
    Store.isChild (f.managementDirectory suffixes) (f.notificationFile suffixes) = false)
  (h : Replay filesystem s (c.exchanges suffixes f) t)

include quiet unlisted primaryOutside noteOutside h

/-- **A run leaves a settled store.** -/
theorem Quiet.settles : t.Settled suffixes f := by
  obtain ⟨swept, visited, verified, p⟩ := quiet.parts h
  refine forall_mem_standing.mpr ⟨fun q found => ?_, fun left => ?_, fun left => ?_, fun left => ?_⟩
  · have unlisted' := quiet.unlisted h unlisted
    obtain ⟨-, -, isDirectory, -⟩ := (mem_found unlisted').mp found
    have child := isChild_of_mem_found unlisted' found
    have left := node_of_mem_found unlisted' found
    have unremoved := quiet.unremoved h (isDirectory ▸ Option.some_ne_none _)
    rw [quiet.found_kept unlisted h unremoved, List.mem_filter] at found
    exact (quiet.settles_entry unlisted p.sweep p.behindSweep
      (unremoved_behind_sweep primaryOutside noteOutside q child) found.1 left).2
  · exact (p.quietSwept.settles_visit p.directory p.behindDirectory
      (fun _ => unremoved_files primaryOutside noteOutside) left).2
  · exact (p.quietVisited.settles_visit p.primary p.note nofun left).2
  · exact (p.quietVerified.settles_visit p.note (.nil t) nofun left).2

/-- **What a settled store goes on to warn of, the run has warned of**, in this order. -/
theorem Quiet.settledWarnings_sublist :
    (t.settledWarnings suffixes f).Sublist (c.warnings suffixes f) := by
  obtain ⟨swept, visited, verified, p⟩ := quiet.parts h
  have directory := p.quietSwept.visitWarnings_sublist p.directory p.behindDirectory
    fun _ => unremoved_files primaryOutside noteOutside
  have primary := p.quietVisited.visitWarnings_sublist p.primary p.note nofun
  have note := p.quietVerified.visitWarnings_sublist p.note (.nil t) nofun
  have visits := directory.append (primary.append note)
  rw [p.warnings, settledWarnings]
  -- Where the directory is gone, only the visits can warn again.
  by_cases left : t.stands (f.managementDirectory suffixes) = true
  · have unremoved := quiet.unremoved h (stands_iff.mp left).2
    rw [quiet.listingWarnings_kept unlisted h unremoved,
      quiet.entryWarnings_left unlisted p.sweep p.behindSweep
        (unremoved_behind_sweep primaryOutside noteOutside), entryWarnings,
      quiet.found_kept unlisted h unremoved]
    exact (List.Sublist.refl _).append ((List.Sublist.refl _).append visits)
  · have noListing : t.listingWarnings (f.managementDirectory suffixes) = [] := if_neg left
    have noEntries : t.entryWarnings (f.managementDirectory suffixes) = [] := by
      rw [entryWarnings, found, if_neg left]
      rfl
    rw [noListing, noEntries]
    exact (List.nil_sublist _).append ((List.nil_sublist _).append visits)

end

/-- The verdict can be read off the last state. -/
theorem Quiet.verdict_settled (quiet : s.Quiet)
    (h : Replay filesystem s (c.exchanges suffixes f) t) :
    c.verdict = (t.visitWarnings .primary f.primary).isEmpty := by
  obtain ⟨swept, visited, verified, p⟩ := quiet.parts h
  rw [p.verdict, p.quietVisited.visitWarnings_eq p.primary p.note nofun p.primary_unremoved]

/-! ## A run on a settled store -/

theorem Quiet.idle_visit (quiet : s.Quiet)
    (stuck : s.stands path = true → ¬ s.Removable kind path)
    (h : Replay filesystem s (v.exchanges kind path) t) :
    t = s ∧ (v.attempts kind path).filterMap Attempt.removed? = [] := by
  have nothing : (v.attempts kind path).filterMap Attempt.removed? = [] := by
    refine List.eq_nil_iff_forall_not_mem.mpr fun q removed => ?_
    obtain ⟨-, stood, free⟩ := (mem_removed_visit (quiet.sparesArtifact kind path) h).mp removed
    exact stuck stood free
  refine ⟨quiet.idle h ?_, nothing⟩
  rw [Visit.filterMap_removed?]
  exact nothing

theorem Quiet.idle_sweep (quiet : s.Quiet)
    (stuck : ∀ q ∈ s.found directory, ¬ s.Removable .managementEntry q)
    (h : Replay filesystem s (w.exchanges directory) t) :
    t = s ∧ w.attempts.filterMap Attempt.removed? = [] := by
  have nothing : w.attempts.filterMap Attempt.removed? = [] := by
    refine List.eq_nil_iff_forall_not_mem.mpr fun q removed => ?_
    obtain ⟨found, free⟩ := ((quiet.sweep h).2 q).mp removed
    exact stuck q found free
  refine ⟨quiet.idle h ?_, nothing⟩
  rw [Sweep.filterMap_removed?]
  exact nothing

/-- **A run on a settled store** changes nothing and removes nothing. -/
theorem Settled.idle (settled : s.Settled suffixes f) (quiet : s.Quiet)
    (h : Replay filesystem s (c.exchanges suffixes f) t) :
    t = s ∧ (c.attempts suffixes f).filterMap Attempt.removed? = [] ∧
      c.warnings suffixes f = s.settledWarnings suffixes f ∧
      c.verdict = (s.visitWarnings .primary f.primary).isEmpty := by
  obtain ⟨swept, visited, verified, p⟩ := quiet.parts h
  obtain ⟨entriesStuck, directoryStuck, primaryStuck, noteStuck⟩ := forall_mem_standing.mp settled
  have warned := p.warnings
  have verdict := p.verdict
  obtain ⟨rfl, entries⟩ := quiet.idle_sweep entriesStuck p.sweep
  obtain ⟨rfl, directory⟩ := quiet.idle_visit directoryStuck p.directory
  obtain ⟨rfl, primary⟩ := quiet.idle_visit primaryStuck p.primary
  obtain ⟨rfl, note⟩ := quiet.idle_visit noteStuck p.note
  refine ⟨rfl, ?_, warned, verdict⟩
  simp only [Course.attempts, List.filterMap_append, entries, directory, primary, note,
    List.append_nil]

end Reclaim.ScriptedStore
