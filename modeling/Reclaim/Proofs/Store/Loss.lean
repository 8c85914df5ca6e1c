import Reclaim.Proofs.Store.Refusal
import Reclaim.Proofs.Store.Children

/-!
# Losses

A store has a **loss** of some paths when it is the store of before without their nodes, no more and
no less: each path is named once, had a node, and has none now (`Loses`). Losses in a row are one loss
(`Loses.trans`), since what is gone has no node to lose again.

**The law** (`Quiet.loses_course`): behind a run on a quiet store without a listing set, the loss is
just what was removed. A visit removes what it has found, and the entries found are children, which
are listed once. The artifacts may have their paths in common: what one step has removed, the next
one does not find.

With a listing set this fails: a removal of what is not there succeeds, and a listing may name
anything, and name it twice.
-/

namespace Reclaim

theorem Attempt.removed?_sublist (as : List Attempt) :
    (as.filterMap removed?).Sublist (as.map path) := by
  induction as with
  | nil => exact List.Sublist.slnil
  | cons a as ih =>
    rw [filterMap_removed?_cons, List.map_cons]
    cases h : a.removed? with
    | none => exact ih.cons _
    | some q =>
      obtain ⟨rfl, -⟩ := removed?_eq_some.mp h
      exact ih.cons_cons _

theorem Visit.nodup_removed (kind : ArtifactKind) (path : Path) (v : Visit) :
    ((v.attempts kind path).filterMap Attempt.removed?).Nodup := by
  refine (Attempt.removed?_sublist _).nodup ?_
  cases v with
  | none => exact List.nodup_nil
  | some trial => exact List.nodup_singleton path

namespace ScriptedStore

/-- **A loss**: the second store is the first without the nodes at these paths. -/
structure Loses (s t : ScriptedStore) (removed : List Path) : Prop where
  nodup : removed.Nodup
  stood : ∀ q ∈ removed, s.store.get? q ≠ none
  node : ∀ q, t.store.get? q = if q ∈ removed then none else s.store.get? q

variable {s t u : ScriptedStore} {kind : ArtifactKind} {path directory : Path} {v : Visit} {w : Sweep}

/-- Losses in a row are one loss. -/
theorem Loses.trans {first second : List Path} (h : Loses s t first) (h' : Loses t u second) :
    Loses s u (first ++ second) := by
  -- What the first one took has no node left for the second.
  have apart : ∀ q ∈ first, q ∉ second := by
    intro q hq hq'
    refine h'.stood q hq' ?_
    rw [h.node, if_pos hq]
  refine ⟨List.nodup_append.mpr ⟨h.nodup, h'.nodup, ?_⟩, ?_, ?_⟩
  · rintro q hq _ hq' rfl
    exact apart q hq hq'
  · intro q hq
    rcases List.mem_append.mp hq with hq | hq
    · exact h.stood q hq
    · have stood := h'.stood q hq
      rw [h.node, if_neg fun hq' => apart q hq' hq] at stood
      exact stood
  · intro q
    rw [h'.node, h.node]
    by_cases hq : q ∈ second
    · rw [if_pos hq, if_pos (List.mem_append_right _ hq)]
    · simp only [hq, List.mem_append, or_false, if_false]

/-- **What is lost is what was there and is gone.** -/
theorem Loses.mem_iff {removed : List Path} (h : Loses s t removed) (q : Path) :
    q ∈ removed ↔ s.store.get? q ≠ none ∧ t.store.get? q = none := by
  constructor
  · intro hq
    refine ⟨h.stood q hq, ?_⟩
    rw [h.node, if_pos hq]
  · rintro ⟨stood, gone⟩
    refine Classical.byContradiction fun hq => stood ?_
    rw [h.node, if_neg hq] at gone
    exact gone

/-- A visit loses what it removes. -/
theorem Quiet.loses_visit (quiet : s.Quiet) (h : Replay filesystem s (v.exchanges kind path) t) :
    Loses s t ((v.attempts kind path).filterMap Attempt.removed?) := by
  have spared := quiet.sparesArtifact kind path
  refine ⟨Visit.nodup_removed kind path v, fun q hq => ?_, fun q => ?_⟩
  · obtain ⟨rfl, stood, -⟩ := (mem_removed_visit spared h).mp hq
    exact (stands_iff.mp stood).2
  · rw [← Visit.filterMap_removed?]
    exact (keeps_replay (quiet.spares q) h).node

/-- A sweep loses the children that it removes. -/
theorem Quiet.loses_sweep (quiet : s.Quiet)
    (unlisted : s.script.listings.get? directory = none)
    (h : Replay filesystem s (w.exchanges directory) t) :
    Loses s t (w.attempts.filterMap Attempt.removed?) := by
  obtain ⟨tried, removed⟩ := quiet.sweep h
  have paths : w.attempts.map Attempt.path = s.found directory := by
    have paths := congrArg (List.map Prod.snd) tried
    simp only [List.map_map] at paths
    exact paths.trans (List.map_id _)
  refine ⟨?_, fun q hq => ?_, fun q => ?_⟩
  · refine (Attempt.removed?_sublist _).nodup ?_
    rw [paths]
    exact nodup_found unlisted
  · exact node_of_mem_found unlisted ((removed q).mp hq).1
  · rw [← Sweep.filterMap_removed? directory]
    exact (keeps_replay (quiet.spares q) h).node

/-- **A run loses what it removes.** -/
theorem Quiet.loses_course {suffixes : Suffixes} {f : Footprint} {c : Course} (quiet : s.Quiet)
    (unlisted : s.script.listings.get? (f.managementDirectory suffixes) = none)
    (h : Replay filesystem s (c.exchanges suffixes f) t) :
    Loses s t ((c.attempts suffixes f).filterMap Attempt.removed?) := by
  obtain ⟨swept, visited, verified, hsweep, hdirectory, hprimary, hnote⟩ := Course.replay_iff.mp h
  have quietSwept := quiet.replay hsweep
  have quietVisited := quietSwept.replay hdirectory
  have quietVerified := quietVisited.replay hprimary
  have lost := (quiet.loses_sweep unlisted hsweep).trans
    ((quietSwept.loses_visit hdirectory).trans
      ((quietVisited.loses_visit hprimary).trans (quietVerified.loses_visit hnote)))
  simp only [Course.attempts, List.filterMap_append]
  exact lost

end ScriptedStore

end Reclaim
