import Reclaim.Proofs.Reclamation.InStep
import Reclaim.Proofs.Store.Refusal
import Mathlib.Algebra.Group.Nat.Defs

/-!
# Bytes freed

What a run counts as freed is what the store has lost: the total of the sizes before is the total
after, and the bytes freed (`bytes_conserved`).

The size of an artifact is read before its removal, in a call of its own, and counted only if the
removal goes through. On a quiet store nothing comes between the two calls, so each attempt counts
what it takes away (`Quiet.conserves_attempt`), and a run is a row of attempts. Nothing is asked of
the listings: a path that is named again, or met again under another kind, has no size any more.

Reading a size must not fail. Where it does, the artifact goes and nothing is counted.
-/

namespace Reclaim

/-- Taking away one entry takes its size from the sum, by induction on the entries. -/
theorem Store.sizes_filter {entries : List (Path × Node)} (path : Path)
    (distinct : (entries.map Prod.fst).Nodup) :
    (entries.filter fun e => e.1 ≠ path).foldr (fun e bytes => e.2.size?.getD 0 + bytes) 0 +
        ((entries.find? fun e => e.1 = path).bind fun e => e.2.size?).getD 0 =
      entries.foldr (fun e bytes => e.2.size?.getD 0 + bytes) 0 := by
  induction entries with
  | nil => rfl
  | cons e entries ih =>
    obtain ⟨fresh, distinct⟩ := List.nodup_cons.mp distinct
    by_cases here : e.1 = path
    · -- No other entry has this path, so the rest stays whole.
      have others : ∀ e' ∈ entries, e'.1 ≠ path := by
        rintro e' he' rfl
        exact fresh (here ▸ List.mem_map_of_mem he')
      have rest : (entries.filter fun e' => e'.1 ≠ path) = entries :=
        List.filter_eq_self.mpr fun e' he' => decide_eq_true (others e' he')
      rw [List.filter_cons_of_neg (by simp [here]), rest, List.find?_cons_of_pos (by simp [here])]
      exact Nat.add_comm _ _
    · have rest := ih distinct
      rw [List.filter_cons_of_pos (by simp [here]), List.find?_cons_of_neg (by simp [here]),
        List.foldr_cons, List.foldr_cons]
      omega

/-- **A store without a path is smaller by the size of its file.** -/
theorem Store.total_erase (s : Store) (path : Path) :
    total (s.erase path) + (s.sizeOf? path).getD 0 = s.total := by
  have sizes := sizes_filter path s.distinct
  unfold sizeOf? Keyed.get?
  rw [Option.bind_map]
  exact sizes

theorem Attempt.bytesFreed_le_of_prefix {first as : List Attempt} (h : first <+: as) :
    bytesFreed first ≤ bytesFreed as := by
  obtain ⟨rest, rfl⟩ := h
  rw [bytesFreed_append]
  exact Nat.le_add_right _ _

namespace ScriptedStore

variable {s t : ScriptedStore} {kind : ArtifactKind} {path directory : Path} {trial : Trial}
  {v : Visit} {w : Sweep} {suffixes : Suffixes} {f : Footprint} {c : Course}

/-- **Every size can be read.** -/
def Sized (s : ScriptedStore) : Prop := ∀ path, s.failure? .fileSize path = none

theorem Sized.measured (sized : s.Sized) (path : Path) : s.measured path = s.store.sizeOf? path := by
  rw [ScriptedStore.measured, sized path]

theorem Sized.replay {log : List Exchange} (sized : s.Sized) (quiet : s.Quiet)
    (h : Replay filesystem s log t) : t.Sized := by
  intro path
  rw [quiet.failures h]
  exact sized path

/-- **An attempt counts what it takes away.** -/
theorem Quiet.conserves_attempt (quiet : s.Quiet) (sized : s.Sized)
    (h : Replay filesystem s (Attempt.exchanges ⟨trial, kind, path⟩) t) :
    t.store.total + Attempt.freed ⟨trial, kind, path⟩ = s.store.total := by
  obtain ⟨size, answer⟩ := trial
  obtain ⟨measured, tried⟩ := quiet.attempt h
  rw [sized.measured] at measured
  obtain rfl : size = s.store.sizeOf? path := measured
  rcases tried with ⟨-, rfl, rfl⟩ | ⟨reason, -, rfl, rfl⟩
  · exact s.store.total_erase path
  · exact Nat.add_zero _

/-- **So do attempts in a row**, by induction on them. -/
theorem Quiet.conserves_attempts {as : List Attempt} (quiet : s.Quiet) (sized : s.Sized)
    (h : Replay filesystem s (as.flatMap Attempt.exchanges) t) :
    t.store.total + Attempt.bytesFreed as = s.store.total := by
  induction as generalizing s with
  | nil =>
    obtain rfl := Replay.nil_iff.mp h
    exact Nat.add_zero _
  | cons a as ih =>
    rw [List.flatMap_cons] at h
    obtain ⟨u, first, rest⟩ := Replay.append_iff.mp h
    have one : u.store.total + a.freed = s.store.total := quiet.conserves_attempt sized first
    have others := ih (quiet.replay first) (sized.replay quiet first) rest
    change t.store.total + (a.freed + Attempt.bytesFreed as) = s.store.total
    omega

theorem Quiet.conserves_visit (quiet : s.Quiet) (sized : s.Sized)
    (h : Replay filesystem s (v.exchanges kind path) t) :
    t.store.total + Attempt.bytesFreed (v.attempts kind path) = s.store.total := by
  obtain ⟨u, found, tried⟩ := Replay.cons_iff.mp h
  obtain ⟨-, rfl⟩ := quiet.present found
  exact quiet.conserves_attempts sized tried

/-- A sweep counts what it takes away, whatever the listing names. -/
theorem Quiet.conserves_sweep (quiet : s.Quiet) (sized : s.Sized)
    (h : Replay filesystem s (w.exchanges directory) t) :
    t.store.total + Attempt.bytesFreed w.attempts = s.store.total := by
  -- Without attempts, a sweep only looks.
  have idle : w.attempts = [] → t.store.total + Attempt.bytesFreed w.attempts = s.store.total := by
    intro nothing
    have unremoved : (w.exchanges directory).filterMap Exchange.removed? = [] := by
      rw [Sweep.filterMap_removed?, nothing]
      rfl
    rw [quiet.idle h unremoved, nothing]
    rfl
  cases w with
  | absent => exact idle rfl
  | unreadable reason => exact idle rfl
  | listed entries =>
    obtain ⟨u, found, rest⟩ := Replay.cons_iff.mp h
    obtain ⟨-, rfl⟩ := quiet.present found
    obtain ⟨u', listed, tried⟩ := Replay.cons_iff.mp rest
    obtain ⟨-, rfl⟩ := quiet.children listed
    exact quiet.conserves_attempts sized tried

/-- **A run counts what it takes away**, part by part. -/
theorem Quiet.conserves_course (quiet : s.Quiet) (sized : s.Sized)
    (h : Replay filesystem s (c.exchanges suffixes f) t) :
    t.store.total + Attempt.bytesFreed (c.attempts suffixes f) = s.store.total := by
  obtain ⟨swept, visited, verified, hsweep, hdirectory, hprimary, hnote⟩ := Course.replay_iff.mp h
  have quietSwept := quiet.replay hsweep
  have quietVisited := quietSwept.replay hdirectory
  have quietVerified := quietVisited.replay hprimary
  have sizedSwept := sized.replay quiet hsweep
  have sizedVisited := sizedSwept.replay quietSwept hdirectory
  have sizedVerified := sizedVisited.replay quietVisited hprimary
  have sweep := quiet.conserves_sweep sized hsweep
  have directory := quietSwept.conserves_visit sizedSwept hdirectory
  have primary := quietVisited.conserves_visit sizedVisited hprimary
  have note := quietVerified.conserves_visit sizedVerified hnote
  simp only [Course.attempts, Attempt.bytesFreed_append]
  omega

end ScriptedStore

open ScriptedStore

/-- **Bytes are conserved.** On a quiet store whose sizes can be read, under any other failures and
any listings, for any footprint, and with a total that 64 bits can hold:

* the bytes freed are the total size before less the total size after, which is no larger;
* none of the sums on the way is too large for 64 bits. -/
theorem bytes_conserved {s : ScriptedStore} (suffixes : Suffixes) (f : Footprint) (quiet : s.Quiet)
    (sized : s.Sized) (small : s.store.total < 2 ^ 64) :
    let run := (reclaim filesystem .silent suffixes f).run s
    run.2.store.total ≤ s.store.total ∧
    run.1.bytesFreed = s.store.total - run.2.store.total ∧
    ∃ c : Course, run.1 = c.outcome suffixes f ∧
      Replay filesystem s (c.exchanges suffixes f) run.2 ∧
      ∀ first, first <+: c.attempts suffixes f → Attempt.bytesFreed first < 2 ^ 64 := by
  intro run
  obtain ⟨c, houtcome, hplay⟩ := reclaim_course filesystem suffixes f s
  have conserved := quiet.conserves_course sized hplay
  have freed : run.1.bytesFreed = Attempt.bytesFreed (c.attempts suffixes f) :=
    congrArg Outcome.bytesFreed houtcome
  refine ⟨?_, ?_, c, houtcome, hplay, fun first hfirst => ?_⟩
  · exact Nat.le.intro conserved
  · rw [freed]
    exact Nat.eq_sub_of_add_eq' conserved
  · have part := Attempt.bytesFreed_le_of_prefix hfirst
    omega

/-- The sample with a listing that names the lock twice, and the primary file, which no directory
holds. -/
theorem bytes_conserved_sample :
    let s := (ScriptedStore.ofStore .sample).setListing (.ofString "/d/a.management")
      [.ofString "/d/a.management/lock", .ofString "/d/a", .ofString "/d/a.management/lock"]
    (s.Quiet ∧ s.Sized ∧ s.store.total < 2 ^ 64) ∧
    let run := (reclaim filesystem .silent .standard .sample).run s
    run.2.store.total ≤ s.store.total ∧ run.1.bytesFreed = s.store.total - run.2.store.total := by
  intro s
  have quiet : s.Quiet := rfl
  have sized : s.Sized := fun _ => rfl
  have small : s.store.total < 2 ^ 64 := by decide
  obtain ⟨less, difference, -⟩ := bytes_conserved .standard .sample quiet sized small
  exact ⟨⟨quiet, sized, small⟩, less, difference⟩

end Reclaim
