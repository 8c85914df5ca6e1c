import Reclaim.Proofs.Reclamation.Course
import Reclaim.Store

/-!
# One filesystem in place of another

Reclaiming knows its surroundings by five calls, and makes them on the artifacts of one footprint. So
one filesystem does in place of another where the two answer these calls alike, from states that
correspond, and leave states that do (`Simulates`). The reasons of failed calls may differ: they are
compared as a reader `read` takes them.

Only what stands is deleted or measured, and only where it stands is a directory listed. So the calls
need not be alike on what is not there.

**The law** (`Simulates.reclaim`): then the runs come to the same outcome, up to the reading of the
reasons, and leave states that correspond. The plans are the same (`Simulates.plan`).
-/

namespace Reclaim

/-- **The paths of the artifacts**, by kind. The entries are all paths right below the management
directory, whether anything stands there or not. -/
inductive Footprint.Owns (f : Footprint) (suffixes : Suffixes) : ArtifactKind → Path → Prop
  | entry {q : Path} : Store.isChild (f.managementDirectory suffixes) q = true →
      Owns f suffixes .managementEntry q
  | directory : Owns f suffixes .managementDirectory (f.managementDirectory suffixes)
  | primary : Owns f suffixes .primary f.primary
  | notification : Owns f suffixes .notification (f.notificationFile suffixes)

/-! ## Reasons as they are read -/

/-- A warning with its reason as it is read. -/
def Warning.reread (read : String → String) (w : Warning) : Warning :=
  { w with reason := read w.reason }

def Tally.reread (read : String → String) (a : Tally) : Tally :=
  { a with warnings := a.warnings.map (Warning.reread read) }

def Outcome.reread (read : String → String) (o : Outcome) : Outcome :=
  { o with warnings := o.warnings.map (Warning.reread read) }

section

variable {read : String → String} {a b : Tally}

@[simp] theorem Tally.reread_andThen : (a.andThen b).reread read =
    (a.reread read).andThen (b.reread read) := by
  simp only [andThen, reread, List.map_append]

@[simp] theorem Tally.isEmpty_warnings_reread :
    (a.reread read).warnings.isEmpty = a.warnings.isEmpty := List.isEmpty_map

/-- The same reason, in a warning of the same artifact. -/
theorem Tally.reread_ofWarning {kind : ArtifactKind} {path : Path} {reason reason' : String}
    (alike : read reason = read reason') :
    (ofWarning ⟨kind, path, reason⟩).reread read = (ofWarning ⟨kind, path, reason'⟩).reread read := by
  simp only [ofWarning, reread, Warning.reread, List.map_cons, List.map_nil, alike]

/-- Whatever the reasons are read as, warnings are of the same artifacts. -/
theorem Outcome.map_artifact_reread (o : Outcome) :
    (o.reread read).warnings.map Warning.artifact = o.warnings.map Warning.artifact := by
  simp only [reread, List.map_map]
  rfl

@[simp] theorem Outcome.reread_id (o : Outcome) : o.reread id = o := by
  have same : Warning.reread id = id := rfl
  simp only [reread, same, List.map_id]

end

/-! ## The correspondence -/

section

variable {σ τ : Type}

/-- **The second filesystem simulates the first** on the artifacts of a footprint: `rel` says which
states correspond, and `stands` what is known to stand in a state of the first. -/
structure Simulates (fs : Filesystem (StateM σ)) (gs : Filesystem (StateM τ)) (suffixes : Suffixes)
    (f : Footprint) (read : String → String) (rel : σ → τ → Prop) (stands : σ → Path → Prop) :
    Prop where
  /-- Both see the same. The entries are never looked for. -/
  present : ∀ {s t kind path}, rel s t → f.Owns suffixes kind path → kind ≠ .managementEntry → ∃ found,
    (fs.present path).run s = (found, s) ∧ (gs.present path).run t = (found, t) ∧
      (found = true → stands s path)
  /-- Both list the same entries, each once; or neither lists any. -/
  children : ∀ {s t}, rel s t → stands s (f.managementDirectory suffixes) →
    (∃ entries, (fs.children (f.managementDirectory suffixes)).run s = (.ok entries, s) ∧
      (gs.children (f.managementDirectory suffixes)).run t = (.ok entries, t) ∧ entries.Nodup ∧
      ∀ q ∈ entries, f.Owns suffixes .managementEntry q ∧ stands s q) ∨
    ∃ reason reason', (fs.children (f.managementDirectory suffixes)).run s = (.error reason, s) ∧
      (gs.children (f.managementDirectory suffixes)).run t = (.error reason', t) ∧
      read reason = read reason'
  /-- Both measure the same. -/
  fileSize : ∀ {s t kind path}, rel s t → f.Owns suffixes kind path → stands s path → ∃ size,
    (fs.fileSize path).run s = (size, s) ∧ (gs.fileSize path).run t = (size, t)
  /-- Both delete, and what else stands goes on to stand; or neither does, and nothing happens. -/
  remove : ∀ {s t kind path}, rel s t → f.Owns suffixes kind path → stands s path →
    (∃ s' t', (fs.remove kind path).run s = (.ok (), s') ∧
      (gs.remove kind path).run t = (.ok (), t') ∧ rel s' t' ∧
      ∀ q, q ≠ path → stands s q → stands s' q) ∨
    ∃ reason reason', (fs.remove kind path).run s = (.error reason, s) ∧
      (gs.remove kind path).run t = (.error reason', t) ∧ read reason = read reason'

namespace Simulates

variable {fs : Filesystem (StateM σ)} {gs : Filesystem (StateM τ)} {suffixes : Suffixes}
  {f : Footprint} {read : String → String} {rel : σ → τ → Prop} {stands : σ → Path → Prop}
  {s : σ} {t : τ} {kind : ArtifactKind} {path : Path}

/-- **One deletion** of what stands. -/
theorem attempt (sim : Simulates fs gs suffixes f read rel stands) (related : rel s t)
    (owned : f.Owns suffixes kind path) (standing : stands s path) : ∃ a b s' t',
      (attempt fs .silent kind path).run s = (a, s') ∧
      (attempt gs .silent kind path).run t = (b, t') ∧
      a.reread read = b.reread read ∧ rel s' t' ∧ ∀ q, q ≠ path → stands s q → stands s' q := by
  obtain ⟨size, sized, sized'⟩ := sim.fileSize related owned standing
  unfold Reclaim.attempt
  rw [run_bind_of_run sized, run_bind_of_run sized']
  rcases sim.remove related owned standing with
    ⟨s', t', removed, removed', related', others⟩ | ⟨reason, reason', refused, refused', alike⟩
  · rw [run_bind_of_run removed, run_bind_of_run removed']
    exact ⟨_, _, s', t', rfl, rfl, rfl, related', others⟩
  · rw [run_bind_of_run refused, run_bind_of_run refused']
    exact ⟨_, _, s, t, rfl, rfl, Tally.reread_ofWarning alike, related, fun q _ stood => stood⟩

/-- **The entries of a listing**, by induction on it: each stands until its turn comes, since the ones
before it are others. -/
theorem attemptEntries {entries : List Path} (sim : Simulates fs gs suffixes f read rel stands)
    (related : rel s t) (once : entries.Nodup)
    (each : ∀ q ∈ entries, f.Owns suffixes .managementEntry q ∧ stands s q) : ∃ a b s' t',
      (attemptEntries fs .silent entries).run s = (a, s') ∧
      (attemptEntries gs .silent entries).run t = (b, t') ∧
      a.reread read = b.reread read ∧ rel s' t' := by
  induction entries generalizing s t with
  | nil => exact ⟨_, _, s, t, rfl, rfl, rfl, related⟩
  | cons path rest ih =>
    obtain ⟨other, distinct⟩ := List.nodup_cons.mp once
    obtain ⟨here, there⟩ := List.forall_mem_cons.mp each
    obtain ⟨a, b, u, v, first, first', alike, related', stood⟩ := sim.attempt related here.1 here.2
    have left : ∀ q ∈ rest, f.Owns suffixes .managementEntry q ∧ stands u q := fun q listed =>
      ⟨(there q listed).1, stood q (fun same => other (same ▸ listed)) (there q listed).2⟩
    obtain ⟨as, bs, s', t', others, others', alikes, related''⟩ := ih related' distinct left
    unfold Reclaim.attemptEntries
    rw [run_bind_of_run first, run_bind_of_run first', run_bind_of_run others,
      run_bind_of_run others']
    refine ⟨_, _, s', t', rfl, rfl, ?_, related''⟩
    rw [Tally.reread_andThen, Tally.reread_andThen, alike, alikes]

theorem attemptPresent (sim : Simulates fs gs suffixes f read rel stands) (related : rel s t)
    (owned : f.Owns suffixes kind path) (asked : kind ≠ .managementEntry) : ∃ a b s' t',
      (attemptPresent fs .silent kind path).run s = (a, s') ∧
      (attemptPresent gs .silent kind path).run t = (b, t') ∧
      a.reread read = b.reread read ∧ rel s' t' := by
  obtain ⟨found, seen, seen', standing⟩ := sim.present related owned asked
  unfold Reclaim.attemptPresent
  rw [run_bind_of_run seen, run_bind_of_run seen']
  cases found with
  | false => exact ⟨_, _, s, t, rfl, rfl, rfl, related⟩
  | true =>
    obtain ⟨a, b, s', t', run, run', alike, related', -⟩ := sim.attempt related owned (standing rfl)
    exact ⟨a, b, s', t', run, run', alike, related'⟩

theorem sweep (sim : Simulates fs gs suffixes f read rel stands) (related : rel s t) :
    ∃ a b s' t',
      (sweep fs .silent (f.managementDirectory suffixes)).run s = (a, s') ∧
      (sweep gs .silent (f.managementDirectory suffixes)).run t = (b, t') ∧
      a.reread read = b.reread read ∧ rel s' t' := by
  obtain ⟨found, seen, seen', standing⟩ := sim.present related .directory nofun
  unfold Reclaim.sweep
  rw [run_bind_of_run seen, run_bind_of_run seen']
  cases found with
  | false => exact ⟨_, _, s, t, rfl, rfl, rfl, related⟩
  | true =>
    rw [if_pos rfl, if_pos rfl]
    rcases sim.children related (standing rfl) with
      ⟨entries, listed, listed', once, each⟩ | ⟨reason, reason', refused, refused', alike⟩
    · rw [run_bind_of_run listed, run_bind_of_run listed']
      exact sim.attemptEntries related once each
    · rw [run_bind_of_run refused, run_bind_of_run refused']
      exact ⟨_, _, s, t, rfl, rfl, Tally.reread_ofWarning alike, related⟩

/-- **Runs come to the same outcome** and leave states that correspond. -/
theorem reclaim (sim : Simulates fs gs suffixes f read rel stands) (related : rel s t) :
    ∃ o o' s' t',
      (reclaim fs .silent suffixes f).run s = (o, s') ∧
      (reclaim gs .silent suffixes f).run t = (o', t') ∧
      o.reread read = o'.reread read ∧ rel s' t' := by
  obtain ⟨entries, entries', s₁, t₁, swept, swept', alike, related⟩ := sim.sweep related
  obtain ⟨directory, directory', s₂, t₂, visited, visited', alike₂, related⟩ :=
    sim.attemptPresent related .directory nofun
  obtain ⟨primary, primary', s₃, t₃, verified, verified', alike₃, related⟩ :=
    sim.attemptPresent related .primary nofun
  obtain ⟨note, note', s₄, t₄, last, last', alike₄, related⟩ :=
    sim.attemptPresent related .notification nofun
  unfold Reclaim.reclaim
  dsimp only
  rw [run_bind_of_run swept, run_bind_of_run swept', run_bind_of_run visited,
    run_bind_of_run visited', run_bind_of_run verified, run_bind_of_run verified',
    run_bind_of_run last, run_bind_of_run last']
  refine ⟨_, _, s₄, t₄, rfl, rfl, ?_, related⟩
  have all : (entries.andThen (directory.andThen (primary.andThen note))).reread read =
      (entries'.andThen (directory'.andThen (primary'.andThen note'))).reread read := by
    simp only [Tally.reread_andThen, alike, alike₂, alike₃, alike₄]
  have warnings := congrArg Tally.warnings all
  have removed := congrArg Tally.removed all
  have freed := congrArg Tally.freed all
  have verdict := congrArg (fun a => a.warnings.isEmpty) alike₃
  simp only [Tally.isEmpty_warnings_reread] at verdict
  simp only [Outcome.reread, Outcome.mk.injEq]
  exact ⟨verdict, warnings, removed, freed⟩

/-! ## Plans -/

theorem planPresent (sim : Simulates fs gs suffixes f read rel stands) (related : rel s t)
    (owned : f.Owns suffixes kind path) (asked : kind ≠ .managementEntry) : ∃ planned,
      (planPresent fs kind path).run s = (planned, s) ∧
      (planPresent gs kind path).run t = (planned, t) := by
  obtain ⟨found, seen, seen', -⟩ := sim.present related owned asked
  unfold Reclaim.planPresent
  rw [run_bind_of_run seen, run_bind_of_run seen']
  cases found with
  | false => exact ⟨_, rfl, rfl⟩
  | true => exact ⟨_, rfl, rfl⟩

theorem planManagement (sim : Simulates fs gs suffixes f read rel stands) (related : rel s t) :
    ∃ planned,
      (planManagement fs (f.managementDirectory suffixes)).run s = (planned, s) ∧
      (planManagement gs (f.managementDirectory suffixes)).run t = (planned, t) := by
  obtain ⟨found, seen, seen', standing⟩ := sim.present related .directory nofun
  unfold Reclaim.planManagement
  rw [run_bind_of_run seen, run_bind_of_run seen']
  cases found with
  | false => exact ⟨_, rfl, rfl⟩
  | true =>
    rw [if_pos rfl, if_pos rfl]
    rcases sim.children related (standing rfl) with
      ⟨entries, listed, listed', -⟩ | ⟨reason, reason', refused, refused', -⟩
    · rw [run_bind_of_run listed, run_bind_of_run listed']
      exact ⟨_, rfl, rfl⟩
    · rw [run_bind_of_run refused, run_bind_of_run refused']
      exact ⟨_, rfl, rfl⟩

/-- **Plans are the same**, and leave everything as it is. -/
theorem plan (sim : Simulates fs gs suffixes f read rel stands) (related : rel s t) :
    ∃ planned,
      (plan fs suffixes f).run s = (planned, s) ∧ (plan gs suffixes f).run t = (planned, t) := by
  obtain ⟨management, listed, listed'⟩ := sim.planManagement related
  obtain ⟨primary, seen, seen'⟩ := sim.planPresent related .primary nofun
  obtain ⟨note, last, last'⟩ := sim.planPresent related .notification nofun
  unfold Reclaim.plan
  rw [run_bind_of_run listed, run_bind_of_run listed', run_bind_of_run seen, run_bind_of_run seen',
    run_bind_of_run last, run_bind_of_run last']
  exact ⟨_, rfl, rfl⟩

end Simulates

end

end Reclaim
