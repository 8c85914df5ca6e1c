import Reclaim.Proofs.Command.Turns
import Reclaim.Proofs.Disk.Cuts
import Reclaim.Proofs.Reclamation.Asked
import Mathlib.Data.List.Nodup

/-!
# What a run deletes

A run of the command is given paths and deletes nodes. **The law** (`run_deletes_artifacts`) traces each of
them back: it went in the turn of an argument, and on the disk of that moment it was an artifact of the
footprint that the argument had on the disk that its turn met (`Disk.IsArtifact`).

The footprint is made once, at the start of the turn, and the disk of the moment is a later one: what the
turn has deleted before is gone from it, links on the way to the artifacts included. So the law is about the
disk of the moment throughout. A turn tries one directory, and so deletes one at most
(`Course.length_directory_removals_le`).
-/

namespace Reclaim

/-- **A course tries to delete one directory** at most. -/
theorem Course.length_directory_removals_le (suffixes : Suffixes) (f : Footprint) (c : Course) :
    (((c.exchanges suffixes f).filterMap Exchange.removal?).filter fun call =>
      call.1 = .removeEmptyDirectory).length ≤ 1 := by
  obtain ⟨w, v₁, v₂, v₃⟩ := c
  have entries : (w.attempts.map fun a => (a.kind.removal, a.path)).filter
      (fun call => call.1 = .removeEmptyDirectory) = [] := by
    refine List.filter_eq_nil_iff.mpr fun call hcall => ?_
    obtain ⟨a, tried, rfl⟩ := List.mem_map.mp hcall
    cases w with
    | absent => cases tried
    | unreadable reason => cases tried
    | listed entries =>
      obtain ⟨e, -, rfl⟩ := List.mem_map.mp tried
      simp [ArtifactKind.removal]
  rw [Course.filterMap_removal?]
  simp only [Course.attempts, List.map_append, List.filter_append, entries]
  cases v₁ <;> cases v₂ <;> cases v₃ <;> simp [Visit.attempts, ArtifactKind.removal]

namespace Disk

variable {d left : Disk} {cwd k : Location} {suffixes : Suffixes} {f : Footprint} {directory : Path}
  {n : List UInt8} {options : Options}

/-- **What is an artifact of a footprint**, on the disk of a moment: the directory at the management path,
without an entry; and what is no directory and is at the primary path, at the notification path, or
directly in the directory that the management path leads to. -/
def IsArtifact (d : Disk) (cwd : Location) (suffixes : Suffixes) (f : Footprint) (k : Location) : Prop :=
  (d.lookup k = some .directory ∧ d.names k = [] ∧
    d.find cwd (f.managementDirectory suffixes) = .ok k) ∨
  (d.lookup k ≠ some .directory ∧
    (d.find cwd f.primary = .ok k ∨ d.find cwd (f.notificationFile suffixes) = .ok k ∨
      ∃ n l, k = n :: l ∧ d.follow cwd (f.managementDirectory suffixes) = .ok l))

/-- Whether a cut takes a directory. -/
def Cut.isDirectory (cut : Cut) : Bool := cut.disk.lookup cut.place = some .directory

/-- A call takes the path of a directory where it takes that of an entry. -/
theorem requireCallable_of_join (named : IsName n)
    (callable : requireCallable (directory.join ⟨n⟩) = .ok ()) : requireCallable directory = .ok () := by
  rw [requireCallable_eq_ok] at callable ⊢
  unfold Path.join at callable
  rw [Path.isAbsolute_of_not_mem named.2.1, if_neg Bool.false_ne_true] at callable
  split at callable
  · simp only [List.mem_append, not_or, List.length_append] at callable
    exact ⟨callable.1.1, by omega⟩
  · simp only [List.mem_append, not_or, List.length_append] at callable
    exact ⟨callable.1.1, by omega⟩

/-- **Where an entry is found under the path of a directory**, there the path of the directory leads. -/
theorem follow_of_find_join (named : IsName n) (nonempty : directory.bytes ≠ [])
    (found : d.find cwd (directory.join ⟨n⟩) = .ok k) :
    ∃ l, k = n :: l ∧ d.follow cwd directory = .ok l := by
  obtain ⟨callable, located⟩ := find_eq_ok_iff.mp found
  obtain ⟨l, walked, ⟨e, stands⟩, rfl⟩ :=
    (locate_eq_ok_iff (Path.steps_join nonempty named)).mp located
  refine ⟨l, rfl, follow_eq_ok_iff.mpr ⟨requireCallable_of_join named callable, ?_⟩⟩
  refine resolve_eq_ok_iff.mpr ⟨nonempty, ?_⟩
  unfold Path.steps
  split
  · exact walked.append fun _ => .here (directory_of_lookup stands) .done
  · rw [List.append_nil]
    exact walked

/-- The entries that a sweep tries are names behind the path of its directory. -/
theorem exists_join_of_attempt {w : Sweep} {a : Attempt}
    (h : Replay (Disk.filesystem cwd) d (w.exchanges directory) left) (tried : a ∈ w.attempts) :
    a.kind = .managementEntry ∧ directory.bytes ≠ [] ∧ ∃ n, IsName n ∧ a.path = directory.join ⟨n⟩ := by
  cases w with
  | absent => cases tried
  | unreadable reason => cases tried
  | listed entries =>
    obtain ⟨e, listed, rfl⟩ := List.mem_map.mp tried
    have answered := list_of_sweep h
    obtain ⟨l, led, -⟩ := list_eq_ok_iff.mp answered
    exact ⟨rfl, follow_bytes_ne_nil led, mem_of_list answered (List.mem_map_of_mem listed)⟩

/-- **What an attempt strikes is an artifact**, on the disk of the moment. -/
theorem isArtifact_of_strikes {c : Course} {u : Disk} {a : Attempt}
    (h : Replay (Disk.filesystem cwd) d (c.exchanges suffixes f) left)
    (tried : a ∈ c.attempts suffixes f) (leaf : u.names k = [])
    (struck : u.Strikes cwd (a.kind.removal, a.path) k) : u.IsArtifact cwd suffixes f k := by
  simp only [Course.attempts, List.mem_append] at tried
  rcases tried with entry | visit | visit | visit
  · obtain ⟨swept, -, -, hsweep, -⟩ := Course.replay_iff.mp h
    obtain ⟨kind, nonempty, n, named, path⟩ := exists_join_of_attempt hsweep entry
    rw [kind, path] at struck
    obtain ⟨l, rfl, led⟩ := follow_of_find_join named nonempty struck.1
    exact .inr ⟨struck.file, .inr (.inr ⟨n, l, rfl, led⟩)⟩
  · obtain ⟨t, -, rfl⟩ := List.mem_map.mp visit
    exact .inl ⟨struck.2.mp rfl, leaf, struck.1⟩
  · obtain ⟨t, -, rfl⟩ := List.mem_map.mp visit
    exact .inr ⟨struck.file, .inl struck.1⟩
  · obtain ⟨t, -, rfl⟩ := List.mem_map.mp visit
    exact .inr ⟨struck.file, .inr (.inl struck.1)⟩

/-- **A run of reclaiming prunes a disk** of artifacts, and of one directory at most. -/
theorem pruned_course {c : Course} (h : Replay (Disk.filesystem cwd) d (c.exchanges suffixes f) left) :
    ∃ cuts : List Cut, d.Pruned cuts left ∧
      (∀ cut ∈ cuts, cut.disk.IsArtifact cwd suffixes f cut.place) ∧
      (cuts.filter Cut.isDirectory).length ≤ 1 := by
  obtain ⟨cuts, pruned, calls, strikes⟩ := pruned_replay h
  refine ⟨cuts.map Prod.snd, pruned, fun cut hcut => ?_, ?_⟩
  · have leaf := (pruned.leaf cut hcut).2
    obtain ⟨c', hc', rfl⟩ := List.mem_map.mp hcut
    have removed := calls.subset (List.mem_map_of_mem hc')
    rw [Course.filterMap_removal?] at removed
    obtain ⟨a, tried, same⟩ := List.mem_map.mp removed
    have struck := strikes c' hc'
    rw [← same] at struck
    exact isArtifact_of_strikes h tried leaf struck
  · -- The cuts of directories are made by the calls that delete directories.
    have same : (cuts.map Prod.snd).filter Cut.isDirectory =
        (cuts.filter fun c' => c'.1.1 = .removeEmptyDirectory).map Prod.snd := by
      rw [List.filter_map]
      refine congrArg (List.map Prod.snd) (List.filter_congr fun c' hc' => ?_)
      exact decide_eq_decide.mpr (strikes c' hc').2.symm
    have fewer := calls.filter fun call => decide (call.1 = .removeEmptyDirectory)
    rw [List.filter_map] at fewer
    have bounded := Nat.le_trans fewer.length_le (Course.length_directory_removals_le suffixes f c)
    rw [same, List.length_map]
    rw [List.length_map] at bounded
    exact bounded

/-- **A turn prunes a disk** of artifacts of its argument's footprint, and of one directory at most. -/
theorem pruned_turn (d : Disk) (cwd : Location) (options : Options) (suffixes : Suffixes) (p : Path) :
    ∃ cuts : List Cut, d.Pruned cuts (d.turn cwd options suffixes p).2 ∧
      (∀ cut ∈ cuts, options.dryRun = false ∧ ∃ f, d.footprint? cwd options p = .ok f ∧
        cut.disk.IsArtifact cwd suffixes f cut.place) ∧
      (cuts.filter Cut.isDirectory).length ≤ 1 := by
  cases made : d.footprint? cwd options p with
  | error report =>
    rw [turn_of_error made]
    exact ⟨[], .nil d, nofun, Nat.zero_le 1⟩
  | ok f =>
    cases dry : options.dryRun with
    | true =>
      rw [turn_of_dryRun dry made]
      exact ⟨[], .nil d, nofun, Nat.zero_le 1⟩
    | false =>
      rw [turn_of_ok dry made]
      obtain ⟨c, -, hplay⟩ := reclaim_course (Disk.filesystem cwd) suffixes f d
      obtain ⟨cuts, pruned, artifacts, one⟩ := pruned_course hplay
      exact ⟨cuts, pruned, fun cut hcut => ⟨rfl, f, rfl, artifacts cut hcut⟩, one⟩

/-- **The turns of a run**, by induction: each cut is listed with the arguments before the one in whose turn
it is made. -/
theorem pruned_turns (cwd : Location) (options : Options) (suffixes : Suffixes) (paths : List Path)
    (d : Disk) :
    ∃ cuts : List (List Path × Cut),
      d.Pruned (cuts.map Prod.snd) (turns cwd options suffixes paths d).2 ∧
      (∀ c ∈ cuts, ∃ p rest f, paths = c.1 ++ p :: rest ∧ options.dryRun = false ∧
        ((turns cwd options suffixes c.1 d).2).footprint? cwd options p = .ok f ∧
        c.2.disk.IsArtifact cwd suffixes f c.2.place) ∧
      ((cuts.filter fun c => c.2.isDirectory).map Prod.fst).Nodup := by
  induction paths generalizing d with
  | nil => exact ⟨[], .nil d, nofun, List.nodup_nil⟩
  | cons p rest ih =>
    obtain ⟨first, pruned, artifacts, one⟩ := pruned_turn d cwd options suffixes p
    obtain ⟨others, pruned', artifacts', distinct⟩ := ih (d.turn cwd options suffixes p).2
    refine ⟨first.map (([], ·)) ++ others.map fun c => (p :: c.1, c.2), ?_, ?_, ?_⟩
    · simp only [List.map_append, List.map_map, Function.comp_def, List.map_id']
      exact pruned.append pruned'
    · intro c hc
      rcases List.mem_append.mp hc with hc | hc
      · obtain ⟨cut, hcut, rfl⟩ := List.mem_map.mp hc
        obtain ⟨wet, f, made, artifact⟩ := artifacts cut hcut
        exact ⟨p, rest, f, rfl, wet, made, artifact⟩
      · obtain ⟨c', hc', rfl⟩ := List.mem_map.mp hc
        obtain ⟨q, rest', f, rfl, wet, made, artifact⟩ := artifacts' c' hc'
        exact ⟨q, rest', f, rfl, wet, made, artifact⟩
    · simp only [List.filter_append, List.filter_map, List.map_append, List.map_map,
        Function.comp_def]
      refine List.nodup_append.mpr ⟨?_, ?_, ?_⟩
      · -- This turn has cut one directory at most.
        match directories : first.filter Cut.isDirectory, one with
        | [], _ => exact List.nodup_nil
        | [cut], _ => exact List.nodup_singleton _
      · have later : (((others.filter fun c => c.2.isDirectory).map Prod.fst).map (p :: ·)).Nodup :=
          distinct.map List.cons_injective
        rw [List.map_map] at later
        exact later
      · rintro a ha b hb rfl
        obtain ⟨cut, -, rfl⟩ := List.mem_map.mp ha
        obtain ⟨c', -, same⟩ := List.mem_map.mp hb
        cases same

end Disk

/-- **A run deletes artifacts of its arguments, and nothing else.** From any machine, with any arguments, the
disk is pruned by cuts. So each location is as it was, or was cut and nothing stands there. Each cut is listed
with the arguments before the one in whose turn it is made:

* that argument has a footprint on the machine that its turn meets, the run is no dry run, and what is cut is
  an artifact of the footprint on the disk of the moment;
* no two directories are cut in the turn of one argument. -/
theorem run_deletes_artifacts (s : Machine) (around : Surroundings) (arguments : List (List UInt8)) :
    let run := (run Machine.host around arguments).run s
    ∃ cuts : List (List Path × Disk.Cut),
      s.disk.Pruned (cuts.map Prod.snd) run.2.disk ∧
      (∀ k, run.2.disk.lookup k =
        if k ∈ cuts.map (fun c => c.2.place) then none else s.disk.lookup k) ∧
      (∀ c ∈ cuts, ∃ options suffixes p rest f, s.Accepts arguments options suffixes ∧
        options.dryRun = false ∧ distinctBy Path.components options.paths = c.1 ++ p :: rest ∧
        ((footprintOf Machine.host options p).run.run (s.behind (logFilter around options.verbose)
          around.coloredLog options suffixes c.1)).1 = .ok f ∧
        c.2.disk.IsArtifact s.cwd suffixes f c.2.place) ∧
      ((cuts.filter fun c => c.2.isDirectory).map Prod.fst).Nodup := by
  intro run
  by_cases accepted : ∃ options suffixes, s.Accepts arguments options suffixes
  · obtain ⟨options, suffixes, accepted⟩ := accepted
    obtain ⟨-, left, -⟩ := Machine.run_turns around accepted
    obtain ⟨cuts, pruned, artifacts, distinct⟩ := Disk.pruned_turns s.cwd options suffixes
      (distinctBy Path.components options.paths) s.disk
    rw [← left] at pruned
    refine ⟨cuts, pruned, fun k => ?_, fun c hc => ?_, distinct⟩
    · rw [pruned.lookup, List.map_map]
      rfl
    · obtain ⟨p, rest, f, split, wet, made, artifact⟩ := artifacts c hc
      refine ⟨options, suffixes, p, rest, f, accepted, wet, split, ?_, artifact⟩
      rw [Machine.footprintOf_run, Machine.disk_behind, Machine.cwd_behind]
      exact made
  · obtain ⟨left, -⟩ := Machine.run_refused around fun options suffixes h => accepted ⟨_, _, h⟩
    refine ⟨[], ?_, fun k => ?_, nofun, List.nodup_nil⟩
    · rw [left]
      exact .nil s.disk
    · rw [left]
      rfl

end Reclaim
