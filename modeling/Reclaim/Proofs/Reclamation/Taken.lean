import Reclaim.Proofs.Disk.Linkless
import Reclaim.Proofs.Footprint
import Reclaim.Proofs.Reclamation.Cleared

/-!
# What a run takes away

Where the three paths of a footprint are canonical paths of entries in directories, no link stands at the
management path, and nothing is out of reach, a run does just what its steps say. A disk is another one
**without** some locations (`Disk.Without`) when nothing stands at these and all else is as it was. So what a
run does is known location by location, from above and from below.

* **A visit** takes its artifact away if that yields (`Disk.without_visit`).
* **A sweep** takes away the entries that are no directories (`Disk.without_sweep`), by induction on the
  listing.

**The law** (`Disk.without_course`): with the primary file and the notification file outside the management
directory, a run takes away the entries of that directory that are no directories, that directory if there
are no others, and the two files unless they are directories.
-/

namespace Reclaim

/-- **A location is beneath another**: it is the other, or stands in what stands there. -/
def Location.IsBeneath (j k : Location) : Prop := k <:+ j

namespace Location

instance (j k : Location) : Decidable (j.IsBeneath k) := inferInstanceAs (Decidable (k <:+ j))

variable {j k : Location}

theorem IsBeneath.refl (k : Location) : k.IsBeneath k := List.suffix_refl k

theorem IsBeneath.cons (h : j.IsBeneath k) (x : List UInt8) : IsBeneath (x :: j) k :=
  h.trans (List.suffix_cons x j)

theorem not_isBeneath_cons (x : List UInt8) (k : Location) : ¬ k.IsBeneath (x :: k) := fun below => by
  have shorter := below.length_le
  rw [List.length_cons] at shorter
  omega

end Location

namespace Disk

variable {d u left : Disk} {cwd j k l : Location} {m n : List UInt8} {gone more : Location → Prop}
  {kind : ArtifactKind} {v : Visit} {w : Sweep} {c : Course} {f : Footprint} {suffixes : Suffixes}

/-! ## A disk without some locations -/

/-- **A disk without some locations**: nothing stands there, and all else is as it was. -/
def Without (d left : Disk) (gone : Location → Prop) : Prop :=
  ∀ j, (gone j → left.lookup j = none) ∧ (¬ gone j → left.lookup j = d.lookup j)

theorem Without.kept (h : d.Without left gone) (still : ¬ gone j) : left.lookup j = d.lookup j :=
  (h j).2 still

/-- A location where nothing stood may be counted or not. -/
theorem Without.congr (h : d.Without left gone)
    (same : ∀ j, d.lookup j ≠ none → (gone j ↔ more j)) : d.Without left more := by
  intro j
  obtain ⟨taken, kept⟩ := h j
  by_cases stands : d.lookup j = none
  · have nothing : left.lookup j = none := by
      by_cases here : gone j
      · exact taken here
      · exact (kept here).trans stands
    exact ⟨fun _ => nothing, fun _ => nothing.trans stands.symm⟩
  · rw [← same j stands]
    exact ⟨taken, kept⟩

theorem without_nothing (d : Disk) (h : ∀ j, gone j → d.lookup j = none) : d.Without d gone :=
  fun j => ⟨h j, fun _ => rfl⟩

/-- **One after the other.** -/
theorem Without.trans (h : d.Without u gone) (h' : u.Without left more) :
    d.Without left fun j => gone j ∨ more j := by
  intro j
  constructor
  · rintro (first | second)
    · by_cases again : more j
      · exact (h' j).1 again
      · exact (h'.kept again).trans ((h j).1 first)
    · exact (h' j).1 second
  · intro neither
    obtain ⟨notFirst, notSecond⟩ := not_or.mp neither
    exact (h'.kept notSecond).trans (h.kept notFirst)

theorem Without.isFirm (h : d.Without left gone) (firm : d.IsFirm j) (still : ¬ gone j) :
    left.IsFirm j := by
  obtain ⟨e, stands, notLink⟩ := firm
  exact ⟨e, (h.kept still).trans stands, notLink⟩

/-! ## One deletion -/

/-- **A location is near**: if anything stands there, it is in reach. -/
def IsNear (d : Disk) (j : Location) : Prop := d.lookup j ≠ none → j.IsInReach

instance (j : Location) : Decidable (d.IsNear j) :=
  inferInstanceAs (Decidable (d.lookup j ≠ none → j.IsInReach))

/-- Nothing stands in what is not there. -/
theorem isNear_of_absent (absent : d.lookup l = none) (n : List UInt8) : d.IsNear (n :: l) := by
  intro stands
  obtain ⟨e, stands⟩ := Option.ne_none_iff_exists'.mp stands
  cases (directory_of_lookup stands).symm.trans absent

theorem Without.isNear (h : d.Without left gone) (near : d.IsNear j) : left.IsNear j := by
  intro stands
  by_cases here : gone j
  · exact absurd ((h j).1 here) stands
  · exact near (h.kept here ▸ stands)

/-- **A deletion at the canonical path of an entry** takes it away if it yields. -/
theorem without_removal {answer : Except String Unit} (firm : d.IsFirm l) (name : IsName n)
    (near : d.IsNear (n :: l))
    (h : (Exchange.removal kind (Location.path (n :: l)) answer).TakesPlace (Disk.filesystem cwd) d left) :
    d.Without left fun j => j = n :: l ∧ d.Yields kind (n :: l) := by
  cases stands : d.lookup (n :: l) with
  | none =>
    -- Nothing is found under the path, so nothing is struck.
    have same : ∀ j, left.lookup j = d.lookup j := by
      intro j
      refine (loses_takesPlace h j).resolve_right ?_
      rintro ⟨-, call, removes, found, -⟩
      have path : call.2 = Location.path (n :: l) := by
        cases kind <;> (obtain rfl := Option.some.inj removes; rfl)
      rw [path, find_eq_ok_iff, locate_path_cons firm name] at found
      obtain ⟨-, ⟨e, there⟩, -⟩ := found
      cases stands.symm.trans there
    refine fun j => ⟨?_, fun _ => same j⟩
    rintro ⟨rfl, -⟩
    exact (same _).trans stands
  | some e =>
    have run := Exchange.takesPlace_removal.mp h
    have reached := near (Option.ne_none_iff_exists'.mpr ⟨e, stands⟩)
    rcases remove_path reached stands cwd kind with ⟨yields, answered⟩ | ⟨stays, reason, answered⟩
    · obtain rfl := (Prod.mk.inj (answered.symm.trans run)).2
      intro j
      rw [lookup_deleted yields.leaf]
      constructor
      · rintro ⟨rfl, -⟩
        exact if_pos rfl
      · intro other
        exact if_neg fun same => other ⟨same, yields⟩
    · obtain rfl := (Prod.mk.inj (answered.symm.trans run)).2
      exact without_nothing _ fun j goes => absurd goes.2 stays

/-- **A visit** takes its artifact away if that yields. -/
theorem without_visit (firm : d.IsFirm l) (name : IsName n) (near : d.IsNear (n :: l))
    (h : Replay (Disk.filesystem cwd) d (v.exchanges kind (Location.path (n :: l))) left) :
    d.Without left fun j => j = n :: l ∧ d.Yields kind (n :: l) := by
  cases v with
  | none =>
    obtain ⟨absent, done⟩ := replay_present_iff.mp h
    obtain rfl := Replay.nil_iff.mp done
    refine without_nothing _ ?_
    rintro j ⟨rfl, -⟩
    cases stands : left.lookup (n :: l) with
    | none => rfl
    | some e =>
      have reached := near (Option.ne_none_iff_exists'.mpr ⟨e, stands⟩)
      exact absurd (find_path reached stands) (exists?_eq_false_iff.mp absent.symm _)
  | some trial =>
    obtain ⟨size, answer⟩ := trial
    exact without_removal firm name near (removal_of_visit h)

/-! ## A sweep -/

/-- **Entries that are tried** are taken away unless they are directories, by induction on them. -/
theorem without_entries {entries : List (Path × Trial)} (directory : d.lookup k = some .directory)
    (listed : ∀ e ∈ entries, ∃ x, IsName x ∧ e.1 = Location.path (x :: k))
    (near : ∀ x, d.IsNear (x :: k))
    (h : Replay (Disk.filesystem cwd) d
      ((Sweep.listed entries).attempts.flatMap Attempt.exchanges) left) :
    d.Without left fun j => ∃ x, j = x :: k ∧ j.path ∈ entries.map Prod.fst ∧
      d.lookup j ≠ some .directory := by
  induction entries generalizing d with
  | nil =>
    obtain rfl := Replay.nil_iff.mp h
    exact without_nothing _ fun j ⟨_, _, listed, _⟩ => nomatch listed
  | cons e rest ih =>
    obtain ⟨path, size, answer⟩ := e
    obtain ⟨⟨x, name, rfl⟩, others⟩ := List.forall_mem_cons.mp listed
    have named : Location.IsNamed (x :: k) := .cons name (isNamed_of_lookup directory)
    rw [Sweep.flatMap_attempts_cons, Replay.append_iff] at h
    obtain ⟨u, tried, h⟩ := h
    obtain ⟨-, tried⟩ := replay_fileSize_iff.mp tried
    obtain ⟨u', removed, done⟩ := Replay.cons_iff.mp tried
    obtain rfl := Replay.nil_iff.mp done
    have first : d.Without u fun j => j = x :: k ∧ d.Yields .managementEntry (x :: k) :=
      without_removal (isFirm_of_directory directory) name (near x) removed
    have still : u.lookup k = some .directory := by
      rw [first.kept, directory]
      rintro ⟨same, -⟩
      exact List.cons_ne_self x k same.symm
    refine (first.trans (ih still others (fun y => first.isNear (near y)) h)).congr fun j stands => ?_
    rw [List.map_cons]
    by_cases here : j = x :: k
    · subst here
      constructor
      · rintro (⟨-, yields⟩ | ⟨-, -, -, file⟩)
        · exact ⟨x, rfl, List.mem_cons_self, yields⟩
        · refine ⟨x, rfl, List.mem_cons_self, fun stays => file ?_⟩
          exact (first.kept fun taken => taken.2 stays).trans stays
      · rintro ⟨-, -, -, file⟩
        exact .inl ⟨rfl, file⟩
    · rw [first.kept fun taken => here taken.1]
      obtain ⟨e, stands⟩ := Option.ne_none_iff_exists'.mp stands
      have other : j.path ≠ Location.path (x :: k) := fun same =>
        here (Location.path_inj (isNamed_of_lookup stands) named same)
      simp only [List.mem_cons, other, false_or, here, false_and]

/-- **A sweep** of a directory takes away its entries that are no directories. Where nothing is, it takes
nothing. -/
theorem without_sweep (firm : d.IsFirm l) (name : IsName m)
    (real : d.lookup (m :: l) = some .directory ∨ d.lookup (m :: l) = none)
    (near : d.IsNear (m :: l)) (inside : ∀ x, d.IsNear (x :: m :: l))
    (h : Replay (Disk.filesystem cwd) d (w.exchanges (Location.path (m :: l))) left) :
    d.Without left fun j => ∃ x, j = x :: m :: l ∧ d.lookup j ≠ some .directory := by
  rcases real with directory | nothing
  · have reached := near (Option.ne_none_iff_exists'.mpr ⟨_, directory⟩)
    have found : d.exists? cwd (Location.path (m :: l)) = true :=
      exists?_eq_true_iff.mpr ⟨_, find_path reached directory⟩
    have listing : d.list cwd (Location.path (m :: l)) = _ := list_path reached directory
    cases w with
    | absent => cases (replay_present_iff.mp h).1.trans found
    | unreadable reason =>
      obtain ⟨answered, -⟩ := replay_children_iff.mp (replay_present_iff.mp h).2
      rw [listing] at answered
      cases answered
    | listed entries =>
      have paths := Except.ok.inj (listing.symm.trans (list_of_sweep h))
      have tried := (replay_children_iff.mp (replay_present_iff.mp h).2).2
      refine (without_entries directory (fun e he => ?_) inside tried).congr fun j stands => ?_
      · have listed : e.1 ∈ entries.map Prod.fst := List.mem_map_of_mem he
        rw [← paths] at listed
        obtain ⟨x, held, same⟩ := List.mem_map.mp listed
        exact ⟨x, isName_of_mem_names held, same.symm⟩
      · refine exists_congr fun x => and_congr_right ?_
        rintro rfl
        refine and_iff_right ?_
        rw [← paths]
        exact List.mem_map_of_mem (f := fun n => Location.path (n :: m :: l))
          ((d.mem_names _ _).mpr (Option.isSome_iff_ne_none.mpr stands))
  · have absent : d.exists? cwd (Location.path (m :: l)) = false := by
      refine exists?_eq_false_iff.mpr fun k found => ?_
      obtain ⟨⟨e, stands⟩, -⟩ := (locate_path_cons firm name).mp (find_eq_ok_iff.mp found).2
      cases nothing.symm.trans stands
    obtain ⟨-, rfl⟩ := idle_sweep absent h
    refine without_nothing _ ?_
    rintro j ⟨x, rfl, -⟩
    cases stands : left.lookup (x :: m :: l) with
    | none => rfl
    | some e => cases nothing.symm.trans (directory_of_lookup stands)

/-! ## A run -/

/-- **What a run takes away**, for a management directory and two files in their places. -/
def IsTaken (d : Disk) (management primary note j : Location) : Prop :=
  (∃ x, j = x :: management ∧ d.lookup j ≠ some .directory) ∨
  (j = management ∧ ∀ x, d.lookup (x :: management) ≠ some .directory) ∨
  (j = primary ∧ d.lookup j ≠ some .directory) ∨
  (j = note ∧ d.lookup j ≠ some .directory)

/-- **The law holds for places** where no link is at the management path, and the two files are two, outside
what stands there. What stands at any of them, or in the directory, is in reach. -/
structure AreReal (d : Disk) (management primary note : Location) : Prop where
  real : d.lookup management = some .directory ∨ d.lookup management = none
  primaryOutside : ¬ primary.IsBeneath management
  noteOutside : ¬ note.IsBeneath management
  apart : note ≠ primary
  near : ∀ j ∈ [management, primary, note], d.IsNear j
  inside : ∀ x, d.IsNear (x :: management)

/-- **A directory that has been swept** yields if there was no directory in it. -/
theorem yields_swept_iff {swept : Disk}
    (h : d.Without swept fun j => ∃ x, j = x :: k ∧ d.lookup j ≠ some .directory) :
    swept.Yields .managementDirectory k ↔
      d.lookup k = some .directory ∧ ∀ x, d.lookup (x :: k) ≠ some .directory := by
  have here : swept.lookup k = d.lookup k := h.kept fun ⟨x, same, _⟩ => List.cons_ne_self x k same.symm
  change swept.lookup k = some .directory ∧ swept.names k = [] ↔ _
  rw [here, names_eq_nil_iff]
  refine and_congr_right fun _ => forall_congr' fun x => ?_
  constructor
  · intro nothing stays
    rw [h.kept fun ⟨_, _, file⟩ => file stays, stays] at nothing
    cases nothing
  · intro file
    exact (h (x :: k)).1 ⟨x, rfl, file⟩

/-- **What a run takes away**, by its four steps. -/
theorem without_course {o : List UInt8} (management : f.managementDirectory suffixes = Location.path (m :: l))
    (primary : f.primary = Location.path (n :: k)) (note : f.notificationFile suffixes = Location.path (o :: k))
    (held : d.IsFirm l) (holds : d.IsFirm k) (managementName : IsName m) (primaryName : IsName n)
    (noteName : IsName o) (places : d.AreReal (m :: l) (n :: k) (o :: k))
    (h : Replay (Disk.filesystem cwd) d (c.exchanges suffixes f) left) :
    d.Without left (d.IsTaken (m :: l) (n :: k) (o :: k)) := by
  obtain ⟨swept, visited, verified, hsweep, hdirectory, hprimary, hnote⟩ := Course.replay_iff.mp h
  rw [management] at hsweep hdirectory
  rw [primary] at hprimary
  rw [note] at hnote
  have notEntry : ∀ {j : Location}, ¬ j.IsBeneath (m :: l) → ∀ x, j ≠ x :: m :: l := by
    rintro j outside x rfl
    exact outside ((Location.IsBeneath.refl _).cons x)
  have notDirectory : ∀ {j : Location}, ¬ j.IsBeneath (m :: l) → j ≠ m :: l := by
    rintro j outside rfl
    exact outside (.refl _)
  have holder : ¬ k.IsBeneath (m :: l) := fun beneath => places.primaryOutside (beneath.cons n)
  have nearManagement := places.near (m :: l) (by simp)
  have nearPrimary := places.near (n :: k) (by simp)
  have nearNote := places.near (o :: k) (by simp)
  -- The directory is swept, and then deleted.
  have sweep := without_sweep held managementName places.real nearManagement places.inside hsweep
  have heldSwept : swept.IsFirm l := sweep.isFirm held fun ⟨x, same, _⟩ =>
    notEntry (Location.not_isBeneath_cons m l) x same
  have directory := without_visit heldSwept managementName (sweep.isNear nearManagement) hdirectory
  -- What is outside is as it was.
  have kept : ∀ {j : Location}, ¬ j.IsBeneath (m :: l) → visited.lookup j = d.lookup j := by
    intro j outside
    rw [directory.kept fun taken => notDirectory outside taken.1,
      sweep.kept fun ⟨x, same, _⟩ => notEntry outside x same]
  have firm : ∀ {u : Disk}, u.lookup k = d.lookup k → u.IsFirm k := by
    intro u same
    obtain ⟨e, stands, notLink⟩ := holds
    exact ⟨e, same.trans stands, notLink⟩
  have file := without_visit (firm (kept holder)) primaryName
    (directory.isNear (sweep.isNear nearPrimary)) hprimary
  have keptHolder : verified.lookup k = d.lookup k :=
    (file.kept fun taken => List.cons_ne_self n k taken.1.symm).trans (kept holder)
  have last := without_visit (firm keptHolder) noteName
    (file.isNear (directory.isNear (sweep.isNear nearNote))) hnote
  have keptNote : verified.lookup (o :: k) = d.lookup (o :: k) :=
    (file.kept fun taken => places.apart taken.1).trans (kept places.noteOutside)
  refine (((sweep.trans directory).trans file).trans last).congr fun j stands => ?_
  rw [or_assoc, or_assoc, IsTaken]
  refine or_congr Iff.rfl (or_congr ?_ (or_congr ?_ ?_))
  · refine and_congr_right ?_
    rintro rfl
    rw [yields_swept_iff sweep, and_iff_right (places.real.resolve_right stands)]
  · refine and_congr_right ?_
    rintro rfl
    change visited.lookup _ ≠ _ ↔ _
    rw [kept places.primaryOutside]
  · refine and_congr_right ?_
    rintro rfl
    change verified.lookup _ ≠ _ ↔ _
    rw [keptNote]

end Disk

end Reclaim
