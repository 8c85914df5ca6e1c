import Reclaim.Proofs.Command.Named
import Reclaim.Proofs.Command.ExitCode

/-!
# A run made again

A run that ends with 0 and leaves nothing behind is made again, on the disk that it has left. It need not
find nothing to do. What an argument is made into depends on the disk, and the first run has taken from it:

* a link that led to the database leads nowhere any more, and then it is the link that the argument names;
* behind a directory that was found, a `..` leads to its parent on the disk; behind one that is gone, it
  takes back a name of the text;
* a notification file beside the database may be out of reach there, and in reach behind the path that led to
  it;
* the working directory and the rules file may have been among what was deleted.

**An argument is met again** (`Disk.MeetsAgain`) where none of this happens to it. Then it is made into the
path of before, or into one through a directory that is not there, and nothing is found at the paths of its
footprint (`Disk.MeetsAgain.footprint`). **The law** (`repeated_run_idle`): where all arguments are met
again, and the rules can still be read, the second run changes nothing and ends with 0.
-/

namespace Reclaim

namespace Disk

variable {d left : Disk} {cwd k l t : Location} {p q : Path} {n : List UInt8} {options : Options}
  {suffixes : Suffixes} {f : Footprint}

/-! ## On a smaller disk -/

/-- A file that can be read on a smaller disk holds the same. -/
theorem Within.read {bytes : List UInt8} (h : left.Within d) (answered : left.read cwd p = .ok bytes) :
    d.read cwd p = .ok bytes := by
  rw [Disk.read, bind_eq_ok] at answered ⊢
  obtain ⟨t, led, found⟩ := answered
  refine ⟨t, h.follow led, ?_⟩
  cases stands : left.lookup t with
  | none =>
    rw [stands] at found
    cases found
  | some e =>
    rw [stands] at found
    rw [h t e stands]
    exact found

/-- What is below an unheld location is unheld. -/
theorem IsUnheld.cons (unheld : d.IsUnheld cwd l) (n : List UInt8) : d.IsUnheld cwd (n :: l) := by
  intro t h directory
  rw [Location.components_cons] at h
  obtain ⟨m, fewer, le, first, last⟩ := h.split
  refine unheld m first (last.directory ?_ ?_)
  · simp
  · nofun

theorem IsUnheld.absent (unheld : d.IsUnheld cwd l) (named : Location.IsNamed (n :: l)) :
    d.exists? cwd (Location.path (n :: l)) = false :=
  exists?_eq_false_iff.mpr fun _ => unheld.find named

/-! ## Arguments that are met again -/

/-- **A path is read again** in the same way: it has no `..`, or is made into the path of before. -/
def Rereads (d left : Disk) (cwd : Location) (p : Path) : Prop :=
  .up ∉ p.components ∨ left.absolute cwd p = d.absolute cwd p

/-- **A link is followed** at a path: there is a link, and the path has a canonical path. -/
def FollowsLink (d : Disk) (cwd : Location) (p : Path) : Prop :=
  (∃ k target, d.locate cwd p = .ok k ∧ d.lookup k = some (.link target)) ∧
    ∃ q, d.canonicalize cwd p = .ok q

/-- **The notification file is out of reach** behind a path: it has another canonical path, and behind that
the suffix makes a path that is too long for a call. -/
def MissesNote (d : Disk) (cwd : Location) (suffixes : Suffixes) (p : Path) : Prop :=
  ∃ q, d.canonicalize cwd p = .ok q ∧ q ≠ p ∧ pathLimit < (q.append suffixes.note).bytes.length

/-- **An argument is met again** on a disk that is left. -/
structure MeetsAgain (d left : Disk) (cwd : Location) (options : Options) (suffixes : Suffixes)
    (p : Path) : Prop where
  /-- It starts in a directory, and so does the root that was asked for. -/
  start : ∀ q ∈ p :: options.root.toList, left.lookup (q.start cwd) = some .directory
  way : ∀ q ∈ p :: options.root.toList, d.Rereads left cwd q
  /-- If a link was followed at its path, neither is the link left nor what stands beside it under the name
  of its notification file. -/
  unlinked : d.FollowsLink cwd (d.absolute cwd p) → ∀ k,
    left.locate cwd (d.absolute cwd p) ≠ .ok k ∧
      left.locate cwd ((d.absolute cwd p).append suffixes.note) ≠ .ok k
  /-- If its notification file was out of reach, none is left beside its path. -/
  noted : d.MissesNote cwd suffixes (d.absolute cwd p) → ∀ k,
    left.locate cwd ((d.absolute cwd p).append suffixes.note) ≠ .ok k

/-- **An argument without `..` whose directory is not there** is made into a path through an unheld
location. -/
theorem absolute_of_no_up (start : d.lookup (p.start cwd) = some .directory) (noUp : .up ∉ p.components)
    (file : p.fileName? = some n) (unresolved : ∀ t, d.resolve cwd (holder p) ≠ .ok t) :
    ∃ l, d.absolute cwd p = Location.path (n :: l) ∧ Location.IsNamed (n :: l) ∧ d.IsUnheld cwd l := by
  obtain ⟨way, before⟩ := Path.exists_inner_last file
  have noUp' : .up ∉ p.inner := fun h => noUp (List.mem_append_right _ h)
  obtain ⟨names, same⟩ := Path.exists_names_of_not_up (List.nil_append p.inner).symm noUp'
  obtain ⟨init, last, -, rfl, -⟩ := List.map_eq_append_iff.mp (same.symm.trans before)
  obtain ⟨absolute, named⟩ :=
    absolute_of_reaches start (fun t led => unresolved t (resolve_of_trace led)) before .done
  exact ⟨_, absolute, named,
    isUnheld_of_unresolved file unresolved before .done (isFirm_of_directory start)⟩

/-- **What is read again** is made into the path of before, or into one through an unheld location. -/
theorem Rereads.cases (again : d.Rereads left cwd p) (within : left.Within d)
    (start : left.lookup (p.start cwd) = some .directory) :
    left.absolute cwd p = d.absolute cwd p ∨ ∃ n t l, d.absolute cwd p = Location.path (n :: t) ∧
      left.absolute cwd p = Location.path (n :: l) ∧ Location.IsNamed (n :: t) ∧
      Location.IsNamed (n :: l) ∧ left.IsUnheld cwd l := by
  rcases again with noUp | same
  · by_cases held : p.fileName? ≠ none ∧ ∃ t, d.trace cwd (holder p) = .ok t
    · obtain ⟨file, t, traced⟩ := held
      obtain ⟨n, file⟩ := Option.ne_none_iff_exists'.mp file
      obtain ⟨before, named⟩ := absolute_of_traced file traced
      by_cases still : ∃ t', left.resolve cwd (holder p) = .ok t'
      · obtain ⟨t', still⟩ := still
        have again := within.trace_of_resolve traced still
        obtain rfl := Except.ok.inj (traced.symm.trans (within.trace again))
        exact .inl ((absolute_of_traced file again).1.trans before.symm)
      · obtain ⟨l, after, named', unheld⟩ :=
          absolute_of_no_up start noUp file fun t' h => still ⟨t', h⟩
        exact .inr ⟨n, t, l, before, after, named, named', unheld⟩
    · refine .inl ?_
      have still : ¬ (p.fileName? ≠ none ∧ ∃ t, left.trace cwd (holder p) = .ok t) :=
        fun ⟨file, t, h⟩ => held ⟨file, t, within.trace h⟩
      rw [absolute_of_untraced held, absolute_of_untraced still]
  · exact .inl same

/-! ## Their footprints -/

/-- An entry that is found on a smaller disk stands where the way to its directory led before. -/
theorem Within.lookup_of_find (within : left.Within d) (named : Location.IsNamed (n :: l))
    (walked : d.Reaches linkLimit cwd l.components t)
    (found : left.find cwd (Location.path (n :: l)) = .ok k) : ∃ e, left.lookup (n :: t) = some e := by
  obtain ⟨t', walked', stands, -⟩ :=
    (locate_eq_ok_iff (Location.steps_path named)).mp (find_eq_ok_iff.mp found).2
  obtain rfl := walked.unique (walked'.mono within)
  exact stands

/-- **A location is cleared** of a database: its canonical path leads nowhere by calls, and nothing is found
there or, under the name of its notification file, beside it. -/
structure IsCleared (d : Disk) (cwd : Location) (suffixes : Suffixes) (l : Location) : Prop where
  untraced : ∀ t, d.trace cwd l.path ≠ .ok t
  absent : d.exists? cwd l.path = false
  note : d.exists? cwd (l.path.append suffixes.note) = false

theorem IsUnheld.isCleared (unheld : d.IsUnheld cwd l) (checked : suffixes.check = .ok ())
    (named : Location.IsNamed (n :: l)) : d.IsCleared cwd suffixes (n :: l) := by
  refine ⟨fun t led => unheld.resolve named (resolve_of_trace led), unheld.absent named, ?_⟩
  rw [Location.path_append]
  exact unheld.absent (.cons (named.head.note checked) named.tail)

theorem IsCleared.real_eq (cleared : d.IsCleared cwd suffixes l) : d.real cwd l = l := by
  unfold real
  cases traced : d.trace cwd l.path with
  | ok t => exact absurd traced (cleared.untraced t)
  | error failure => rfl

/-- **Nothing is left beside the location of before** under the name of the notification file, where the real
database stood at the end of its path and its own notification file is gone. -/
theorem note_absent_of_real (within : left.Within d) (checked : suffixes.check = .ok ())
    (named : Location.IsNamed (n :: l)) (traced : d.trace cwd (Location.path (n :: l)) = .ok t)
    (located : d.locate cwd (Location.path (n :: l)) = .ok t)
    (noteGone : left.exists? cwd (t.path.append suffixes.note) = false)
    (noted : d.MissesNote cwd suffixes (Location.path (n :: l)) → ∀ k,
      left.locate cwd ((Location.path (n :: l)).append suffixes.note) ≠ .ok k) :
    left.exists? cwd ((Location.path (n :: l)).append suffixes.note) = false := by
  obtain ⟨m, walked, -, rfl⟩ := (locate_eq_ok_iff (Location.steps_path named)).mp located
  by_cases same : Location.path (n :: m) = Location.path (n :: l)
  · rw [← same]
    exact noteGone
  · refine exists?_eq_false_iff.mpr fun k found => ?_
    by_cases long : pathLimit < ((Location.path (n :: m)).append suffixes.note).bytes.length
    · exact noted ⟨_, canonicalize_eq_ok_iff.mpr ⟨_, traced, rfl⟩, same, long⟩ k
        (find_eq_ok_iff.mp found).2
    · -- In reach, what is found beside the location is found beside the database.
      rw [Location.path_append] at found noteGone long
      have noteNamed := Location.IsNamed.cons (named.head.note checked) named.tail
      obtain ⟨e, stands⟩ := within.lookup_of_find noteNamed walked found
      exact exists?_eq_false_iff.mp noteGone _ (find_path (Nat.not_lt.mp long) stands)

/-- **The location of before is cleared** where the real database and its notification file are gone: what it
still named would be a link. -/
theorem isCleared_of_real (within : left.Within d) (checked : suffixes.check = .ok ())
    (named : Location.IsNamed (n :: l)) (primary : f.primary = (d.real cwd (n :: l)).path)
    (reclaimed : left.IsReclaimed cwd suffixes f)
    (unlinked : d.FollowsLink cwd (Location.path (n :: l)) → ∀ k,
      left.locate cwd (Location.path (n :: l)) ≠ .ok k ∧
        left.locate cwd ((Location.path (n :: l)).append suffixes.note) ≠ .ok k)
    (noted : d.MissesNote cwd suffixes (Location.path (n :: l)) → ∀ k,
      left.locate cwd ((Location.path (n :: l)).append suffixes.note) ≠ .ok k) :
    left.IsCleared cwd suffixes (n :: l) := by
  obtain ⟨-, gone, noteGone⟩ := reclaimed
  rw [Footprint.notificationFile] at noteGone
  have untraced : ∀ t, left.trace cwd (Location.path (n :: l)) ≠ .ok t := by
    intro t led
    -- It led there before, and what stands there is the database.
    obtain ⟨e, stands, -⟩ := isFirm_of_resolve (resolve_of_trace led)
    rw [primary, real, within.trace led] at gone
    exact exists?_eq_false_iff.mp gone t (find_path (isInReach_of_trace_path led) stands)
  cases traced : d.trace cwd (Location.path (n :: l)) with
  | error failure =>
    rw [real, traced] at primary
    rw [primary] at gone noteGone
    exact ⟨untraced, gone, noteGone⟩
  | ok t =>
    rw [real, traced] at primary
    rw [primary] at gone noteGone
    have led := resolve_of_trace traced
    obtain ⟨j, located⟩ := exists_locate_of_resolve named led
    by_cases link : ∃ target, d.lookup j = some (.link target)
    · obtain ⟨target, link⟩ := link
      have nothing := unlinked
        ⟨⟨j, target, located, link⟩, _, canonicalize_eq_ok_iff.mpr ⟨t, traced, rfl⟩⟩
      exact ⟨untraced,
        exists?_eq_false_iff.mpr fun k found => (nothing k).1 (find_eq_ok_iff.mp found).2,
        exists?_eq_false_iff.mpr fun k found => (nothing k).2 (find_eq_ok_iff.mp found).2⟩
    · -- What stood there was the database itself.
      obtain ⟨e, stands⟩ := lookup_of_locate located
      have firm : d.IsFirm j := ⟨e, stands, fun target same => link ⟨target, same ▸ stands⟩⟩
      obtain rfl := Except.ok.inj (led.symm.trans (resolve_of_locate located firm))
      refine ⟨untraced, exists?_eq_false_iff.mpr fun k found => ?_,
        note_absent_of_real within checked named traced located noteGone noted⟩
      obtain ⟨m, walked, -, rfl⟩ := (locate_eq_ok_iff (Location.steps_path named)).mp located
      obtain ⟨e', stands'⟩ := within.lookup_of_find named walked found
      exact exists?_eq_false_iff.mp gone _ (find_path (isInReach_of_trace_path traced) stands')

/-- **A root is met again**: it is the one of before, or its directory is not there. -/
def IsRootAgain (left : Disk) (cwd : Location) (before root : Path) : Prop :=
  root = before ∨ ∃ l, root = Location.path l ∧ l.IsNamed ∧ left.IsUnheld cwd l

theorem IsRootAgain.bytes_ne_nil {root : Path} (again : left.IsRootAgain cwd f.root root) :
    root.bytes ≠ [] := by
  rcases again with rfl | ⟨l, rfl, -⟩
  · exact f.rooted
  · exact Location.path_bytes_ne_nil l

/-- The management directory of the same name is gone from the same root, and none is in an unheld one. -/
theorem IsRootAgain.management_absent {again : Footprint} (root : left.IsRootAgain cwd f.root again.root)
    (checked : suffixes.check = .ok ()) (name : again.name = f.name)
    (gone : left.exists? cwd (f.managementDirectory suffixes) = false) :
    left.exists? cwd (again.managementDirectory suffixes) = false := by
  rcases root with same | ⟨l, root, named, unheld⟩
  · rw [Footprint.managementDirectory, same, name]
    exact gone
  · obtain ⟨management, managementNamed⟩ := Footprint.managementDirectory_path checked named root
    rw [management]
    exact unheld.absent managementNamed

/-- **Where an argument is met again** when nothing is left of its primary and notification files: the last
name is that of before, its location is cleared, and the directory is the one of before or is not there. -/
theorem MeetsAgain.exists_place (again : d.MeetsAgain left cwd options suffixes p)
    (within : left.Within d) (checked : suffixes.check = .ok ())
    (before : d.absolute cwd p = Location.path (n :: t)) (named : Location.IsNamed (n :: t))
    (real : f.primary = (d.real cwd (n :: t)).path) (reclaimed : left.IsReclaimed cwd suffixes f) :
    ∃ l, left.absolute cwd p = Location.path (n :: l) ∧ Location.IsNamed (n :: l) ∧
      left.IsCleared cwd suffixes (n :: l) ∧
      left.IsRootAgain cwd (Location.path t) (Location.path l) := by
  rcases (again.way p List.mem_cons_self).cases within (again.start p List.mem_cons_self) with
    same | ⟨n', t', l, before', after, named', newNamed, unheld⟩
  · have unlinked := again.unlinked
    have noted := again.noted
    rw [before] at unlinked noted
    exact ⟨t, same.trans before, named,
      isCleared_of_real within checked named real reclaimed unlinked noted, .inl rfl⟩
  · obtain ⟨rfl, rfl⟩ := List.cons.inj (Location.path_inj named named' (before.symm.trans before'))
    exact ⟨l, after, newNamed, unheld.isCleared checked newNamed,
      .inr ⟨l, rfl, newNamed.tail, unheld⟩⟩

/-- **The root**, its own or the one that was asked for, is met again too. -/
theorem MeetsAgain.isRootAgain (again : d.MeetsAgain left cwd options suffixes p)
    (within : left.Within d) {own root : Path} (hown : left.IsRootAgain cwd own root) :
    left.IsRootAgain cwd (options.root.elim own (d.absolute cwd))
      (options.root.elim root (left.absolute cwd)) := by
  cases asked : options.root with
  | none => exact hown
  | some r =>
    have listed : r ∈ p :: options.root.toList := by simp [asked]
    refine ((again.way r listed).cases within (again.start r listed)).imp_right ?_
    rintro ⟨m, t, l, -, rooted, -, rootNamed, unheld⟩
    exact ⟨m :: l, rooted, rootNamed, unheld.cons m⟩

/-- **A footprint is made again**, with the same name, of an argument that is made into the path of a cleared
location with the last name of before. -/
theorem IsCleared.exists_footprint (cleared : left.IsCleared cwd suffixes (n :: l))
    (named : Location.IsNamed (n :: l)) {given : Footprint}
    (encoded : Text.encode given.name = n) (name : f.name = options.name.getD given.name)
    (start : ∀ q ∈ p :: options.root.toList, left.lookup (q.start cwd) = some .directory)
    (absolute : left.absolute cwd p = Location.path (n :: l))
    (rooted : (options.root.elim (Location.path l) (left.absolute cwd)).bytes ≠ []) :
    ∃ f', left.footprint? cwd options p = .ok f' ∧ f'.primary = Location.path (n :: l) ∧
      f'.root = options.root.elim (Location.path l) (left.absolute cwd) ∧ f'.name = f.name := by
  obtain ⟨given', made, -, givenRoot, sameName⟩ := Footprint.ofPrimary_path named given.single encoded
  let f' : Footprint := ⟨Location.path (n :: l),
    options.root.elim (Location.path l) (left.absolute cwd), f.name, Location.isAbsolute_path _,
    Location.isCanonical_path named, f.single, rooted⟩
  refine ⟨f', footprint?_of_hasFootprint ⟨given', absolute ▸ made, ?_, ?_, ?_⟩ start, rfl, rfl, rfl⟩
  · rw [absolute, canonicalize_path, cleared.real_eq]
  · rw [givenRoot]
  · rw [sameName]
    exact name

/-- **The footprint of an argument that is met again**, where nothing is left of the one of before: it is
made, and nothing is left of it. -/
theorem MeetsAgain.footprint (again : d.MeetsAgain left cwd options suffixes p)
    (within : left.Within d) (checked : suffixes.check = .ok ())
    (made : d.footprint? cwd options p = .ok f) (reclaimed : left.IsReclaimed cwd suffixes f) :
    ∃ f', left.footprint? cwd options p = .ok f' ∧ left.IsReclaimed cwd suffixes f' := by
  obtain ⟨given, givenMade, real, root, name⟩ := hasFootprint_of_ok made
  obtain ⟨n, t, named, before, -, givenRoot, encoded⟩ := Footprint.ofPrimary_eq_ok givenMade
  rw [before, canonicalize_path] at real
  obtain ⟨l, after, named', cleared, own⟩ :=
    again.exists_place within checked before named real reclaimed
  have rootAgain := again.isRootAgain within own
  rw [← givenRoot, ← root] at rootAgain
  obtain ⟨f', made', primary', root', name'⟩ := cleared.exists_footprint named' encoded name again.start
    after rootAgain.bytes_ne_nil
  refine ⟨f', made', ?_, ?_, ?_⟩
  · rw [← root'] at rootAgain
    exact rootAgain.management_absent checked name' reclaimed.management
  · rw [primary']
    exact cleared.absent
  · rw [Footprint.notificationFile, primary']
    exact cleared.note

/-! ## Their turns -/

/-- **Turns without anything to do** do nothing, and count their databases as deleted. -/
theorem turns_idle {paths : List Path} (wet : options.dryRun = false)
    (idle : ∀ p ∈ paths, ∃ f, left.footprint? cwd options p = .ok f ∧ left.IsReclaimed cwd suffixes f) :
    turns cwd options suffixes paths left = ({}, left) := by
  induction paths with
  | nil => rfl
  | cons p rest ih =>
    obtain ⟨⟨f, made, reclaimed⟩, others⟩ := List.forall_mem_cons.mp idle
    have first : left.turn cwd options suffixes p = (⟨true, 0⟩, left) := by
      rw [turn_of_ok wet made, reclaimed.reclaim]
    rw [turns, first]
    dsimp only
    rw [ih others]
    rfl

end Disk

namespace Machine

variable {s : Machine} {filter : Log.Filter} {colored : Bool} {options : Options} {suffixes : Suffixes}

/-- **The results of a run**, one for each argument with a footprint, on the machine that it meets. -/
def outcomes (filter : Log.Filter) (colored : Bool) (options : Options) (suffixes : Suffixes) :
    List Path → Machine → List Outcome
  | [], _ => []
  | p :: rest, s =>
    let others := outcomes filter colored options suffixes rest
      (s.behind filter colored options suffixes [p])
    match ((footprintOf host options p).run.run s).1 with
    | .error _ => others
    | .ok f => ((reclaim host.toFilesystem (host.reporter filter colored) suffixes f).run s).1 :: others

/-- The first result is that of the run on the disk. -/
theorem outcomes_cons {p : Path} {f : Footprint} {s : Machine} (rest : List Path)
    (made : s.disk.footprint? s.cwd options p = .ok f) :
    outcomes filter colored options suffixes (p :: rest) s =
      ((reclaim (Disk.filesystem s.cwd) .silent suffixes f).run s.disk).1 ::
        outcomes filter colored options suffixes rest (s.behind filter colored options suffixes [p]) := by
  have looked := congrArg Prod.fst (footprintOf_run s options p)
  obtain ⟨outcome, -⟩ := InStep.reclaim (sight_calls s.cwd) (sight_reports s.cwd filter colored)
    suffixes f s rfl
  rw [outcomes, looked, made]
  dsimp only
  rw [outcome]

/-- What a run ends with for an argument is among its results. -/
theorem mem_outcomes {p : Path} {f : Footprint} (done rest : List Path) (s : Machine)
    (made : (s.behind filter colored options suffixes done).disk.footprint? s.cwd options p = .ok f) :
    ((reclaim (Disk.filesystem s.cwd) .silent suffixes f).run
      (s.behind filter colored options suffixes done).disk).1 ∈
        outcomes filter colored options suffixes (done ++ p :: rest) s := by
  induction done generalizing s with
  | nil =>
    rw [List.nil_append, outcomes_cons (s := s) rest made]
    exact List.mem_cons_self
  | cons q done ih =>
    have cwd : (s.behind filter colored options suffixes [q]).cwd = s.cwd := cwd_behind ..
    have later := ih (s.behind filter colored options suffixes [q])
    rw [cwd] at later
    rw [List.cons_append, outcomes]
    split
    · exact later made
    · exact List.mem_cons_of_mem _ (later made)

/-- **A run is accepted again** on a smaller disk from which the rules can still be read. -/
theorem Accepts.again {t : Machine} {arguments : List (List UInt8)}
    (accepted : s.Accepts arguments options suffixes) (cwd : t.cwd = s.cwd)
    (within : t.disk.Within s.disk)
    (rules : ∀ file ∈ options.config, ∃ bytes, t.disk.read s.cwd file = .ok bytes) :
    t.Accepts arguments options suffixes := by
  obtain ⟨read, single, loaded⟩ := accepted
  refine ⟨read, single, ?_⟩
  rw [rulesSource_run] at loaded ⊢
  cases given : options.config with
  | none =>
    rw [given] at loaded
    exact loaded
  | some file =>
    obtain ⟨bytes, answered⟩ := rules file given
    rw [given] at loaded
    dsimp only [Option.map_some] at loaded ⊢
    rw [within.read answered] at loaded
    rw [cwd, answered]
    exact loaded

/-- **A run ends clean**: it is no dry run, ends with 0, and each of its results is clean. -/
structure EndsClean (s : Machine) (around : Surroundings) (arguments : List (List UInt8)) (options : Options)
    (suffixes : Suffixes) : Prop where
  accepted : s.Accepts arguments options suffixes
  wet : options.dryRun = false
  ended : ((run host around arguments).run s).1 = 0
  clean : ∀ o ∈ s.outcomes (logFilter around options.verbose) around.coloredLog options suffixes
    (distinctBy Path.components options.paths), o.isClean = true

end Machine

/-- **A run that has ended clean changes nothing when it is made again**, and ends with 0, where every
argument is met again on the disk that it left, and the rules can still be read. -/
theorem repeated_run_idle (s : Machine) (around : Surroundings) {arguments : List (List UInt8)}
    {options : Options} {suffixes : Suffixes} (first : s.EndsClean around arguments options suffixes) :
    let paths := distinctBy Path.components options.paths
    let met := s.behind (logFilter around options.verbose) around.coloredLog options suffixes
    let left := ((run Machine.host around arguments).run s).2
    let again := (run Machine.host around arguments).run left
    (∀ file ∈ options.config, ∃ bytes, left.disk.read s.cwd file = .ok bytes) →
    (∀ done p rest, paths = done ++ p :: rest →
      (met done).disk.MeetsAgain left.disk s.cwd options suffixes p) →
    again.1 = 0 ∧ again.2.disk = left.disk := by
  intro paths met left again rules meets
  obtain ⟨accepted, wet, ended, clean⟩ := first
  have all : (Disk.turns s.cwd options suffixes paths s.disk).1.allDeleted = true :=
    (Machine.run_eq_zero_iff around accepted).mp ended
  obtain ⟨-, same, cwd⟩ := Machine.run_turns around accepted
  replace same : left.disk = (Disk.turns s.cwd options suffixes paths s.disk).2 := same
  replace cwd : left.cwd = s.cwd := cwd
  have checked := check_of_load accepted.loaded
  have disk : ∀ done, (met done).disk = (Disk.turns s.cwd options suffixes done s.disk).2 :=
    Machine.disk_behind s _ _ options suffixes
  have idle : ∀ p ∈ paths, ∃ f, left.disk.footprint? s.cwd options p = .ok f ∧
      left.disk.IsReclaimed s.cwd suffixes f := by
    intro p given
    obtain ⟨done, rest, split⟩ := List.append_of_mem given
    have deleted := Disk.allDeleted_turns_iff.mp all done p rest split
    obtain ⟨f, made, -⟩ := Disk.exists_footprint_of_allDeleted wet deleted
    have behind := Disk.within_turns_behind s.cwd options suffixes done rest p s.disk
    rw [← split, ← same] at behind
    have within := behind.trans (Disk.loses_turn _ s.cwd options suffixes p).within
    rw [Disk.turn_of_ok wet made] at behind
    rw [← disk] at made behind within
    have result : _ ∈ s.outcomes (logFilter around options.verbose) around.coloredLog options suffixes
      (done ++ p :: rest) := Machine.mem_outcomes done rest s made
    rw [← split] at result
    have reclaimed := Disk.isReclaimed_of_isClean s.cwd suffixes f (clean _ result)
    exact (meets done p rest split).footprint within checked made (reclaimed.within behind)
  have within : left.disk.Within s.disk := by
    rw [same]
    exact (Disk.loses_turns s.cwd options suffixes paths s.disk).within
  obtain ⟨code', same', -⟩ := Machine.run_turns around (accepted.again cwd within rules)
  have none : Disk.turns left.cwd options suffixes paths left.disk = ({}, left.disk) := by
    rw [cwd]
    exact Disk.turns_idle wet idle
  rw [none] at code' same'
  exact ⟨code', same'⟩

/-- The database at `/b`: a run deletes it with its sidecars, and a second one does nothing. -/
theorem repeated_run_idle_sample :
    let s : Machine := ⟨.linked, [], "", ""⟩
    let twice := (run Machine.host {} (words ["b"])).run ((run Machine.host {} (words ["b"])).run s).2
    s.EndsClean {} (words ["b"]) { paths := [.ofString "b"] } .standard ∧
      twice.1 = 0 ∧ twice.2.disk = ((run Machine.host {} (words ["b"])).run s).2.disk := by
  intro s
  have first : s.EndsClean {} (words ["b"]) { paths := [.ofString "b"] } .standard :=
    ⟨⟨rfl, by decide, rfl⟩, rfl, by decide +kernel, by decide +kernel⟩
  have named : Disk.linked.locate [] (Disk.linked.absolute [] (.ofString "b")) =
      .ok [Text.encode "b"] := rfl
  have met : ∀ left, Disk.linked.MeetsAgain left [] { paths := [.ofString "b"] } .standard
      (.ofString "b") := by
    intro left
    refine ⟨fun q hq => ?_, fun q hq => ?_, ?_, ?_⟩
    · obtain rfl := List.mem_singleton.mp hq
      exact left.lookup_root
    · obtain rfl := List.mem_singleton.mp hq
      exact .inl (by decide)
    · rintro ⟨⟨k, target, located, link⟩, -⟩
      rw [named] at located
      cases Except.ok.inj located
      cases link
    · rintro ⟨q, canonical, other, -⟩
      exact absurd (Except.ok.inj canonical).symm other
  refine ⟨first, repeated_run_idle s {} first nofun ?_⟩
  intro done p rest split
  replace split : [Path.ofString "b"] = done ++ p :: rest := split
  cases done with
  | nil =>
    obtain ⟨rfl, -⟩ := List.cons.inj split
    exact met _
  | cons q done => exact absurd (List.cons.inj split).2.symm (by simp)

/-! ## A notification file out of reach -/

/-- The database `/x/a` as it is spelled. -/
def Footprint.spelled : Footprint where
  primary := .ofString "/x/a"
  root := .ofString "/x"
  name := "a"
  absolute := by decide
  canonical := by decide
  single := Footprint.atRoot.single
  rooted := by decide

/-- The same with the primary file that the link `/x` leads to on the deep disk. -/
def Footprint.followed : Footprint where
  primary := Location.path (Text.encode "a" :: Location.deep 16)
  root := .ofString "/x"
  name := "a"
  absolute := Location.isAbsolute_path _
  canonical := Location.isCanonical_path
    (Disk.isNamed_of_lookup (d := .deep) (e := .file (.zeros 8)) (by decide +kernel))
  single := Footprint.atRoot.single
  rooted := by decide

/-- **Behind the link** the database is deleted, and its notification file, out of reach, is not found. As it
is spelled, it is. -/
theorem reclaim_followed :
    let first := (reclaim (Disk.filesystem []) .silent .standard .followed).run Disk.deepLinked
    let second := (reclaim (Disk.filesystem []) .silent .standard .spelled).run first.2
    let note := Text.encode "a.note" :: Location.deep 16
    first.1.isClean = true ∧ first.2.lookup (Text.encode "a" :: Location.deep 16) = none ∧
      first.2.absolute [] (.ofString "missing/../x/a") = .ofString "/x/a" ∧
      first.2.lookup note = some (.file (.zeros 2)) ∧ second.2.lookup note = none := by
  decide +kernel

/-- The canonical path of `/x/a` is that of the database behind the link. -/
theorem trace_spelled : Disk.deepLinked.trace [] (.ofString "/x/a") =
    .ok (Text.encode "a" :: Location.deep 16) := by
  have link : Disk.deepLinked.lookup [Text.encode "x"] = some (.link (Location.deep 16).path) := rfl
  have directory : Disk.deepLinked.lookup (Location.deep 16) = some .directory := by decide +kernel
  have database : Disk.deepLinked.lookup (Text.encode "a" :: Location.deep 16) =
      some (.file (.zeros 8)) := by decide +kernel
  have named : (Location.deep 16).IsNamed := Disk.isNamed_of_lookup directory
  have near : Location.IsInReach (Text.encode "a" :: Location.deep 16) := by decide +kernel
  have steps : (Path.ofString "/x/a").steps = [.root, .name (Text.encode "x"), .name (Text.encode "a")] :=
    rfl
  -- The way through the link goes down from the root again.
  obtain ⟨n, l, down⟩ : ∃ n l, Location.deep 16 = n :: l := ⟨_, _, rfl⟩
  rw [down] at link directory database named near ⊢
  refine Disk.trace_eq_ok_iff.mpr ⟨by decide, ?_⟩
  rw [steps, Disk.walkBy_root]
  refine Disk.walkBy_name_eq_ok.mpr
    ⟨_, Disk.lookUnder_of_isInReach (by decide) link rfl, .inr ⟨_, _, rfl, rfl, ?_⟩⟩
  rw [Location.steps_path named, ← Location.components_cons, Location.components, List.cons_append,
    Disk.walkBy_root, Disk.walkBy_names_iff directory near.tail]
  exact Disk.walkBy_name_eq_ok.mpr
    ⟨_, Disk.lookUnder_of_isInReach near database rfl, .inl ⟨by simp, Disk.walkBy_nil_eq_ok.mpr rfl⟩⟩

/-- So the database is what `missing/../x/a` is a footprint of. -/
theorem footprint?_followed : Disk.deepLinked.footprint? []
    { paths := [.ofString "missing/../x/a"] } (.ofString "missing/../x/a") = .ok .followed := by
  have absolute : Disk.deepLinked.absolute [] (.ofString "missing/../x/a") = .ofString "/x/a" := by
    decide +kernel
  have given : Footprint.ofPrimary (.ofString "/x/a") = .ok .spelled := by decide
  have canonical : Disk.deepLinked.canonicalize [] (.ofString "/x/a") = .ok Footprint.followed.primary :=
    Disk.canonicalize_eq_ok_iff.mpr ⟨_, trace_spelled, rfl⟩
  refine Disk.footprint?_of_hasFootprint ⟨.spelled, ?_, ?_, rfl, rfl⟩ ?_
  · rw [absolute, given]
  · rw [absolute, canonical]
    rfl
  · exact List.forall_mem_singleton.mpr Disk.deepLinked.lookup_root

/-- Where the database is gone, there is no such path, and the argument is taken as it is spelled. -/
theorem footprint?_spelled {left : Disk} (within : left.Within .deepLinked)
    (gone : left.lookup (Text.encode "a" :: Location.deep 16) = none)
    (absolute : left.absolute [] (.ofString "missing/../x/a") = .ofString "/x/a") :
    left.footprint? [] { paths := [.ofString "missing/../x/a"] } (.ofString "missing/../x/a") =
      .ok .spelled := by
  have given : Footprint.ofPrimary (.ofString "/x/a") = .ok .spelled := by decide
  have none : (left.canonicalize [] (.ofString "/x/a")).toOption = none := by
    cases canonical : left.canonicalize [] (.ofString "/x/a") with
    | error failure => rfl
    | ok q =>
      obtain ⟨t, led, -⟩ := Disk.canonicalize_eq_ok_iff.mp canonical
      obtain rfl := Except.ok.inj ((within.trace led).symm.trans trace_spelled)
      obtain ⟨e, stands, -⟩ := Disk.isFirm_of_resolve (Disk.resolve_of_trace led)
      cases gone.symm.trans stands
  refine Disk.footprint?_of_hasFootprint ⟨.spelled, ?_, ?_, rfl, rfl⟩ ?_
  · rw [absolute, given]
  · rw [absolute, none]
    rfl
  · exact List.forall_mem_singleton.mpr left.lookup_root

/-- **A run with one argument, made twice**, is two runs of its footprints. -/
theorem Machine.run_single_twice {s : Machine} {d : Disk} {cwd : Location}
    {arguments : List (List UInt8)} {options : Options} {suffixes : Suffixes} {p : Path}
    {f again : Footprint} (around : Surroundings) (disk : s.disk = d) (here : s.cwd = cwd)
    (accepted : ∀ t : Machine, t.Accepts arguments options suffixes)
    (alone : distinctBy Path.components options.paths = [p]) (wet : options.dryRun = false)
    (made : d.footprint? cwd options p = .ok f) :
    let first := (reclaim (Disk.filesystem cwd) .silent suffixes f).run d
    let left := ((run host around arguments).run s).2
    first.1.isClean = true → first.2.footprint? cwd options p = .ok again →
      s.EndsClean around arguments options suffixes ∧ left.disk = first.2 ∧
        ((run host around arguments).run left).2.disk =
          ((reclaim (Disk.filesystem cwd) .silent suffixes again).run first.2).2 := by
  intro first left clean remade
  subst disk here
  obtain ⟨zero, disk⟩ := run_single around (accepted s) alone wet made
  obtain ⟨-, -, cwd⟩ := run_turns around (accepted s)
  replace disk : left.disk = first.2 := disk
  replace cwd : left.cwd = s.cwd := cwd
  have remade' : left.disk.footprint? left.cwd options p = .ok again := by
    rw [disk, cwd]
    exact remade
  obtain ⟨-, disk'⟩ := run_single around (accepted left) alone wet remade'
  rw [cwd, disk] at disk'
  refine ⟨⟨accepted s, wet, zero.mpr (Bool.and_eq_true_iff.mp clean).1, fun o listed => ?_⟩, disk, disk'⟩
  rw [alone, outcomes_cons [] made] at listed
  obtain rfl := List.mem_singleton.mp listed
  exact clean

/-- **A run with `missing/../x/a`** deletes the database behind the link, and a second one its notification
file. -/
theorem deep_note_deleted :
    let s : Machine := ⟨.deepLinked, [], "", ""⟩
    let arguments := words ["missing/../x/a"]
    let left := ((run Machine.host {} arguments).run s).2
    let note := Text.encode "a.note" :: Location.deep 16
    s.EndsClean {} arguments { paths := [.ofString "missing/../x/a"] } .standard ∧
      left.disk.lookup note = some (.file (.zeros 2)) ∧
      ((run Machine.host {} arguments).run left).2.disk.lookup note = none := by
  -- The machine that is left is not named, so that the runs stand in the goal as they do in the lemma.
  intro s arguments
  obtain ⟨clean, gone, still, stays, lost⟩ := reclaim_followed
  have within : ((reclaim (Disk.filesystem []) .silent .standard .followed).run
      Disk.deepLinked).2.Within Disk.deepLinked := by
    obtain ⟨_, -, hplay⟩ := reclaim_course (Disk.filesystem []) .standard .followed Disk.deepLinked
    exact Disk.within_replay hplay
  have accepted : ∀ t : Machine, t.Accepts arguments { paths := [.ofString "missing/../x/a"] } .standard :=
    fun t => ⟨rfl, by decide, rfl⟩
  have start : s.disk = .deepLinked := rfl
  have here : s.cwd = [] := rfl
  obtain ⟨ends, disk, disk'⟩ := Machine.run_single_twice {} start here accepted rfl rfl
    footprint?_followed clean (footprint?_spelled within gone still)
  refine ⟨ends, ?_, ?_⟩
  · rw [disk]
    exact stays
  · rw [disk']
    exact lost

/-! ## A second run that does something -/

/-- **A run made again that does something**, behind one that has ended clean. Where the argument was a link,
it deletes the link. Where a `..` was behind a link that is gone, it deletes the database that the text has
come to. It fails where the rules file was a notification file, and where the working directory was a
management directory. And where the notification file was out of reach beside the database that a link leads
to, the text behind the missing name now names that file, and it goes. -/
theorem repeated_run_differs :
    (let s : Machine := ⟨.linked, [], "", ""⟩
      let left := ((run Machine.host {} (words ["a"])).run s).2
      s.EndsClean {} (words ["a"]) { paths := [.ofString "a"] } .standard ∧
      left.disk.lookup [Text.encode "a"] = some (.link (.ofString "b")) ∧
      ((run Machine.host {} (words ["a"])).run left).2.disk.lookup [Text.encode "a"] = none) ∧
    (let s : Machine := ⟨.linked, [], "", ""⟩
      let arguments := words ["e/c.note/../b", "e/c"]
      let left := ((run Machine.host {} arguments).run s).2
      s.EndsClean {} arguments { paths := [.ofString "e/c.note/../b", .ofString "e/c"] } .standard ∧
      left.disk.lookup [Text.encode "b", Text.encode "e"] = some (.file (.zeros 1)) ∧
      ((run Machine.host {} arguments).run left).2.disk.lookup
        [Text.encode "b", Text.encode "e"] = none) ∧
    (let s : Machine := ⟨.linked, [], "", ""⟩
      let arguments := words ["--config=b.note", "b"]
      let left := ((run Machine.host {} arguments).run s).2
      s.EndsClean {} arguments { paths := [.ofString "b"], config := some (.ofString "b.note") }
        .standard ∧
      ((run Machine.host {} arguments).run left).1 = 1) ∧
    (let s : Machine := ⟨.linked, [Text.encode "b.management"], "", ""⟩
      let left := ((run Machine.host {} (words ["../b"])).run s).2
      s.EndsClean {} (words ["../b"]) { paths := [.ofString "../b"] } .standard ∧
      ((run Machine.host {} (words ["../b"])).run left).1 = 1) ∧
    (let s : Machine := ⟨.deepLinked, [], "", ""⟩
      let arguments := words ["missing/../x/a"]
      let left := ((run Machine.host {} arguments).run s).2
      let note := Text.encode "a.note" :: Location.deep 16
      s.EndsClean {} arguments { paths := [.ofString "missing/../x/a"] } .standard ∧
      left.disk.lookup note = some (.file (.zeros 2)) ∧
      ((run Machine.host {} arguments).run left).2.disk.lookup note = none) := by
  refine ⟨⟨⟨⟨rfl, by decide, rfl⟩, rfl, ?_, ?_⟩, ?_, ?_⟩, ⟨⟨⟨rfl, by decide, rfl⟩, rfl, ?_, ?_⟩, ?_, ?_⟩,
    ⟨⟨⟨rfl, by decide, rfl⟩, rfl, ?_, ?_⟩, ?_⟩, ⟨⟨⟨rfl, by decide, rfl⟩, rfl, ?_, ?_⟩, ?_⟩,
    deep_note_deleted⟩
  all_goals decide +kernel

end Reclaim
