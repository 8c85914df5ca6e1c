import Reclaim.Proofs.Replay
import Reclaim.Reclamation

/-!
# The course of a run

What a filesystem answers is open, and what a run asks depends on it. A **course** holds just the
answers on which a run turns, and from it everything else is spelled out: the calls with their
answers (`Course.exchanges`), the deletions attempted (`Course.attempts`), and what the run reports
(`Course.outcome`).

* A **trial** is what was answered to one deletion: the size, then the removal. With the artifact it
  was about it is an **attempt**.
* A **visit** to an artifact finds nothing, or ends in a trial.
* A **sweep** of a directory finds nothing, or cannot read it, or tries its entries in turn.

A course has room for an answer only where the call is made. So an ill-formed course cannot be built,
and needs no side conditions on the order of calls or on which call follows which answer.

**The law** (`Course.exchanges_injective`): the log determines the course. And what a run reports can
be read off the log (`Course.filterMap_removed?`, `Course.filterMap_failed?`).
-/

namespace Reclaim

/-- The call that removes an artifact of a kind: the management directory is removed as a directory,
all else as a file. -/
def ArtifactKind.removal : ArtifactKind → CallKind
  | .managementDirectory => .removeEmptyDirectory
  | .managementEntry | .primary | .notification => .removeFile

/-- The removal of an artifact, with its answer. -/
def Exchange.removal (kind : ArtifactKind) (path : Path) (answer : Except String Unit) : Exchange :=
  match kind with
  | .managementDirectory => .removeEmptyDirectory path answer
  | .managementEntry | .primary | .notification => .removeFile path answer

/-- The path that an exchange removed, if it is a removal that succeeded. -/
def Exchange.removed? : Exchange → Option Path
  | .removeFile path (.ok ()) | .removeEmptyDirectory path (.ok ()) => some path
  | _ => none

/-- The path that an exchange failed on, and why, if it is a listing or a removal that failed. -/
def Exchange.failed? : Exchange → Option (Path × String)
  | .children path (.error reason) | .removeFile path (.error reason)
  | .removeEmptyDirectory path (.error reason) => some (path, reason)
  | _ => none

/-- The call and the path of an exchange, if it is a removal. -/
def Exchange.removal? : Exchange → Option (CallKind × Path)
  | .removeFile path _ => some (.removeFile, path)
  | .removeEmptyDirectory path _ => some (.removeEmptyDirectory, path)
  | _ => none

/-- What a warning says of the call that failed. -/
def Warning.failure (w : Warning) : Path × String := (w.path, w.reason)

/-- The artifact that a warning is about. -/
def Warning.artifact (w : Warning) : Planned := (w.kind, w.path)

theorem Exchange.removed?_removal (kind : ArtifactKind) (path : Path) (answer : Except String Unit) :
    (removal kind path answer).removed? =
      match answer with
      | .ok () => some path
      | .error _ => none := by
  cases kind <;> cases answer <;> rfl

theorem Exchange.takesPlace_removal {σ : Type} {fs : Filesystem (StateM σ)} {kind : ArtifactKind}
    {path : Path} {answer : Except String Unit} {s t : σ} :
    (removal kind path answer).TakesPlace fs s t ↔ (fs.remove kind path).run s = (answer, t) := by
  cases kind <;> exact Iff.rfl

/-- **A trial**: the answers to one deletion. -/
structure Trial where
  /-- The size asked for before the removal. -/
  size : Option Nat
  /-- The answer to the removal. -/
  answer : Except String Unit

/-- **An attempt**: a trial and the artifact it was about. -/
structure Attempt extends Trial where
  kind : ArtifactKind
  path : Path

namespace Attempt

def artifact (a : Attempt) : Planned := (a.kind, a.path)

def exchanges (a : Attempt) : List Exchange :=
  [.fileSize a.path a.size, .removal a.kind a.path a.answer]

def removed? (a : Attempt) : Option Path :=
  match a.answer with
  | .ok () => some a.path
  | .error _ => none

theorem removed?_eq_some {a : Attempt} {path : Path} :
    a.removed? = some path ↔ a.path = path ∧ a.answer = .ok () := by
  obtain ⟨⟨size, answer⟩, kind, on⟩ := a
  cases answer with
  | ok => simp [removed?]
  | error reason => simp [removed?]

theorem filterMap_removed?_cons (a : Attempt) (as : List Attempt) :
    (a :: as).filterMap removed? = a.removed?.toList ++ as.filterMap removed? := by
  rw [List.filterMap_cons]
  cases a.removed? <;> rfl

def warning? (a : Attempt) : Option Warning :=
  match a.answer with
  | .ok () => none
  | .error reason => some ⟨a.kind, a.path, reason⟩

theorem warning?_eq_none {a : Attempt} : a.warning? = none ↔ a.removed? = some a.path := by
  obtain ⟨⟨size, answer⟩, kind, path⟩ := a
  cases answer with
  | ok => simp [warning?, removed?]
  | error reason => simp [warning?, removed?]

theorem filterMap_removed?_of_no_warning {as : List Attempt} (h : as.filterMap warning? = []) :
    as.filterMap removed? = as.map path := by
  induction as with
  | nil => rfl
  | cons a as ih =>
    obtain ⟨hfirst, hrest⟩ := List.forall_mem_cons.mp (List.filterMap_eq_nil_iff.mp h)
    rw [filterMap_removed?_cons, warning?_eq_none.mp hfirst,
      ih (List.filterMap_eq_nil_iff.mpr hrest)]
    rfl

def freed (a : Attempt) : Nat :=
  match a.answer with
  | .ok () => a.size.getD 0
  | .error _ => 0

/-- The sum of what attempts freed. -/
def bytesFreed (as : List Attempt) : Nat := as.foldr (fun a bytes => a.freed + bytes) 0

theorem bytesFreed_append (as bs : List Attempt) :
    bytesFreed (as ++ bs) = bytesFreed as + bytesFreed bs := by
  induction as with
  | nil => exact (Nat.zero_add _).symm
  | cons a as ih =>
    change a.freed + bytesFreed (as ++ bs) = a.freed + bytesFreed as + bytesFreed bs
    omega

end Attempt

/-- What attempts amount to, one after the other. -/
def Tally.ofAttempts (as : List Attempt) : Tally :=
  ⟨as.filterMap Attempt.warning?, as.filterMap Attempt.removed?, Attempt.bytesFreed as⟩

theorem Tally.ofAttempts_append (as bs : List Attempt) :
    ofAttempts (as ++ bs) = (ofAttempts as).andThen (ofAttempts bs) := by
  simp only [ofAttempts, andThen, List.filterMap_append, Attempt.bytesFreed_append]

/-- **A visit** to an artifact: without a trial where nothing was found. -/
abbrev Visit := Option Trial

namespace Visit

/-- The attempts of a visit, at most one. -/
def attempts (kind : ArtifactKind) (path : Path) (v : Visit) : List Attempt :=
  v.toList.map fun t => ⟨t, kind, path⟩

def exchanges (kind : ArtifactKind) (path : Path) (v : Visit) : List Exchange :=
  .present path v.isSome :: (v.attempts kind path).flatMap Attempt.exchanges

theorem attempts_some (kind : ArtifactKind) (path : Path) (t : Trial) :
    attempts kind path (some t) = [⟨t, kind, path⟩] := rfl

theorem mem_removed?_some {kind : ArtifactKind} {path q : Path} {t : Trial} :
    q ∈ (attempts kind path (some t)).filterMap Attempt.removed? ↔ path = q ∧ t.answer = .ok () := by
  rw [attempts_some, Attempt.filterMap_removed?_cons, List.filterMap_nil, List.append_nil,
    Option.mem_toList, Attempt.removed?_eq_some]

theorem exchanges_some (kind : ArtifactKind) (path : Path) (t : Trial) :
    exchanges kind path (some t) = .present path true :: Attempt.exchanges ⟨t, kind, path⟩ := rfl

/-- A visit leaves no warning when it finds nothing or deletes what it finds. -/
theorem isEmpty_warnings (kind : ArtifactKind) (path : Path) (v : Visit) :
    ((v.attempts kind path).filterMap Attempt.warning?).isEmpty =
      v.all fun t => t.answer.toBool := by
  cases v with
  | none => rfl
  | some t =>
    obtain ⟨size, answer⟩ := t
    cases answer <;> rfl

end Visit

/-- **A sweep** of a directory. -/
inductive Sweep where
  | absent
  | unreadable (reason : String)
  | listed (entries : List (Path × Trial))

namespace Sweep

/-- The attempts of a sweep, in the order of the listing. -/
def attempts : Sweep → List Attempt
  | .absent | .unreadable _ => []
  | .listed entries => entries.map fun e => ⟨e.2, .managementEntry, e.1⟩

theorem attempts_cons (path : Path) (t : Trial) (entries : List (Path × Trial)) :
    (listed ((path, t) :: entries)).attempts =
      ⟨t, .managementEntry, path⟩ :: (listed entries).attempts := rfl

theorem flatMap_attempts_cons (path : Path) (t : Trial) (entries : List (Path × Trial)) :
    (listed ((path, t) :: entries)).attempts.flatMap Attempt.exchanges =
      Attempt.exchanges ⟨t, .managementEntry, path⟩ ++
        (listed entries).attempts.flatMap Attempt.exchanges := rfl

/-- The warning about a directory that could not be read. -/
def warnings (directory : Path) : Sweep → List Warning
  | .absent | .listed _ => []
  | .unreadable reason => [⟨.managementDirectory, directory, reason⟩]

/-- The listing that failed, if one did. -/
def refused (directory : Path) : Sweep → List Exchange
  | .absent | .listed _ => []
  | .unreadable reason => [.children directory (.error reason)]

def exchanges (directory : Path) : Sweep → List Exchange
  | .absent => [.present directory false]
  | .unreadable reason => [.present directory true, .children directory (.error reason)]
  | .listed entries =>
    .present directory true :: .children directory (.ok (entries.map Prod.fst)) ::
      (listed entries).attempts.flatMap Attempt.exchanges

end Sweep

/-- **The course of a run**: the sweep of the management directory, then the visits to that
directory, to the primary file and to the notification file. -/
structure Course where
  sweep : Sweep
  directory : Visit
  primary : Visit
  note : Visit

namespace Course

variable (suffixes : Suffixes) (f : Footprint)

/-- **The deletions attempted**, in order. -/
def attempts (c : Course) : List Attempt :=
  c.sweep.attempts ++
    (c.directory.attempts .managementDirectory (f.managementDirectory suffixes) ++
      (c.primary.attempts .primary f.primary ++
        c.note.attempts .notification (f.notificationFile suffixes)))

/-- **The calls made**, with their answers. -/
def exchanges (c : Course) : List Exchange :=
  c.sweep.exchanges (f.managementDirectory suffixes) ++
    (c.directory.exchanges .managementDirectory (f.managementDirectory suffixes) ++
      (c.primary.exchanges .primary f.primary ++
        c.note.exchanges .notification (f.notificationFile suffixes)))

/-- The warnings: a failed listing, then the failed removals. -/
def warnings (c : Course) : List Warning :=
  c.sweep.warnings (f.managementDirectory suffixes) ++
    (c.attempts suffixes f).filterMap Attempt.warning?

def verdict (c : Course) : Bool := c.primary.all fun t => t.answer.toBool

/-- **What the run reports.** -/
def outcome (c : Course) : Outcome where
  primaryDeleted := c.verdict
  warnings := c.warnings suffixes f
  removed := (c.attempts suffixes f).filterMap Attempt.removed?
  bytesFreed := Attempt.bytesFreed (c.attempts suffixes f)

end Course

/-- **The stages of a course**: its log takes place through three states, one behind each part. -/
theorem Course.replay_iff {σ : Type} {fs : Filesystem (StateM σ)} {suffixes : Suffixes}
    {f : Footprint} {c : Course} {s t : σ} :
    Replay fs s (c.exchanges suffixes f) t ↔ ∃ swept visited verified : σ,
      Replay fs s (c.sweep.exchanges (f.managementDirectory suffixes)) swept ∧
      Replay fs swept
        (c.directory.exchanges .managementDirectory (f.managementDirectory suffixes)) visited ∧
      Replay fs visited (c.primary.exchanges .primary f.primary) verified ∧
      Replay fs verified (c.note.exchanges .notification (f.notificationFile suffixes)) t := by
  simp only [exchanges, Replay.append_iff]
  constructor
  · rintro ⟨a, ha, b, hb, d, hd, hlast⟩
    exact ⟨a, b, d, ha, hb, hd, hlast⟩
  · rintro ⟨a, b, d, ha, hb, hd, hlast⟩
    exact ⟨a, ha, b, hb, d, hd, hlast⟩

/-- A run is clean when it warns of nothing. -/
theorem Course.isClean_iff {suffixes : Suffixes} {f : Footprint} {c : Course} :
    (c.outcome suffixes f).isClean = true ↔ c.warnings suffixes f = [] := by
  have verdict := Visit.isEmpty_warnings .primary f.primary c.primary
  change (c.verdict && (c.warnings suffixes f).isEmpty) = true ↔ _
  rw [Bool.and_eq_true, List.isEmpty_iff]
  refine and_iff_right_of_imp fun quiet => ?_
  have attempts := (List.append_eq_nil_iff.mp quiet).2
  simp only [Course.attempts, List.filterMap_append, List.append_eq_nil_iff] at attempts
  rw [Course.verdict, ← verdict, attempts.2.2.1]
  rfl

/-! ## What a log shows -/

/-- **A reading of a log**: what single calls show, `read`, is what the attempts say, `say`. Nothing
is shown by a look or by a listing that succeeded. -/
structure Exchange.Reads {β : Type} (read : Exchange → Option β) (say : Attempt → Option β) :
    Prop where
  attempt : ∀ a : Attempt, a.exchanges.filterMap read = (say a).toList
  present : ∀ path answer, read (.present path answer) = none
  children : ∀ path entries, read (.children path (.ok entries)) = none

section

variable {β : Type} {read : Exchange → Option β} {say : Attempt → Option β}

theorem filterMap_attempts (reads : Exchange.Reads read say) (as : List Attempt) :
    (as.flatMap Attempt.exchanges).filterMap read = as.filterMap say := by
  induction as with
  | nil => rfl
  | cons a as ih =>
    rw [List.flatMap_cons, List.filterMap_append, reads.attempt, ih, List.filterMap_cons]
    cases say a <;> rfl

theorem Visit.filterMap_exchanges (reads : Exchange.Reads read say) (kind : ArtifactKind)
    (path : Path) (v : Visit) :
    (v.exchanges kind path).filterMap read = (v.attempts kind path).filterMap say := by
  rw [Visit.exchanges, List.filterMap_cons, reads.present]
  exact filterMap_attempts reads _

theorem Sweep.filterMap_exchanges (reads : Exchange.Reads read say) (directory : Path) (w : Sweep) :
    (w.exchanges directory).filterMap read =
      (w.refused directory).filterMap read ++ w.attempts.filterMap say := by
  cases w with
  | absent => simp [exchanges, refused, attempts, reads.present]
  | unreadable reason => simp [exchanges, refused, attempts, reads.present]
  | listed entries =>
    rw [exchanges, List.filterMap_cons, reads.present, List.filterMap_cons, reads.children]
    exact filterMap_attempts reads _

/-- **What the log of a course shows**: a listing that failed, then the attempts. -/
theorem Course.filterMap_exchanges (reads : Exchange.Reads read say) (suffixes : Suffixes)
    (f : Footprint) (c : Course) :
    (c.exchanges suffixes f).filterMap read =
      (c.sweep.refused (f.managementDirectory suffixes)).filterMap read ++
        (c.attempts suffixes f).filterMap say := by
  simp only [exchanges, attempts, List.filterMap_append, Sweep.filterMap_exchanges reads,
    Visit.filterMap_exchanges reads, List.append_assoc]

end

theorem Exchange.reads_removed? : Reads removed? Attempt.removed? where
  attempt a := by
    obtain ⟨⟨size, answer⟩, kind, path⟩ := a
    cases answer <;> cases kind <;> rfl
  present _ _ := rfl
  children _ _ := rfl

theorem Visit.filterMap_removed? (kind : ArtifactKind) (path : Path) (v : Visit) :
    (v.exchanges kind path).filterMap Exchange.removed? =
      (v.attempts kind path).filterMap Attempt.removed? :=
  filterMap_exchanges Exchange.reads_removed? kind path v

theorem Sweep.filterMap_removed? (directory : Path) (w : Sweep) :
    (w.exchanges directory).filterMap Exchange.removed? = w.attempts.filterMap Attempt.removed? := by
  rw [filterMap_exchanges Exchange.reads_removed?]
  cases w <;> rfl

/-- **The removals that succeeded are what the run reports as removed.** -/
theorem Course.filterMap_removed? (suffixes : Suffixes) (f : Footprint) (c : Course) :
    (c.exchanges suffixes f).filterMap Exchange.removed? =
      (c.attempts suffixes f).filterMap Attempt.removed? := by
  simp only [exchanges, attempts, List.filterMap_append, Sweep.filterMap_removed?,
    Visit.filterMap_removed?]

theorem Exchange.reads_failed? : Reads failed? fun a => a.warning?.map Warning.failure where
  attempt a := by
    obtain ⟨⟨size, answer⟩, kind, path⟩ := a
    cases answer <;> cases kind <;> rfl
  present _ _ := rfl
  children _ _ := rfl

/-- **The calls that failed are what the run warns of.** -/
theorem Course.filterMap_failed? (suffixes : Suffixes) (f : Footprint) (c : Course) :
    (c.exchanges suffixes f).filterMap Exchange.failed? =
      (c.warnings suffixes f).map Warning.failure := by
  rw [filterMap_exchanges Exchange.reads_failed?, warnings, List.map_append, List.map_filterMap]
  obtain ⟨w, v₁, v₂, v₃⟩ := c
  cases w <;> rfl

theorem Exchange.reads_removal? : Reads removal? fun a => some (a.kind.removal, a.path) where
  attempt a := by
    obtain ⟨⟨size, answer⟩, kind, path⟩ := a
    cases kind <;> rfl
  present _ _ := rfl
  children _ _ := rfl

theorem Course.filterMap_removal? (suffixes : Suffixes) (f : Footprint) (c : Course) :
    (c.exchanges suffixes f).filterMap Exchange.removal? =
      (c.attempts suffixes f).map fun a => (a.kind.removal, a.path) := by
  rw [filterMap_exchanges Exchange.reads_removal?, ← List.filterMap_eq_map]
  obtain ⟨w, v₁, v₂, v₃⟩ := c
  cases w <;> rfl

/-! ## The log determines the course -/

theorem Exchange.removal_injective {kind : ArtifactKind} {path : Path}
    {answer answer' : Except String Unit} (h : removal kind path answer = removal kind path answer') :
    answer = answer' := by
  cases kind with
  | managementDirectory => exact (Exchange.removeEmptyDirectory.inj h).2
  | managementEntry => exact (Exchange.removeFile.inj h).2
  | primary => exact (Exchange.removeFile.inj h).2
  | notification => exact (Exchange.removeFile.inj h).2

/-- A trial can be read off the front of a log. -/
theorem Attempt.exchanges_append_inj {kind : ArtifactKind} {path : Path} {t t' : Trial}
    {rest rest' : List Exchange}
    (h : exchanges ⟨t, kind, path⟩ ++ rest = exchanges ⟨t', kind, path⟩ ++ rest') :
    t = t' ∧ rest = rest' := by
  obtain ⟨size, answer⟩ := t
  obtain ⟨size', answer'⟩ := t'
  obtain ⟨hsize, h⟩ := List.cons.inj h
  obtain ⟨hanswer, hrest⟩ := List.cons.inj h
  obtain rfl : size = size' := (Exchange.fileSize.inj hsize).2
  obtain rfl : answer = answer' := Exchange.removal_injective hanswer
  exact ⟨rfl, hrest⟩

/-- So can a visit: its first answer says whether a trial follows. -/
theorem Visit.exchanges_append_inj {kind : ArtifactKind} {path : Path} {v v' : Visit}
    {rest rest' : List Exchange}
    (h : v.exchanges kind path ++ rest = v'.exchanges kind path ++ rest') :
    v = v' ∧ rest = rest' := by
  obtain ⟨hfound, calls⟩ := List.cons.inj h
  have hsome : v.isSome = v'.isSome := (Exchange.present.inj hfound).2
  cases v with
  | none =>
    obtain rfl : v' = none := by simpa using hsome.symm
    exact ⟨rfl, calls⟩
  | some t =>
    obtain ⟨t', rfl⟩ := Option.isSome_iff_exists.mp hsome.symm
    rw [exchanges_some, exchanges_some] at h
    obtain ⟨rfl, hrest⟩ := Attempt.exchanges_append_inj (List.cons.inj h).2
    exact ⟨rfl, hrest⟩

/-- So can the trials of a listing, by induction on the listing. -/
theorem Sweep.entries_append_inj {entries entries' : List (Path × Trial)} {rest rest' : List Exchange}
    (hpaths : entries.map Prod.fst = entries'.map Prod.fst)
    (h : (listed entries).attempts.flatMap Attempt.exchanges ++ rest =
      (listed entries').attempts.flatMap Attempt.exchanges ++ rest') :
    entries = entries' ∧ rest = rest' := by
  induction entries generalizing entries' with
  | nil =>
    obtain rfl : entries' = [] := List.map_eq_nil_iff.mp hpaths.symm
    exact ⟨rfl, h⟩
  | cons e entries ih =>
    cases entries' with
    | nil => cases hpaths
    | cons e' entries' =>
      obtain ⟨path, t⟩ := e
      obtain ⟨path', t'⟩ := e'
      obtain ⟨hpath, hrests⟩ := List.cons.inj hpaths
      obtain rfl : path = path' := hpath
      rw [flatMap_attempts_cons, flatMap_attempts_cons, List.append_assoc, List.append_assoc] at h
      obtain ⟨rfl, htail⟩ := Attempt.exchanges_append_inj h
      obtain ⟨rfl, hrest⟩ := ih hrests htail
      exact ⟨rfl, hrest⟩

/-- So can a sweep. Sweeps of two shapes differ in the first answer or in the second. -/
theorem Sweep.exchanges_append_inj {directory : Path} {w w' : Sweep} {rest rest' : List Exchange}
    (h : w.exchanges directory ++ rest = w'.exchanges directory ++ rest') : w = w' ∧ rest = rest' := by
  cases w with
  | absent =>
    cases w' with
    | absent => exact ⟨rfl, (List.cons.inj h).2⟩
    | unreadable reason' => cases (List.cons.inj h).1
    | listed entries' => cases (List.cons.inj h).1
  | unreadable reason =>
    cases w' with
    | absent => cases (List.cons.inj h).1
    | unreadable reason' =>
      obtain ⟨hlisting, hrest⟩ := List.cons.inj (List.cons.inj h).2
      cases hlisting
      exact ⟨rfl, hrest⟩
    | listed entries' => cases (List.cons.inj (List.cons.inj h).2).1
  | listed entries =>
    cases w' with
    | absent => cases (List.cons.inj h).1
    | unreadable reason' => cases (List.cons.inj (List.cons.inj h).2).1
    | listed entries' =>
      obtain ⟨hlisting, h⟩ := List.cons.inj (List.cons.inj h).2
      obtain ⟨rfl, hrest⟩ :=
        entries_append_inj (Except.ok.inj (Exchange.children.inj hlisting).2) h
      exact ⟨rfl, hrest⟩

/-- **The log determines the course.** -/
theorem Course.exchanges_injective (suffixes : Suffixes) (f : Footprint) :
    Function.Injective (Course.exchanges suffixes f) := by
  rintro ⟨w, v₁, v₂, v₃⟩ ⟨w', v₁', v₂', v₃'⟩ h
  obtain ⟨rfl, behindSweep⟩ := Sweep.exchanges_append_inj h
  obtain ⟨rfl, behindDirectory⟩ := Visit.exchanges_append_inj behindSweep
  obtain ⟨rfl, behindPrimary⟩ := Visit.exchanges_append_inj behindDirectory
  obtain ⟨rfl, -⟩ := Visit.exchanges_append_inj (congrArg (· ++ []) behindPrimary)
  rfl

end Reclaim
