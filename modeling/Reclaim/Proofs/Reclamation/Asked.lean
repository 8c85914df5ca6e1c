import Reclaim.Proofs.Disk.Answers
import Reclaim.Proofs.Disk.Listed
import Reclaim.Proofs.Footprint
import Reclaim.Proofs.Reclamation.InStep

/-!
# What is asked about

The paths that a plan and a run hand to a filesystem: the three artifacts of the footprint, and the
entries that the management directory was said to have (`Footprint.Asks`). What they have in common is
where they start. A filesystem that **lists entries** answers with paths one name behind that of the
directory, so an entry starts where its directory does, and that starts where the root does. The two
files start with the primary path.

**The law** (`asks_absolute_iff`): all paths asked about are absolute exactly when the root is. A
footprint made from its primary path has such a root. One made from parts may have any root that is not
empty, and with a relative root every plan and every run asks about a relative path first.
-/

namespace Reclaim

namespace Path

theorem isAbsolute_append {p : Path} (nonempty : p.bytes ≠ []) (s : String) :
    (p.append s).isAbsolute = p.isAbsolute := by
  obtain ⟨b, rest, hp⟩ := List.exists_cons_of_ne_nil nonempty
  simp [append, isAbsolute, hp]

theorem ofString_append (s t : String) : ofString (s ++ t) = (ofString s).append t := by
  rw [ofString, Text.encode_append]
  rfl

end Path

namespace Footprint

variable {f : Footprint} {suffixes : Suffixes}

/-- **The management directory is absolute if the root is.** -/
theorem isAbsolute_managementDirectory (f : Footprint) (suffixes : Suffixes) :
    (f.managementDirectory suffixes).isAbsolute = f.root.isAbsolute := by
  have named : IsName (Text.encode f.name) := isSingleComponent_iff.mp f.single
  have relative : (Path.ofString f.name).isAbsolute = false := Path.isAbsolute_of_not_mem named.2.1
  refine Path.isAbsolute_join f.rooted ?_
  rw [Path.ofString_append, Path.isAbsolute_append named.1, relative]

theorem isAbsolute_notificationFile (f : Footprint) (suffixes : Suffixes) :
    (f.notificationFile suffixes).isAbsolute = true := by
  rw [notificationFile, Path.isAbsolute_append (Path.bytes_ne_nil_of_isAbsolute f.absolute), f.absolute]

/-- **The paths that a footprint asks about.** -/
inductive Asks (f : Footprint) (suffixes : Suffixes) : Path → Prop
  | directory : Asks f suffixes (f.managementDirectory suffixes)
  | entry {name : List UInt8} : name ≠ [] → slash ∉ name →
      Asks f suffixes ((f.managementDirectory suffixes).join ⟨name⟩)
  | primary : Asks f suffixes f.primary
  | notification : Asks f suffixes (f.notificationFile suffixes)

theorem Asks.isAbsolute {path : Path} (h : f.Asks suffixes path) (root : f.root.isAbsolute = true) :
    path.isAbsolute = true := by
  have directory : (f.managementDirectory suffixes).isAbsolute = true :=
    (f.isAbsolute_managementDirectory suffixes).trans root
  cases h with
  | directory => exact directory
  | entry _ noSlash =>
    have nonempty := Path.bytes_ne_nil_of_isAbsolute directory
    exact (Path.isAbsolute_join nonempty (Path.isAbsolute_of_not_mem noSlash)).trans directory
  | primary => exact f.absolute
  | notification => exact f.isAbsolute_notificationFile suffixes

end Footprint

/-! ## The paths of a log -/

/-- **A filesystem lists entries**: each path in the answer is one name behind that of the directory. -/
def Filesystem.ListsEntries {σ : Type} (fs : Filesystem (StateM σ)) : Prop :=
  ∀ directory s entries, ((fs.children directory).run s).1 = .ok entries →
    ∀ path ∈ entries, ∃ name : List UInt8, name ≠ [] ∧ slash ∉ name ∧ path = directory.join ⟨name⟩

theorem Exchange.path_removal (kind : ArtifactKind) (path : Path) (answer : Except String Unit) :
    (removal kind path answer).path = path := by
  cases kind <;> rfl

theorem Attempt.path_of_mem_exchanges {a : Attempt} {e : Exchange} (h : e ∈ a.exchanges) :
    e.path = a.path := by
  rcases List.mem_cons.mp h with rfl | h
  · rfl
  · rw [List.mem_singleton.mp h, Exchange.path_removal]

theorem Visit.path_of_mem_exchanges {kind : ArtifactKind} {path : Path} {v : Visit} {e : Exchange}
    (h : e ∈ v.exchanges kind path) : e.path = path := by
  rcases List.mem_cons.mp h with rfl | h
  · rfl
  · obtain ⟨a, ha, he⟩ := List.mem_flatMap.mp h
    obtain ⟨t, -, rfl⟩ := List.mem_map.mp ha
    exact Attempt.path_of_mem_exchanges he

section

variable {σ : Type} {fs : Filesystem (StateM σ)} {suffixes : Suffixes} {f : Footprint} {s t : σ}

/-- What a sweep asks about beyond its directory are the entries that it was told of. -/
theorem Sweep.asks (lists : fs.ListsEntries) {w : Sweep}
    (h : Replay fs s (w.exchanges (f.managementDirectory suffixes)) t) :
    ∀ e ∈ w.exchanges (f.managementDirectory suffixes), f.Asks suffixes e.path := by
  intro e he
  cases w with
  | absent =>
    rw [List.mem_singleton.mp he]
    exact .directory
  | unreadable reason =>
    rcases List.mem_cons.mp he with rfl | he
    · exact .directory
    · rw [List.mem_singleton.mp he]
      exact .directory
  | listed entries =>
    obtain ⟨u, -, rest⟩ := Replay.cons_iff.mp h
    obtain ⟨u', listing, -⟩ := Replay.cons_iff.mp rest
    rcases List.mem_cons.mp he with rfl | he
    · exact .directory
    rcases List.mem_cons.mp he with rfl | he
    · exact .directory
    obtain ⟨a, ha, he⟩ := List.mem_flatMap.mp he
    obtain ⟨entry, hentry, rfl⟩ := List.mem_map.mp ha
    obtain ⟨name, nonempty, noSlash, same⟩ :=
      lists _ u _ (congrArg Prod.fst listing) entry.1 (List.mem_map_of_mem hentry)
    rw [Attempt.path_of_mem_exchanges he]
    change f.Asks suffixes entry.1
    rw [same]
    exact .entry nonempty noSlash

/-- **A run asks about the paths of its footprint.** -/
theorem Course.asks (lists : fs.ListsEntries) {c : Course}
    (h : Replay fs s (c.exchanges suffixes f) t) :
    ∀ e ∈ c.exchanges suffixes f, f.Asks suffixes e.path := by
  obtain ⟨_, _, _, hsweep, -, -, -⟩ := Course.replay_iff.mp h
  intro e he
  simp only [Course.exchanges, List.mem_append] at he
  rcases he with he | he | he | he
  · exact Sweep.asks lists hsweep e he
  · rw [Visit.path_of_mem_exchanges he]
    exact .directory
  · rw [Visit.path_of_mem_exchanges he]
    exact .primary
  · rw [Visit.path_of_mem_exchanges he]
    exact .notification

/-- **So does a plan.** -/
theorem Survey.asks (suffixes : Suffixes) (f : Footprint) (v : Survey) :
    ∀ e ∈ v.exchanges suffixes f, f.Asks suffixes e.path := by
  rcases v with ⟨_ | answer, primary, note⟩
  · exact List.forall_mem_cons.mpr ⟨.directory, List.forall_mem_cons.mpr
      ⟨.primary, List.forall_mem_singleton.mpr .notification⟩⟩
  · exact List.forall_mem_cons.mpr ⟨.directory, List.forall_mem_cons.mpr ⟨.directory,
      List.forall_mem_cons.mpr ⟨.primary, List.forall_mem_singleton.mpr .notification⟩⟩⟩

/-- Each begins with the management directory. -/
theorem Course.directory_asked (suffixes : Suffixes) (f : Footprint) (c : Course) :
    ∃ e ∈ c.exchanges suffixes f, e.path = f.managementDirectory suffixes := by
  obtain ⟨w, v₁, v₂, v₃⟩ := c
  cases w with
  | absent => exact ⟨_, List.mem_cons_self, rfl⟩
  | unreadable reason => exact ⟨_, List.mem_cons_self, rfl⟩
  | listed entries => exact ⟨_, List.mem_cons_self, rfl⟩

theorem Survey.directory_asked (suffixes : Suffixes) (f : Footprint) (v : Survey) :
    ∃ e ∈ v.exchanges suffixes f, e.path = f.managementDirectory suffixes := by
  rcases v with ⟨_ | answer, primary, note⟩
  · exact ⟨_, List.mem_cons_self, rfl⟩
  · exact ⟨_, List.mem_cons_self, rfl⟩

/-- A log that asks about a footprint, its management directory included, is absolute if the root
is. -/
theorem Footprint.asked_absolute_iff {log : List Exchange}
    (asks : ∀ e ∈ log, f.Asks suffixes e.path)
    (directory : ∃ e ∈ log, e.path = f.managementDirectory suffixes) :
    (∀ e ∈ log, e.path.isAbsolute = true) ↔ f.root.isAbsolute = true := by
  constructor
  · intro absolute
    obtain ⟨e, he, same⟩ := directory
    rw [← f.isAbsolute_managementDirectory suffixes, ← same]
    exact absolute e he
  · intro root e he
    exact (asks e he).isAbsolute root

end

/-- The disk lists entries. -/
theorem Disk.filesystem_listsEntries (cwd : Location) : (Disk.filesystem cwd).ListsEntries := by
  intro directory d entries answered path listed
  change (d.list cwd directory).mapError Failure.message = .ok entries at answered
  cases listing : d.list cwd directory with
  | error failure =>
    rw [listing] at answered
    cases answered
  | ok found =>
    rw [listing] at answered
    cases answered
    obtain ⟨n, hn, same⟩ := mem_of_list listing listed
    exact ⟨n, hn.1, hn.2.1, same⟩

/-- **All paths asked about are absolute exactly when the root is.** On a filesystem that lists entries,
whatever else it answers and from any state:

* a plan and a run ask about the artifacts of the footprint and entries of its management directory;
* all that a plan asks about is absolute if the root of the footprint is, and only then; so for a run;
* the root is absolute where the footprint was made from its primary path. -/
theorem asks_absolute_iff {σ : Type} {fs : Filesystem (StateM σ)} (lists : fs.ListsEntries)
    (suffixes : Suffixes) (f : Footprint) (s : σ) :
    let planning := ((plan fs.recorded suffixes f).run {}).run s
    let run := ((reclaim fs.recorded .recorded suffixes f).run {}).run s
    (∀ e ∈ planning.1.2.exchanges, f.Asks suffixes e.path) ∧
    (∀ e ∈ run.1.2.exchanges, f.Asks suffixes e.path) ∧
    ((∀ e ∈ planning.1.2.exchanges, e.path.isAbsolute = true) ↔ f.root.isAbsolute = true) ∧
    ((∀ e ∈ run.1.2.exchanges, e.path.isAbsolute = true) ↔ f.root.isAbsolute = true) ∧
    ∀ primary, Footprint.ofPrimary primary = .ok f → f.root.isAbsolute = true := by
  intro planning run
  obtain ⟨_, _, _, hplan, -, v, rfl, rfl⟩ := (@says_plan σ fs suffixes f).run s
  obtain ⟨_, _, _, hrun, hplay, c, rfl, rfl⟩ := (@says_reclaim σ fs suffixes f).run s
  have looked : planning.1.2.exchanges = v.exchanges suffixes f := congrArg (·.1.2.exchanges) hplan
  have log : run.1.2.exchanges = c.exchanges suffixes f := congrArg (·.1.2.exchanges) hrun
  rw [looked, log]
  refine ⟨v.asks suffixes f, Course.asks lists hplay,
    Footprint.asked_absolute_iff (v.asks suffixes f) (v.directory_asked suffixes f),
    Footprint.asked_absolute_iff (Course.asks lists hplay) (c.directory_asked suffixes f), ?_⟩
  intro primary made
  obtain ⟨n, l, -, -, -, hroot, -⟩ := Footprint.ofPrimary_eq_ok made
  rw [hroot]
  exact Location.isAbsolute_path l

/-- A database with an entry behind its management path: all five calls are made. -/
theorem asks_absolute_iff_sample :
    let fs := Disk.filesystem []
    let f : Footprint := ⟨.ofString "/a", .ofString "/", "a", rfl, rfl, by decide, by decide⟩
    let asked := (((reclaim fs.recorded .recorded .standard f).run {}).run Disk.sample).1.2.exchanges
    fs.ListsEntries ∧ Footprint.ofPrimary f.primary = .ok f ∧ (∀ kind, ∃ e ∈ asked, e.kind = kind) ∧
      ∀ e ∈ asked, e.path.isAbsolute = true := by
  intro fs f asked
  have lists : fs.ListsEntries := Disk.filesystem_listsEntries []
  have made : Footprint.ofPrimary f.primary = .ok f := rfl
  obtain ⟨-, -, -, run, root⟩ := asks_absolute_iff lists .standard f Disk.sample
  refine ⟨lists, made, fun kind => ?_, run.mpr (root f.primary made)⟩
  cases kind <;> decide +kernel

/-- **A relative path is asked about**: a footprint with an absolute primary path and a relative root is
accepted, a plan of it lists a relative path, and a run makes all five calls on relative paths. -/
theorem relative_path_asked :
    let fs := Disk.filesystem []
    let f : Footprint := ⟨.ofString "/a", .ofString ".", "a", rfl, rfl, by decide, by decide⟩
    let planned := (((plan fs.recorded .standard f).run {}).run Disk.sample).1.2.exchanges
    let asked := (((reclaim fs.recorded .recorded .standard f).run {}).run Disk.sample).1.2.exchanges
    fs.ListsEntries ∧ Suffixes.standard.check = .ok () ∧
      Footprint.ofParts (.ofString "/a") (.ofString ".") "a" = .ok f ∧
      (∃ e ∈ planned, e.kind = .children ∧ e.path = .ofString "./a.management") ∧
      ∀ kind, ∃ e ∈ asked, e.kind = kind ∧ e.path.isAbsolute = false := by
  refine ⟨Disk.filesystem_listsEntries [], by decide, rfl, by decide +kernel, fun kind => ?_⟩
  cases kind <;> decide +kernel

end Reclaim
