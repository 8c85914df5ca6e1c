import Reclaim.Command.Run
import Reclaim.Proofs.Disk.Lexical
import Reclaim.Proofs.Disk.Traced

/-!
# The node that an argument names

An argument is a path that a person has typed. It is made absolute in one of two ways: its last name is
put behind the canonical path of the directory that holds it, or the whole of it is normalized as a text.
The question is whether the new path names the node that the old one did.

An argument that ends plainly is **straight** on a disk (`Disk.IsStraight`) when it ends in a name and
the directory that holds it has a canonical path, or when it has no `..` behind a link or behind what is no
directory.

**The law** (`Disk.IsStraight.exists_place`): a straight argument has a place, a location with the path that
it is made into, and this path names the node that the argument does. Where one names none, neither does the
other. A call finds the node where it takes the new path (`Disk.HasPlace.find_absolute`): that of a node out
of reach is too long.

**What is not straight** may name one node and be made into the path of another. Behind a directory that
is not there, a `..` leads nowhere on the disk, and back to where it came from in the text. Behind a link,
a `..` at the end leads to the parent of what the link leads to, and in the text to that of the link.
-/

namespace Reclaim

/-! ## The path that an argument is made into -/

/-- **The path that an argument is made into**, seen from a working directory on a disk. -/
def Disk.absolute (d : Disk) (cwd : Location) (p : Path) : Path :=
  match p.fileName? with
  | none => p.lexical cwd
  | some n =>
    match d.canonicalize cwd (holder p) with
    | .ok directory => directory.join ⟨n⟩
    | .error _ => p.lexical cwd

/-! ## The directory that holds a name -/

namespace Path

variable {p : Path} {n : List UInt8} {way : List Component}

/-- **The path of the directory that holds a name** is not empty, and has the components before the name,
but for a `.` where there are none. -/
theorem holder_components (file : p.fileName? = some n) (before : p.inner = way ++ [.name n]) :
    (holder p).bytes ≠ [] ∧ moves (holder p).components = moves (p.front ++ way) := by
  have last := getLast?_components_of_fileName? file
  have dropped := dropLast_components before
  have parent : p.parent? = some (ofComponents (p.front ++ way)) := by
    rw [parent?, last, dropped]
  have inner : ∀ c ∈ way, c.IsInner := fun c hc =>
    isInner_of_mem_inner (p := p) (before ▸ List.mem_append_left _ hc)
  have spelled : ∀ c rest, p.front ++ way = c :: rest →
      (ofComponents (p.front ++ way)).bytes ≠ [] ∧
        (ofComponents (p.front ++ way)).components = p.front ++ way := by
    intro c rest same
    rcases p.front_cases with front | front | front
    · rw [front, List.nil_append] at same ⊢
      subst same
      exact components_ofComponents (.inr (.inr (inner c List.mem_cons_self)))
        fun c hc => inner c (List.mem_cons_of_mem _ hc)
    · rw [front]
      exact components_ofComponents (.inl rfl) inner
    · rw [front]
      exact components_ofComponents (.inr (.inl rfl)) inner
  unfold holder
  rw [parent]
  dsimp only
  cases all : p.front ++ way with
  | nil => exact ⟨List.cons_ne_nil _ _, rfl⟩
  | cons c rest =>
    obtain ⟨nonempty, read⟩ := spelled c rest all
    rw [all] at nonempty read
    rw [if_neg nonempty]
    exact ⟨nonempty, congrArg moves read⟩

end Path

namespace Disk

variable {d : Disk} {cwd j k l t : Location} {p : Path} {n : List UInt8} {way : List Component}
  {names : List (List UInt8)}

/-- **The node behind a last name** stands in the directory to which the other components lead. -/
theorem locate_eq_ok_iff_inner (plain : p.EndsPlainly) (file : p.fileName? = some n)
    (before : p.inner = way ++ [.name n]) :
    d.locate cwd p = .ok k ↔ ∃ l, d.Reaches linkLimit (p.start cwd) way l ∧
      (∃ e, d.lookup (n :: l) = some e) ∧ k = n :: l := by
  obtain ⟨steps, hsteps, same⟩ := Path.exists_last_step plain file
  have moving : .here ∉ way := fun h =>
    p.here_not_mem_inner (before ▸ List.mem_append_left _ h)
  rw [locate_eq_ok_iff hsteps]
  refine exists_congr fun l => and_congr_left fun ⟨⟨e, found⟩, _⟩ => ?_
  have relative : .root ∉ steps.tail := fun h => by
    refine p.root_not_mem_tail_steps ?_
    rw [hsteps, List.tail_append]
    split
    · rename_i nothing
      rw [List.isEmpty_iff.mp nothing] at h
      cases h
    · exact List.mem_append_left _ h
  rw [← reaches_moves_iff relative fun _ => directory_of_lookup found, same,
    Path.dropLast_components before, reaches_front_iff moving]

/-- **Where the directory that holds a name is**: there the other components lead. -/
theorem resolve_holder_iff (file : p.fileName? = some n) (before : p.inner = way ++ [.name n])
    (directory : d.lookup t = some .directory) :
    d.resolve cwd (holder p) = .ok t ↔ d.Reaches linkLimit (p.start cwd) way t := by
  obtain ⟨nonempty, same⟩ := Path.holder_components file before
  have moving : .here ∉ way := fun h =>
    p.here_not_mem_inner (before ▸ List.mem_append_left _ h)
  rw [resolve_eq_ok_iff, and_iff_right nonempty,
    ← reaches_moves_iff (Path.root_not_mem_tail_steps _) fun _ => directory, Path.moves_steps, same,
    reaches_front_iff moving]

/-- Where that directory is, the path starts in a directory. -/
theorem start_of_holder (file : p.fileName? = some n) (resolved : d.resolve cwd (holder p) = .ok t) :
    d.lookup (p.start cwd) = some .directory := by
  obtain ⟨way, before⟩ := Path.exists_inner_last file
  obtain ⟨nonempty, same⟩ := Path.holder_components file before
  have walked := (resolve_eq_ok_iff.mp resolved).2
  unfold Path.start
  split
  · exact d.lookup_root
  · rename_i relative
    refine walked.directory (fun root => ?_) fun nothing => absurd nothing (Path.steps_ne_nil nonempty)
    -- A step to the root moves, so it would be a component of the path.
    have moving : Component.root ∈ moves (p.front ++ way) := by
      rw [← same, ← Path.moves_steps]
      exact List.mem_filter.mpr ⟨root, rfl⟩
    rw [moves_append, Path.moves_front, if_neg relative, List.nil_append] at moving
    exact p.root_not_mem_inner (before ▸ List.mem_append_left _ (mem_of_mem_moves moving))

/-- So it does where the working directory stands. -/
theorem start_of_working (p : Path) (working : d.lookup cwd = some .directory) :
    d.lookup (p.start cwd) = some .directory := by
  unfold Path.start
  split
  · exact d.lookup_root
  · exact working

/-! ## Straight arguments -/

/-- **A straight argument**: it ends plainly and either ends in a name, in a directory that has a canonical
path, or has no `..` behind a link or behind what is no directory. -/
structure IsStraight (d : Disk) (cwd : Location) (p : Path) : Prop where
  nonempty : p.bytes ≠ []
  plain : p.EndsPlainly
  held : (p.fileName? ≠ none ∧ ∃ t, d.trace cwd (holder p) = .ok t) ∨
    ∃ way rest t, p.inner = way ++ rest ∧ .up ∉ rest ∧ d.walk 0 (p.start cwd) way = .ok t

/-- **A location is unheld**: its canonical path leads to no directory. -/
def IsUnheld (d : Disk) (cwd l : Location) : Prop :=
  ∀ t, d.Reaches linkLimit cwd l.components t → d.lookup t ≠ some .directory

/-- **The place of an argument**: a location, the canonical path of which is what the argument is made into
and names what the argument names. -/
structure HasPlace (d : Disk) (cwd : Location) (p : Path) (j : Location) : Prop where
  absolute : d.absolute cwd p = j.path
  named : j.IsNamed
  same : ∀ k, d.locate cwd j.path = .ok k ↔ d.locate cwd p = .ok k
  /-- A last name is that of an entry of a directory that is there, or of one that is nowhere. -/
  held : ∀ n, p.fileName? = some n →
    ∃ l, j = n :: l ∧ ((∃ t, d.resolve cwd (holder p) = .ok t) ∨ d.IsUnheld cwd l)

/-! ### In a directory that has a canonical path -/

/-- **An argument whose directory has a canonical path** is put behind that. -/
theorem absolute_of_traced (file : p.fileName? = some n) (traced : d.trace cwd (holder p) = .ok t) :
    d.absolute cwd p = Location.path (n :: t) ∧ Location.IsNamed (n :: t) := by
  have name := Path.isName_of_fileName? file
  obtain ⟨e, stands, -⟩ := isFirm_of_resolve (resolve_of_trace traced)
  have named : Location.IsNamed (n :: t) := .cons name (isNamed_of_lookup stands)
  refine ⟨?_, named⟩
  unfold absolute canonicalize
  rw [file, traced]
  exact Location.path_join named.tail name.2.1

/-- **Its place** is the entry of its last name. -/
theorem hasPlace_of_traced (plain : p.EndsPlainly) (file : p.fileName? = some n)
    (traced : d.trace cwd (holder p) = .ok t) : d.HasPlace cwd p (n :: t) := by
  obtain ⟨way, before⟩ := Path.exists_inner_last file
  have resolved := resolve_of_trace traced
  obtain ⟨absolute, named⟩ := absolute_of_traced file traced
  refine ⟨absolute, named, fun k => ?_, fun m same =>
    ⟨t, by rw [Option.some.inj (file.symm.trans same)], .inl ⟨t, resolved⟩⟩⟩
  rw [locate_path_cons (isFirm_of_resolve resolved) named.head,
    locate_eq_ok_iff_inner plain file before]
  constructor
  · rintro ⟨⟨e, found⟩, rfl⟩
    exact ⟨t, (resolve_holder_iff file before (directory_of_lookup found)).mp resolved,
      ⟨e, found⟩, rfl⟩
  · rintro ⟨l, walked, ⟨e, found⟩, rfl⟩
    have held := (resolve_holder_iff file before (directory_of_lookup found)).mpr walked
    obtain rfl := Except.ok.inj (resolved.symm.trans held)
    exact ⟨⟨e, found⟩, rfl⟩

/-! ### Normalized as a text -/

/-- **Any other argument** is normalized as a text. -/
theorem absolute_of_untraced
    (untraced : ¬ (p.fileName? ≠ none ∧ ∃ t, d.trace cwd (holder p) = .ok t)) :
    d.absolute cwd p = p.lexical cwd := by
  unfold absolute canonicalize
  cases file : p.fileName? with
  | none => rfl
  | some n =>
    cases traced : d.trace cwd (holder p) with
    | ok t => exact absurd ⟨file ▸ Option.some_ne_none n, t, traced⟩ untraced
    | error failure => rfl

/-- **An argument without a last name** whose way stands without links names where that leads. -/
theorem locate_of_reaches (start : d.lookup (p.start cwd) = some .directory) (nonempty : p.bytes ≠ [])
    (file : p.fileName? = none) (h : d.Reaches 0 (p.start cwd) p.inner t) :
    d.locate cwd p = .ok t := by
  have directory : d.lookup t = some .directory := by
    rcases Path.inner_of_fileName?_eq_none file with nothing | ⟨way, last⟩
    · rw [nothing] at h
      obtain rfl := reaches_nil_iff.mp h
      exact start
    · rw [last] at h
      obtain ⟨l, fewer, -, -, step⟩ := h.split
      obtain ⟨directory, step⟩ := reaches_up_iff.mp step
      obtain rfl := reaches_nil_iff.mp step
      exact directory_of_tail directory
  have walked : d.Reaches 0 cwd p.steps t := by
    rw [← reaches_moves_iff p.root_not_mem_tail_steps fun _ => directory, p.moves_steps]
    exact (reaches_front_iff p.here_not_mem_inner).mpr h
  obtain ⟨way, c, hsteps⟩ := (List.eq_nil_or_concat p.steps).resolve_left (Path.steps_ne_nil nonempty)
  rw [List.concat_eq_append] at hsteps
  rw [hsteps] at walked
  obtain ⟨l, fewer, le, first, last⟩ := walked.split
  obtain rfl := Nat.le_zero.mp le
  exact (locate_iff hsteps).mpr ⟨l, first.more (Nat.zero_le _), lastStep_of_reaches last⟩

/-- **Where the way to the last `..` stands without links**, the names behind it lead from there wherever
the argument does. -/
theorem locate_lexical_iff (plain : p.EndsPlainly) (file : p.fileName? = some n)
    (before : p.inner = (way ++ names.map .name) ++ [.name n])
    (walked : d.Reaches 0 (p.start cwd) way t) (firm : d.IsFirm t)
    (named : Location.IsNamed (n :: (names.reverse ++ t))) :
    d.locate cwd (Location.path (n :: (names.reverse ++ t))) = .ok k ↔ d.locate cwd p = .ok k := by
  rw [locate_eq_ok_iff (Location.steps_path named), locate_eq_ok_iff_inner plain file before,
    Location.components_append]
  refine exists_congr fun l => and_congr_left fun _ => ?_
  rw [(reaches_components firm).append_free_iff, walked.append_free_iff]

theorem IsUnheld.locate_path (unheld : d.IsUnheld cwd l) (named : Location.IsNamed (n :: l)) :
    d.locate cwd (Location.path (n :: l)) ≠ .ok k := by
  rw [Ne, locate_eq_ok_iff (Location.steps_path named)]
  rintro ⟨t, walked, ⟨e, found⟩, -⟩
  exact unheld t walked (directory_of_lookup found)

/-- **Where the directory that would hold the last name is not**, and there is no `..` behind the way that
stands without links, the normalized path does not find it either. -/
theorem isUnheld_of_unresolved (file : p.fileName? = some n)
    (unresolved : ∀ t, d.resolve cwd (holder p) ≠ .ok t)
    (before : p.inner = (way ++ names.map .name) ++ [.name n])
    (walked : d.Reaches 0 (p.start cwd) way t) (firm : d.IsFirm t) :
    d.IsUnheld cwd (names.reverse ++ t) := by
  intro l h directory
  rw [Location.components_append, (reaches_components firm).append_free_iff,
    ← walked.append_free_iff] at h
  exact unresolved l ((resolve_holder_iff file before directory).mpr h)

/-- The argument is made into a path through that location. -/
theorem absolute_of_reaches (start : d.lookup (p.start cwd) = some .directory)
    (untraced : ∀ t, d.trace cwd (holder p) ≠ .ok t)
    (before : p.inner = (way ++ names.map .name) ++ [.name n])
    (walked : d.Reaches 0 (p.start cwd) way t) :
    d.absolute cwd p = Location.path (n :: (names.reverse ++ t)) ∧
      Location.IsNamed (n :: (names.reverse ++ t)) := by
  have file := Path.fileName?_of_inner before
  obtain ⟨e, stands, -⟩ := walked.isFirm (isFirm_of_directory start)
  have named : Location.IsNamed (names.reverse ++ t) := by
    intro m hm
    rcases List.mem_append.mp hm with hm | hm
    · have inner : (Component.name m).IsInner := Path.isInner_of_mem_inner (p := p) (by
        rw [before]
        simp [List.mem_reverse.mp hm])
      exact inner
    · exact isNamed_of_lookup stands m hm
  have split : p.inner = way ++ (names ++ [n]).map .name := by simp [before]
  refine ⟨?_, .cons (Path.isName_of_fileName? file) named⟩
  rw [absolute_of_untraced fun h => h.2.elim untraced, lexical_of_reaches start split walked,
    List.reverse_append]
  rfl

/-- **A way that stands without links**, with names behind it, is one to the directory of the last name, with
names behind it. -/
theorem exists_way_of_fileName? (file : p.fileName? = some n)
    (before : p.inner = way ++ names.map .name) (walked : d.Reaches 0 (p.start cwd) way t) :
    ∃ (way' : List Component) (names' : List (List UInt8)) (t' : Location),
      p.inner = (way' ++ names'.map .name) ++ [.name n] ∧ d.Reaches 0 (p.start cwd) way' t' := by
  rcases List.eq_nil_or_concat names with rfl | ⟨names, m, rfl⟩
  · obtain ⟨init, last⟩ := Path.exists_inner_last file
    rw [List.map_nil, List.append_nil, last] at before
    rw [← before] at walked
    obtain ⟨l, fewer, -, first, -⟩ := walked.split
    exact ⟨init, [], l, by rw [last, List.map_nil, List.append_nil], first⟩
  · rw [List.concat_eq_append, List.map_append, List.map_singleton, ← List.append_assoc] at before
    obtain rfl := Option.some.inj (file.symm.trans (Path.fileName?_of_inner before))
    exact ⟨way, names, t, before, walked⟩

/-- **A straight argument has a place.** -/
theorem IsStraight.exists_place (straight : d.IsStraight cwd p)
    (start : d.lookup (p.start cwd) = some .directory) : ∃ j, d.HasPlace cwd p j := by
  obtain ⟨nonempty, plain, held⟩ := straight
  by_cases traced : p.fileName? ≠ none ∧ ∃ t, d.trace cwd (holder p) = .ok t
  · obtain ⟨file, t, traced⟩ := traced
    obtain ⟨n, file⟩ := Option.ne_none_iff_exists'.mp file
    exact ⟨n :: t, hasPlace_of_traced plain file traced⟩
  obtain ⟨way, rest, t, before, notUp, walked⟩ := held.resolve_left traced
  obtain ⟨names, rfl⟩ := Path.exists_names_of_not_up before notUp
  have walked := walk_eq_ok_iff.mp walked
  cases file : p.fileName? with
  | none =>
    -- Names at the end would be a last name.
    obtain rfl : names = [] := by
      rcases List.eq_nil_or_concat names with nothing | ⟨names, n, rfl⟩
      · exact nothing
      · rw [List.concat_eq_append, List.map_append, List.map_singleton, ← List.append_assoc] at before
        cases file.symm.trans (Path.fileName?_of_inner before)
    obtain ⟨e, stands, -⟩ := walked.isFirm (isFirm_of_directory start)
    have absolute : d.absolute cwd p = Location.path t :=
      (absolute_of_untraced traced).trans (lexical_of_reaches start before walked)
    rw [List.map_nil, List.append_nil] at before
    have located := locate_of_reaches start nonempty file (before ▸ walked)
    exact ⟨t, absolute, isNamed_of_lookup stands, fun k => by rw [locate_path stands, located],
      fun n same => by cases file.symm.trans same⟩
  | some n =>
    obtain ⟨way, names, t, before, walked⟩ := exists_way_of_fileName? file before walked
    have firm := walked.isFirm (isFirm_of_directory start)
    have untraced : ∀ l, d.trace cwd (holder p) ≠ .ok l := fun l led =>
      traced ⟨file ▸ Option.some_ne_none n, l, led⟩
    obtain ⟨absolute, named⟩ := absolute_of_reaches start untraced before walked
    refine ⟨n :: (names.reverse ++ t), absolute, named,
      fun k => locate_lexical_iff plain file before walked firm named, fun m same =>
      ⟨_, by rw [Option.some.inj (file.symm.trans same)], ?_⟩⟩
    by_cases resolved : ∃ l, d.resolve cwd (holder p) = .ok l
    · exact .inl resolved
    · exact .inr (isUnheld_of_unresolved file (fun l led => resolved ⟨l, led⟩) before walked firm)

/-! ## What an argument names -/

/-- **A call finds under the new path what the argument names**, if it takes the new path. The argument may
be as long as it likes. -/
theorem HasPlace.find_absolute (place : d.HasPlace cwd p j) :
    d.find cwd (d.absolute cwd p) = .ok k ↔
      requireCallable (d.absolute cwd p) = .ok () ∧ d.locate cwd p = .ok k := by
  rw [find_eq_ok_iff, place.absolute, place.same]

/-- **The real location behind a location**: where its canonical path leads, if that is found by calls. -/
def real (d : Disk) (cwd l : Location) : Location :=
  match d.trace cwd l.path with
  | .ok t => t
  | .error _ => l

theorem canonicalize_path (d : Disk) (cwd l : Location) :
    (d.canonicalize cwd l.path).toOption.getD l.path = (d.real cwd l).path := by
  unfold canonicalize real
  cases d.trace cwd l.path <;> rfl

/-- What leads somewhere names something. -/
theorem exists_locate_of_resolve (named : l.IsNamed) (h : d.resolve cwd l.path = .ok t) :
    ∃ k, d.locate cwd l.path = .ok k := by
  cases l with
  | nil => exact ⟨[], locate_path d.lookup_root⟩
  | cons n l =>
    have steps := Location.steps_path named
    have walked := (resolve_eq_ok_iff.mp h).2
    rw [steps] at walked
    obtain ⟨m, fewer, -, first, last⟩ := walked.split
    refine ⟨n :: m, (locate_eq_ok_iff steps).mpr ⟨m, first, ?_, rfl⟩⟩
    rcases reaches_name_iff.mp last with ⟨⟨e, found, -⟩, -⟩ | ⟨_, target, -, found, -⟩
    · exact ⟨e, found⟩
    · exact ⟨_, found⟩

/-- **What a node leads to is where a path to it leads.** -/
theorem resolve_located (named : l.IsNamed) (located : d.locate cwd l.path = .ok k)
    (led : d.resolve cwd l.path = .ok t) : d.resolve cwd k.path = .ok t := by
  obtain ⟨e, stands⟩ := lookup_of_locate located
  cases l with
  | nil =>
    obtain rfl := Except.ok.inj ((locate_path d.lookup_root).symm.trans located)
    exact led
  | cons n l =>
    have steps := Location.steps_path named
    obtain ⟨m, walked, -, rfl⟩ := (locate_eq_ok_iff steps).mp located
    have whole := (resolve_eq_ok_iff.mp led).2
    rw [steps] at whole
    obtain ⟨m', fewer, le, first, last⟩ := whole.split
    obtain rfl := first.unique walked
    refine resolve_eq_ok_iff.mpr ⟨Location.path_bytes_ne_nil _, ?_⟩
    rw [Location.steps_path (isNamed_of_lookup stands)]
    exact (reaches_components (isFirm_of_directory (directory_of_lookup stands))).append_free
      (last.more le)

/-- **The database that an argument names** is at a node: where the named node leads, or the named node
itself, if the path that the argument is made into has no canonical path. -/
def IsDatabase (d : Disk) (cwd : Location) (p : Path) (k : Location) : Prop :=
  ∃ i, d.locate cwd p = .ok i ∧ (d.resolve cwd i.path = .ok k ∨
    k = i ∧ ∀ q, d.canonicalize cwd (d.absolute cwd p) ≠ .ok q)

/-- **What is found at the real path of a place** is the database that the argument names. -/
theorem HasPlace.isDatabase (place : d.HasPlace cwd p j)
    (found : d.find cwd (d.real cwd j).path = .ok k) : d.IsDatabase cwd p k := by
  have located := (find_eq_ok_iff.mp found).2
  unfold real at located
  cases traced : d.trace cwd j.path with
  | ok t =>
    rw [traced] at located
    have led := resolve_of_trace traced
    obtain ⟨e, stands, -⟩ := isFirm_of_resolve led
    obtain rfl := Except.ok.inj ((locate_path stands).symm.trans located)
    obtain ⟨i, there⟩ := exists_locate_of_resolve place.named led
    exact ⟨i, (place.same i).mp there, .inl (resolve_located place.named there led)⟩
  | error failure =>
    rw [traced] at located
    refine ⟨k, (place.same k).mp located, .inr ⟨rfl, fun q canonical => ?_⟩⟩
    rw [place.absolute, canonicalize_eq_ok_iff] at canonical
    obtain ⟨t, led, -⟩ := canonical
    cases traced.symm.trans led

end Disk

end Reclaim
