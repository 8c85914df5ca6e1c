import Reclaim.Proofs.Disk.Lexical

/-!
# The laws of lexical normalization

Normalization keeps a stack, and what it has kept is always of one shape: names, above the root where the
path is absolute and above nothing where it is not (`Path.exists_settled`). A `..` takes back a name or
stands for nothing, so it never gets below that floor. The stack is read again from the path that it
spells (`Path.components_normalize`), and normalized once more it stays as it is.

**The laws** (`Path.normalize_laws`). A normalized path has no `.` and no `..`, is absolute if the path
was, passes the check of canonical paths, and is the path itself exactly where that passed the check. And
normalization may be done before a join or after it: what stands in front of the join counts by its stack
alone (`Path.normalize_join`). So a name goes behind the normalized path, and a `..` leaves its parent
(`Path.normalize_join_name`, `Path.normalize_join_up`).

**What the laws do not say** is that the two paths name the same node. Behind a link they do not.
-/

namespace Reclaim.Path

variable {p q : Path} {n : List UInt8} {way : List Component} {l : List (List UInt8)}

/-! ## What is kept -/

/-- **Names are kept above a floor** that no `..` gets below, component by component. -/
theorem exists_foldl_settle (floor : List Component) (floored : settle floor .up = floor)
    (inner : ∀ c ∈ way, c.IsInner) (named : ∀ n ∈ l, IsName n) :
    ∃ k : List (List UInt8), (∀ n ∈ k, IsName n) ∧
      way.foldl settle (l.map .name ++ floor) = k.map .name ++ floor := by
  induction way generalizing l with
  | nil => exact ⟨l, named, rfl⟩
  | cons c way ih =>
    obtain ⟨first, rest⟩ := List.forall_mem_cons.mp inner
    cases c with
    | root => exact absurd first id
    | here => exact absurd first id
    | up =>
      cases l with
      | nil =>
        rw [List.foldl_cons, List.map_nil, List.nil_append, floored]
        exact ih (l := []) rest nofun
      | cons n l => exact ih rest (List.forall_mem_cons.mp named).2
    | name n => exact ih (l := n :: l) rest (List.forall_mem_cons.mpr ⟨first, named⟩)

/-- The front of a path is its floor: the root, or nothing. -/
theorem foldl_settle_front (p : Path) : p.front.foldl settle [] = moves p.front := by
  rcases p.front_cases with front | front | front <;> rw [front] <;> rfl

theorem settle_floor (p : Path) : settle (moves p.front) .up = moves p.front := by
  rcases p.front_cases with front | front | front <;> rw [front] <;> rfl

theorem reverse_floor (p : Path) : (moves p.front).reverse = moves p.front := by
  rcases p.front_cases with front | front | front <;> rw [front] <;> rfl

/-- **What normalization has kept of a path**: names, above its floor. -/
theorem exists_settled (p : Path) : ∃ names : List (List UInt8), (∀ n ∈ names, IsName n) ∧
    p.components.foldl settle [] = names.map .name ++ moves p.front := by
  have split : p.components = p.front ++ p.inner := rfl
  rw [split, List.foldl_append, foldl_settle_front]
  exact exists_foldl_settle (l := []) _ p.settle_floor (fun _ => isInner_of_mem_inner) nofun

/-- **The stack is read again** from the path that it spells. -/
theorem components_normalize (p : Path) :
    p.normalize.components = (p.components.foldl settle []).reverse := by
  obtain ⟨names, named, kept⟩ := p.exists_settled
  have inner : ∀ c ∈ names.reverse.map Component.name, c.IsInner := by
    intro c listed
    obtain ⟨n, hn, rfl⟩ := List.mem_map.mp listed
    exact named n (List.mem_reverse.mp hn)
  have spelled : (p.components.foldl settle []).reverse =
      moves p.front ++ names.reverse.map Component.name := by
    rw [kept, List.reverse_append, reverse_floor, List.map_reverse]
  rw [normalize, spelled, moves_front]
  split
  · exact (components_ofComponents (.inl rfl) inner).2
  · cases behind : names.reverse.map Component.name with
    | nil => rfl
    | cons c rest =>
      rw [behind] at inner
      obtain ⟨first, others⟩ := List.forall_mem_cons.mp inner
      exact (components_ofComponents (.inr (.inr first)) others).2

theorem isRelative_normalize (p : Path) : p.normalize.components.any Component.isRelative = false := by
  obtain ⟨names, -, kept⟩ := p.exists_settled
  rw [components_normalize, kept, List.any_reverse, List.any_append, any_isRelative_names, moves_front]
  split <;> rfl

/-- **A normalized path is normalized to the same stack.** -/
theorem foldl_settle_normalize (p : Path) :
    p.normalize.components.foldl settle [] = p.components.foldl settle [] := by
  rw [foldl_settle_of_not_relative p.isRelative_normalize, components_normalize, List.reverse_reverse,
    List.append_nil]

/-! ## Laws -/

theorem normalize_normalize (p : Path) : p.normalize.normalize = p.normalize := by
  rw [normalize, foldl_settle_normalize, normalize]

theorem isAbsolute_normalize (p : Path) : p.normalize.isAbsolute = p.isAbsolute := by
  obtain ⟨names, -, kept⟩ := p.exists_settled
  rw [Bool.eq_iff_iff, ← root_mem_components_iff, components_normalize, kept, moves_front]
  cases p.isAbsolute <;> simp

theorem isCanonical_normalize (p : Path) : p.normalize.isCanonical = true := by
  have again : ofComponents p.normalize.components = p.normalize := by
    rw [components_normalize, normalize]
  rw [isCanonical, isRelative_normalize, decide_eq_true again]
  rfl

/-- **The fixed points** of normalization are the paths that pass the check. -/
theorem normalize_eq_self_iff (p : Path) : p.normalize = p ↔ p.isCanonical = true := by
  constructor
  · intro same
    rw [← same]
    exact p.isCanonical_normalize
  · intro canonical
    obtain ⟨notRelative, spelledAgain⟩ := Bool.and_eq_true_iff.mp canonical
    rw [Bool.not_eq_true'] at notRelative
    rw [normalize, foldl_settle_of_not_relative notRelative, List.append_nil, List.reverse_reverse]
    exact of_decide_eq_true spelledAgain

/-- **What is joined to a path goes on from its stack.** A `.` at the front of the second path means
nothing, also where the first is empty. -/
theorem foldl_settle_join (p : Path) (relative : q.isAbsolute = false) :
    (p.join q).components.foldl settle [] = q.inner.foldl settle (p.components.foldl settle []) := by
  by_cases nonempty : p.bytes = []
  · have alone : p.join q = q := by
      rw [join, relative, if_neg Bool.false_ne_true, if_pos (.inl nonempty), nonempty]
      rfl
    have nothing : p.components = [] := by
      rw [show p = ⟨[]⟩ from congrArg Path.mk nonempty]
      rfl
    have split : q.components = q.front ++ q.inner := rfl
    rw [alone, nothing, split, List.foldl_append, foldl_settle_front, moves_front, relative]
    rfl
  · rw [components_join nonempty relative, List.foldl_append]
    rfl

/-- **Normalization before a join and after it.** -/
theorem normalize_join (p q : Path) : (p.join q).normalize = (p.normalize.join q).normalize := by
  cases absolute : q.isAbsolute with
  | true =>
    rw [join, absolute, if_pos rfl, join, absolute, if_pos rfl]
  | false =>
    rw [normalize, foldl_settle_join p absolute, ← foldl_settle_normalize,
      ← foldl_settle_join _ absolute]
    rfl

/-- A name goes behind the normalized path. -/
theorem normalize_join_name (p : Path) (name : IsName n) :
    (p.join ⟨n⟩).normalize = p.normalize.join ⟨n⟩ := by
  have inner : (⟨n⟩ : Path).inner = [.name n] := by
    have read := Component.IsInner.ofSegment?_bytes (c := .name n) name
    change (segments n).filterMap Component.ofSegment? = _
    rw [segments_of_not_mem name.2.1]
    exact List.filterMap_cons_some read
  rw [normalize, foldl_settle_join p (isAbsolute_of_not_mem name.2.1), inner]
  change ofComponents (Component.name n :: p.components.foldl settle []).reverse = _
  rw [List.reverse_cons, ofComponents_concat]
  rfl

/-- **A `..` leaves the parent** of the normalized path, if it has one. -/
theorem normalize_join_up (p : Path) :
    (p.join ⟨[dot, dot]⟩).normalize = p.normalize.parent?.getD p.normalize := by
  obtain ⟨names, -, kept⟩ := p.exists_settled
  have step : (p.join ⟨[dot, dot]⟩).normalize =
      ofComponents (settle (p.components.foldl settle []) .up).reverse := by
    rw [normalize, foldl_settle_join p rfl]
    rfl
  rw [step, parent?, components_normalize, kept, normalize, kept]
  cases names with
  | nil =>
    rw [List.map_nil, List.nil_append, settle_floor, reverse_floor]
    rcases p.front_cases with front | front | front <;> rw [front] <;> rfl
  | cons n names =>
    rw [List.map_cons, List.cons_append, List.reverse_cons, List.getLast?_concat, List.dropLast_concat]
    rfl

/-! ## From a working directory -/

/-- A path normalized from a working directory is the joined path, normalized. -/
theorem lexical_eq_normalize (p : Path) (cwd : Location) :
    p.lexical cwd = (cwd.path.join p).normalize := by
  unfold lexical
  split
  · rename_i absolute
    rw [join, absolute, if_pos rfl]
  · rfl

/-- **A path normalized from a working directory** is that of a location. -/
theorem exists_location_lexical (p : Path) (cwd : Location) :
    ∃ l : Location, l.IsNamed ∧ p.lexical cwd = l.path := by
  have absolute : (cwd.path.join p).isAbsolute = true := by
    cases given : p.isAbsolute with
    | true =>
      rw [join, given, if_pos rfl]
      exact given
    | false =>
      rw [isAbsolute_join (Location.path_bytes_ne_nil cwd) given]
      exact Location.isAbsolute_path cwd
  rw [lexical_eq_normalize]
  exact exists_location ((isAbsolute_normalize _).trans absolute) (isCanonical_normalize _)

/-- **The laws of lexical normalization.** -/
theorem normalize_laws (p q : Path) :
    (∀ c ∈ p.normalize.components, c ≠ .here ∧ c ≠ .up) ∧
    p.normalize.isAbsolute = p.isAbsolute ∧
    p.normalize.normalize = p.normalize ∧
    p.normalize.isCanonical = true ∧
    (p.normalize.Canonical ↔ p.isAbsolute = true) ∧
    (p.normalize.bytes = p.bytes ↔ p.isCanonical = true) ∧
    (p.join q).normalize = (p.normalize.join q).normalize ∧
    (∀ n, IsName n → (p.join ⟨n⟩).normalize = p.normalize.join ⟨n⟩) ∧
    (p.join ⟨[dot, dot]⟩).normalize = p.normalize.parent?.getD p.normalize := by
  refine ⟨fun c listed => ?_, p.isAbsolute_normalize, p.normalize_normalize, p.isCanonical_normalize, ?_, ?_,
    normalize_join p q, fun n => p.normalize_join_name, p.normalize_join_up⟩
  · have step := List.any_eq_false.mp p.isRelative_normalize c listed
    constructor
    · rintro rfl
      exact step rfl
    · rintro rfl
      exact step rfl
  · rw [canonical_iff, and_iff_left p.isCanonical_normalize, isAbsolute_normalize]
  · rw [← normalize_eq_self_iff]
    exact ⟨congrArg Path.mk, congrArg bytes⟩

end Reclaim.Path
