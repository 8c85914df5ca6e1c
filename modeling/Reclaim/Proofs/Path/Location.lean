import Reclaim.Disk.Basic
import Reclaim.Proofs.Path.Segments

/-!
# The canonical path of a location

A location is **named** when all its names can be spelled in a path. Its canonical path then has the
root and its names as components and nothing else (`Location.components_path`), and these components
spell the path again (`Location.ofComponents_components`). So two named locations have two paths, and every
absolute path that passes the check of canonical paths is that of a location
(`Path.exists_location`).

One name behind a location is one name behind its path (`Location.path_join`).
-/

namespace Reclaim

/-- **A location that can be spelled**: all its names are names. -/
def Location.IsNamed (l : Location) : Prop := ∀ n ∈ l, IsName n

/-- The components of the canonical path of a location. -/
def Location.components (l : Location) : List Component := .root :: l.reverse.map .name

namespace Location

theorem path_cons (n : List UInt8) (l : Location) :
    path (n :: l) = ⟨spelled l.reverse ++ slash :: n⟩ := by
  simp [path, spelled]

/-- Below the root, the path spells the names. -/
theorem bytes_path_cons (n : List UInt8) (l : Location) :
    (path (n :: l)).bytes = spelled (l.reverse ++ [n]) := by
  rw [path_cons]
  simp [spelled]

theorem components_cons (n : List UInt8) (l : Location) :
    components (n :: l) = l.components ++ [.name n] := by
  simp [components]

theorem components_append (names : List (List UInt8)) (l : Location) :
    components (names.reverse ++ l) = l.components ++ names.map .name := by
  simp [components]

theorem length_path_cons (n : List UInt8) (l : Location) :
    (path (n :: l)).bytes.length = (spelled l.reverse).length + (n.length + 1) := by
  rw [path_cons, List.length_append, List.length_cons]

/-- **What holds something in reach is in reach.** -/
theorem IsInReach.tail {n : List UInt8} {l : Location} (h : IsInReach (n :: l)) : l.IsInReach := by
  unfold IsInReach at h ⊢
  rw [length_path_cons] at h
  cases l with
  | nil => decide
  | cons m l =>
    change (spelled (m :: l).reverse).length ≤ pathLimit
    omega

theorem path_bytes_ne_nil (l : Location) : l.path.bytes ≠ [] := by
  cases l with
  | nil => exact List.cons_ne_nil _ _
  | cons n l =>
    rw [path_cons]
    exact List.append_ne_nil_of_right_ne_nil _ (List.cons_ne_nil _ _)

theorem IsNamed.tail {n : List UInt8} {l : Location} (h : IsNamed (n :: l)) : l.IsNamed :=
  fun m hm => h m (List.mem_cons_of_mem _ hm)

theorem IsNamed.head {n : List UInt8} {l : Location} (h : IsNamed (n :: l)) : IsName n :=
  h n List.mem_cons_self

theorem IsNamed.cons {n : List UInt8} {l : Location} (hn : IsName n) (h : l.IsNamed) :
    IsNamed (n :: l) :=
  List.forall_mem_cons.mpr ⟨hn, h⟩

/-- The path of a location below the root does not end in a separator. -/
theorem getLast?_path {n : List UInt8} {l : Location} (hn : IsName n) :
    (path (n :: l)).bytes.getLast? ≠ some slash := by
  intro last
  rw [path_cons] at last
  obtain ⟨before, hbefore⟩ := List.getLast?_eq_some_iff.mp last
  rcases List.eq_nil_or_concat n with rfl | ⟨others, b, rfl⟩
  · exact hn.1 rfl
  · rw [List.concat_eq_append, ← List.cons_append, ← List.append_assoc] at hbefore
    obtain ⟨-, same⟩ := List.append_inj' hbefore rfl
    obtain ⟨rfl, -⟩ := List.cons.inj same
    exact hn.2.1 (by simp)

/-- **One name behind the path of a location.** -/
theorem path_join {l : Location} {n : List UInt8} (h : l.IsNamed) (hn : slash ∉ n) :
    l.path.join ⟨n⟩ = path (n :: l) := by
  unfold Path.join
  rw [Path.isAbsolute_of_not_mem hn, if_neg Bool.false_ne_true, path_cons]
  cases l with
  | nil => rfl
  | cons m l =>
    rw [if_neg (not_or.mpr ⟨path_bytes_ne_nil _, getLast?_path h.head⟩)]
    rfl

/-- More bytes behind the path are more bytes behind the last name. -/
theorem path_append (n : List UInt8) (l : Location) (s : String) :
    (path (n :: l)).append s = path ((n ++ Text.encode s) :: l) := by
  rw [path_cons, path_cons, Path.append]
  simp

theorem isAbsolute_path (l : Location) : l.path.isAbsolute = true := by
  cases l with
  | nil => rfl
  | cons n l =>
    rw [path_cons, Path.isAbsolute]
    cases hl : l.reverse with
    | nil => rfl
    | cons m names => rfl

/-- **The components of the canonical path of a location.** -/
theorem components_path {l : Location} (h : l.IsNamed) : l.path.components = l.components := by
  induction l with
  | nil => rfl
  | cons n l ih =>
    have inner : (Component.name n).IsInner := h.head
    rw [← path_join h.tail h.head.2.1, components_cons, ← ih h.tail]
    exact Path.components_join_inner (path_bytes_ne_nil l) inner

/-- **They spell the path again.** -/
theorem ofComponents_components {l : Location} (h : l.IsNamed) :
    Path.ofComponents l.components = l.path := by
  induction l with
  | nil => rfl
  | cons n l ih =>
    rw [components_cons, Path.ofComponents_concat, ih h.tail]
    exact path_join h.tail h.head.2.1

/-- **The canonical path of a location passes the check.** -/
theorem isCanonical_path {l : Location} (h : l.IsNamed) : l.path.isCanonical = true := by
  unfold Path.isCanonical
  rw [components_path h, ofComponents_components h, decide_eq_true rfl, Bool.and_true,
    Bool.not_eq_true', List.any_eq_false]
  intro c hc
  rcases List.mem_cons.mp hc with rfl | hc
  · exact Bool.false_ne_true
  · obtain ⟨n, -, rfl⟩ := List.mem_map.mp hc
    exact Bool.false_ne_true

/-- Two named locations have two paths. -/
theorem path_inj {l k : Location} (hl : l.IsNamed) (hk : k.IsNamed) (h : l.path = k.path) :
    l = k := by
  have same := components_path hl
  rw [h, components_path hk] at same
  have names := (List.cons.inj same).2
  exact (List.reverse_inj.mp ((List.map_inj_right fun _ _ => Component.name.inj).mp names)).symm

theorem getLast?_components (n : List UInt8) (l : Location) :
    (components (n :: l)).getLast? = some (.name n) := by
  rw [components_cons, List.getLast?_concat]

theorem parent?_path {n : List UInt8} {l : Location} (h : IsNamed (n :: l)) :
    (path (n :: l)).parent? = some l.path := by
  unfold Path.parent?
  rw [components_path h, getLast?_components, components_cons, List.dropLast_concat,
    ofComponents_components h.tail]

theorem fileName?_path {n : List UInt8} {l : Location} (h : IsNamed (n :: l)) :
    (path (n :: l)).fileName? = some n := by
  unfold Path.fileName?
  rw [components_path h, getLast?_components]

end Location

namespace Path

/-- Inner components among which none is relative are names. -/
theorem exists_names {inner : List Component} (h : ∀ c ∈ inner, c.IsInner)
    (canonical : inner.any Component.isRelative = false) :
    ∃ names : List (List UInt8), (∀ n ∈ names, IsName n) ∧ inner = names.map .name := by
  induction inner with
  | nil => exact ⟨[], nofun, rfl⟩
  | cons c inner ih =>
    obtain ⟨hc, hinner⟩ := List.forall_mem_cons.mp h
    obtain ⟨first, rest⟩ := Bool.or_eq_false_iff.mp canonical
    obtain ⟨names, named, rfl⟩ := ih hinner rest
    cases c with
    | root => exact absurd hc id
    | here => exact absurd hc id
    | up => cases first
    | name n => exact ⟨n :: names, List.forall_mem_cons.mpr ⟨hc, named⟩, rfl⟩

/-- **An absolute path that passes the check is that of a location.** -/
theorem exists_location {p : Path} (absolute : p.isAbsolute = true)
    (canonical : p.isCanonical = true) : ∃ l : Location, l.IsNamed ∧ p = l.path := by
  obtain ⟨notRelative, spelledAgain⟩ := Bool.and_eq_true_iff.mp canonical
  rw [Bool.not_eq_true'] at notRelative
  obtain ⟨inner, hinner, ⟨-, hp⟩ | ⟨relative, -⟩⟩ := p.components_cases
  · rw [hp] at notRelative spelledAgain
    obtain ⟨names, named, rfl⟩ := exists_names hinner notRelative
    refine ⟨names.reverse, fun n hn => named n (List.mem_reverse.mp hn), ?_⟩
    rw [← Location.ofComponents_components fun n hn => named n (List.mem_reverse.mp hn),
      Location.components, List.reverse_reverse]
    exact (of_decide_eq_true spelledAgain).symm
  · rw [absolute] at relative
    cases relative

/-- **The grammar is that of the paths of named locations.** -/
theorem canonical_iff_exists_location {p : Path} :
    p.Canonical ↔ ∃ l : Location, l.IsNamed ∧ p = l.path := by
  constructor
  · rintro (root | ⟨names, some, named, written⟩)
    · exact ⟨[], nofun, congrArg Path.mk root⟩
    · obtain ⟨rest, n, rfl⟩ := (List.eq_nil_or_concat names).resolve_left some
      refine ⟨n :: rest.reverse, fun m hm => named m ?_, ?_⟩
      · simpa [or_comm] using hm
      · have spelling : p.bytes = (Location.path (n :: rest.reverse)).bytes := by
          rw [written, Location.bytes_path_cons, List.reverse_reverse, List.concat_eq_append]
        exact congrArg Path.mk spelling
  · rintro ⟨l, named, rfl⟩
    cases l with
    | nil => exact .inl rfl
    | cons n l =>
      refine .inr ⟨l.reverse ++ [n], by simp, fun m hm => named m ?_, Location.bytes_path_cons n l⟩
      simpa [or_comm] using hm

/-- **The check accepts the grammar**, of absolute paths, and nothing else. -/
theorem canonical_iff {p : Path} : p.Canonical ↔ p.isAbsolute = true ∧ p.isCanonical = true := by
  rw [canonical_iff_exists_location]
  constructor
  · rintro ⟨l, named, rfl⟩
    exact ⟨Location.isAbsolute_path l, Location.isCanonical_path named⟩
  · rintro ⟨absolute, canonical⟩
    exact exists_location absolute canonical

end Path

end Reclaim
