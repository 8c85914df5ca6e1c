import Reclaim.Proofs.Disk.Answers

/-!
# Text and disk

Lexical normalization keeps a stack of components, and a walk keeps a location. Where no link is met they
agree: the stack is that of the location (`Disk.foldl_settle_of_reaches`). Behind the last `..` nothing is
taken back any more, and names are kept whether or not they stand, and whether or not links do. So where
the way to the last `..` stands without links, the normalized path is that of the names behind it, from
where that way leads (`Disk.lexical_of_reaches`).

Where a `..` comes behind a link, or behind a name where nothing stands, the text still takes the name
back. The disk does not go there.
-/

namespace Reclaim

/-- What normalization has kept where it has come to a location. -/
def Location.stack (l : Location) : List Component := l.map .name ++ [.root]

theorem Location.reverse_stack (l : Location) : l.stack.reverse = l.components := by
  simp [stack, components]

namespace Path

variable {p : Path} {cwd l : Location} {n : List UInt8}

/-! ## Normalization, component by component -/

/-- **What is no relative step is kept**, the latest first. -/
theorem foldl_settle_of_not_relative {cs kept : List Component}
    (h : cs.any Component.isRelative = false) : cs.foldl settle kept = cs.reverse ++ kept := by
  induction cs generalizing kept with
  | nil => rfl
  | cons c cs ih =>
    obtain ⟨first, rest⟩ := Bool.or_eq_false_iff.mp h
    have pushed : settle kept c = c :: kept := by
      cases c with
      | root => rfl
      | here => cases first
      | up => cases first
      | name n => rfl
    rw [List.foldl_cons, pushed, ih rest, List.reverse_cons, List.append_assoc]
    rfl

theorem any_isRelative_names (names : List (List UInt8)) :
    (names.map Component.name).any Component.isRelative = false := by
  simp [Component.isRelative]

/-- Names are kept. -/
theorem foldl_settle_names (names : List (List UInt8)) (l : Location) :
    (names.map Component.name).foldl settle l.stack = Location.stack (names.reverse ++ l) := by
  rw [foldl_settle_of_not_relative (any_isRelative_names names)]
  simp [Location.stack]

theorem foldl_settle_components (l : Location) : l.components.foldl settle [] = l.stack := by
  have kept := foldl_settle_names l.reverse []
  rw [List.reverse_reverse, List.append_nil] at kept
  exact kept

/-- **The components of a path behind its front.** -/
def inner (p : Path) : List Component := (segments p.bytes).filterMap Component.ofSegment?

theorem isInner_of_mem_inner {c : Component} (h : c ∈ p.inner) : c.IsInner := by
  obtain ⟨segment, hsegment, read⟩ := List.mem_filterMap.mp h
  exact Component.isInner_of_ofSegment? (not_mem_of_mem_segments hsegment) read

theorem root_not_mem_inner (p : Path) : .root ∉ p.inner := fun h => isInner_of_mem_inner h

theorem here_not_mem_inner (p : Path) : .here ∉ p.inner := fun h => isInner_of_mem_inner h

/-- Where a path starts: an absolute one at the root, any other in the working directory. -/
def start (p : Path) (cwd : Location) : Location := if p.isAbsolute then [] else cwd

/-- **A path normalized from a working directory.** -/
def lexical (p : Path) (cwd : Location) : Path :=
  if p.isAbsolute then p.normalize else (cwd.path.join p).normalize

theorem front_cases (p : Path) : p.front = [] ∨ p.front = [.root] ∨ p.front = [.here] := by
  unfold front
  split
  · exact .inr (.inl rfl)
  · split
    · exact .inr (.inr rfl)
    · exact .inl rfl

theorem moves_front (p : Path) : moves p.front = if p.isAbsolute then [.root] else [] := by
  unfold front
  split
  · rfl
  · split <;> rfl

theorem root_mem_components_iff {p : Path} : .root ∈ p.components ↔ p.isAbsolute = true := by
  have split : p.components = p.front ++ p.inner := rfl
  rw [split, List.mem_append, or_iff_left p.root_not_mem_inner]
  unfold front
  split
  · exact iff_of_true List.mem_cons_self ‹_›
  · rename_i relative
    refine iff_of_false (fun listed => ?_) relative
    split at listed
    · cases listed with
      | tail _ none => cases none
    · cases listed

/-- Behind its front, a path has the components that may stand there. -/
theorem filter_components (p : Path) :
    p.components.filter (fun c => c ≠ .root ∧ c ≠ .here) = p.inner := by
  have split : p.components = p.front ++ p.inner := rfl
  have front : p.front.filter (fun c => c ≠ .root ∧ c ≠ .here) = [] := by
    rcases p.front_cases with h | h | h <;> (rw [h]; rfl)
  rw [split, List.filter_append, front, List.nil_append, List.filter_eq_self]
  intro c hc
  refine decide_eq_true ⟨?_, ?_⟩
  · rintro rfl
    exact p.root_not_mem_inner hc
  · rintro rfl
    exact p.here_not_mem_inner hc

/-- **Normalization goes on from where the path starts.** -/
theorem lexical_eq (named : (p.start cwd).IsNamed) :
    p.lexical cwd = ofComponents (p.inner.foldl settle (p.start cwd).stack).reverse := by
  unfold lexical
  unfold start at named ⊢
  cases absolute : p.isAbsolute with
  | true =>
    rw [if_pos rfl, if_pos rfl, normalize, components, front, absolute]
    rfl
  | false =>
    rw [absolute, if_neg Bool.false_ne_true] at named
    rw [if_neg Bool.false_ne_true, if_neg Bool.false_ne_true, normalize,
      components_join (Location.path_bytes_ne_nil cwd) absolute, Location.components_path named,
      List.foldl_append, foldl_settle_components]
    rfl

/-- Inner components among which there is no `..` are names. -/
theorem exists_names_of_not_up {way rest : List Component} (before : p.inner = way ++ rest)
    (notUp : .up ∉ rest) : ∃ names : List (List UInt8), rest = names.map .name := by
  have listed : ∀ c ∈ rest, c ∈ p.inner := fun c hc => before ▸ List.mem_append_right _ hc
  have relative : rest.any Component.isRelative = false := by
    refine List.any_eq_false.mpr fun c hc relative => ?_
    cases c with
    | root => cases relative
    | here => exact p.here_not_mem_inner (listed _ hc)
    | up => exact notUp hc
    | name n => cases relative
  obtain ⟨names, -, rfl⟩ := exists_names (fun c hc => isInner_of_mem_inner (listed c hc)) relative
  exact ⟨names, rfl⟩

theorem dropLast_components {way : List Component} {c : Component} (h : p.inner = way ++ [c]) :
    p.components.dropLast = p.front ++ way := by
  rw [show p.components = p.front ++ p.inner from rfl, h, ← List.append_assoc, List.dropLast_concat]

/-- The last name of a path is the last of its inner components. -/
theorem exists_inner_last (file : p.fileName? = some n) : ∃ way, p.inner = way ++ [.name n] := by
  have last := getLast?_components_of_fileName? file
  have split : p.components = p.front ++ p.inner := rfl
  rcases List.eq_nil_or_concat p.inner with nothing | ⟨way, c, some⟩
  · rw [split, nothing, List.append_nil] at last
    unfold front at last
    split at last
    · cases last
    · split at last <;> cases last
  · rw [List.concat_eq_append] at some
    rw [split, some, ← List.append_assoc, List.getLast?_concat] at last
    obtain rfl := Option.some.inj last
    exact ⟨way, some⟩

/-- The last name of a path is a name. -/
theorem isName_of_fileName? (file : p.fileName? = some n) : IsName n := by
  obtain ⟨way, before⟩ := exists_inner_last file
  have inner : (Component.name n).IsInner := isInner_of_mem_inner (before ▸ List.mem_concat_self)
  exact inner

theorem fileName?_of_inner {way : List Component} (h : p.inner = way ++ [.name n]) :
    p.fileName? = some n := by
  have last : p.components.getLast? = some (.name n) := by
    rw [show p.components = p.front ++ p.inner from rfl, h, ← List.append_assoc, List.getLast?_concat]
  rw [fileName?, last]

/-- A path without a last name has no component behind its front or ends in `..`. -/
theorem inner_of_fileName?_eq_none (h : p.fileName? = none) :
    p.inner = [] ∨ ∃ way, p.inner = way ++ [.up] := by
  refine (List.eq_nil_or_concat p.inner).imp_right ?_
  rintro ⟨way, c, last⟩
  rw [List.concat_eq_append] at last
  have inner : c.IsInner := isInner_of_mem_inner (last ▸ List.mem_concat_self)
  cases c with
  | root => exact absurd inner id
  | here => exact absurd inner id
  | up => exact ⟨way, last⟩
  | name n => cases h.symm.trans (fileName?_of_inner last)

/-- Only the root ends in the root. -/
theorem components_of_getLast?_root (last : p.components.getLast? = some .root) :
    p.components = [.root] := by
  have split : p.components = p.front ++ p.inner := rfl
  rcases List.eq_nil_or_concat p.inner with nothing | ⟨way, c, behind⟩
  · rw [split, nothing, List.append_nil] at last ⊢
    unfold front at last ⊢
    split at last
    · rw [if_pos (by assumption)]
    · split at last <;> cases last
  · rw [List.concat_eq_append] at behind
    rw [split, behind, ← List.append_assoc, List.getLast?_concat] at last
    obtain rfl := Option.some.inj last
    exact absurd (behind ▸ List.mem_concat_self) p.root_not_mem_inner

end Path

namespace Disk

variable {d : Disk} {cwd l t : Location} {p : Path} {n : List UInt8} {links : Nat}
  {steps way : List Component} {names : List (List UInt8)}

/-- **A walk starts where its path does.** -/
theorem reaches_front_iff (moving : .here ∉ way) :
    d.Reaches links cwd (moves (p.front ++ way)) t ↔ d.Reaches links (p.start cwd) way t := by
  rw [moves_append, Path.moves_front, moves_of_not_mem moving, Path.start]
  split
  · exact reaches_root_iff
  · rfl

/-- **Where no link is met, the text follows the disk.** -/
theorem foldl_settle_of_reaches (h : d.Reaches 0 l steps t) (relative : .root ∉ steps) :
    steps.foldl Path.settle l.stack = t.stack := by
  generalize none : 0 = links at h
  induction h with
  | done => rfl
  | root => exact absurd List.mem_cons_self relative
  | here _ _ ih => exact ih (fun h => relative (List.mem_cons_of_mem _ h)) none
  | @up links l t rest _ _ ih =>
    have rest := ih (fun h => relative (List.mem_cons_of_mem _ h)) none
    cases l with
    | nil => exact rest
    | cons n l => exact rest
  | name _ _ ih => exact ih (fun h => relative (List.mem_cons_of_mem _ h)) none
  | link => cases none

/-- **Where the way to the last `..` stands without links**, the normalized path is that of the names
behind it, from where it leads. Nothing need stand there. -/
theorem lexical_of_reaches (start : d.lookup (p.start cwd) = some .directory)
    (before : p.inner = way ++ names.map .name) (h : d.Reaches 0 (p.start cwd) way t) :
    p.lexical cwd = Location.path (names.reverse ++ t) := by
  have listed : ∀ c ∈ way ++ names.map Component.name, c.IsInner :=
    fun c hc => Path.isInner_of_mem_inner (before ▸ hc)
  have relative : .root ∉ way := fun hr => listed _ (List.mem_append_left _ hr)
  obtain ⟨e, stands, -⟩ := h.isFirm (isFirm_of_directory start)
  rw [Path.lexical_eq (isNamed_of_lookup start), before, List.foldl_append,
    foldl_settle_of_reaches h relative, Path.foldl_settle_names, Location.reverse_stack]
  refine Location.ofComponents_components fun n hn => ?_
  rcases List.mem_append.mp hn with hn | hn
  · exact listed (.name n) (List.mem_append_right _ (List.mem_map_of_mem (List.mem_reverse.mp hn)))
  · exact isNamed_of_lookup stands n hn

end Disk

end Reclaim
