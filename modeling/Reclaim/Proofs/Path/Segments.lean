import Reclaim.Path.Canonical
import Mathlib.Data.List.Induction

/-!
# Joined paths, segment by segment

Joining puts the segments of one path behind those of another (`Path.segments_join`). An empty
segment may be lost between the two. It means nothing, so whatever reads the segments one by one reads
the joined path as it reads the two.

A component is **inner** when it may stand behind another one: the parent, or a name. All components
but the first are inner (`Path.components_cases`), and an inner component is read again from its
spelling. So components, spelled and joined one by one, are the components of the path that they spell
(`Path.components_join`).
-/

namespace Reclaim

/-! ## Segments -/

theorem segments_cons (b : UInt8) (rest : List UInt8) :
    segments (b :: rest) =
      if b = slash then [] :: segments rest
      else (b :: (segments rest).headD []) :: (segments rest).tail := by
  rw [segments]
  split
  · rfl
  · cases h : segments rest with
    | nil => exact absurd h (segments_ne_nil rest)
    | cons first others => rfl

/-- **A separator ends a segment.** -/
theorem segments_append (a b : List UInt8) :
    segments (a ++ slash :: b) = segments a ++ segments b := by
  induction a with
  | nil => simp [segments]
  | cons c a ih =>
    rw [List.cons_append, segments_cons, segments_cons, ih]
    cases h : segments a with
    | nil => exact absurd h (segments_ne_nil a)
    | cons first others =>
      by_cases hc : c = slash
      · simp [hc]
      · simp [hc]

/-- Bytes without a separator belong to the segment that follows them. -/
theorem segments_append_of_not_mem {a : List UInt8} (h : slash ∉ a) (b : List UInt8) :
    segments (a ++ b) = (a ++ (segments b).headD []) :: (segments b).tail := by
  induction a with
  | nil =>
    obtain ⟨first, others, hb⟩ := List.exists_cons_of_ne_nil (segments_ne_nil b)
    rw [List.nil_append, hb]
    rfl
  | cons c a ih =>
    obtain ⟨hc, ha⟩ := not_or.mp (mt List.mem_cons.mpr h)
    rw [List.cons_append, segments_cons, if_neg (Ne.symm hc), ih ha]
    rfl

theorem segments_of_not_mem {a : List UInt8} (h : slash ∉ a) : segments a = [a] := by
  have alone := segments_append_of_not_mem h []
  rw [List.append_nil] at alone
  simpa [segments] using alone

theorem not_mem_of_mem_segments {bytes a : List UInt8} (h : a ∈ segments bytes) : slash ∉ a := by
  induction bytes generalizing a with
  | nil =>
    obtain rfl := List.mem_singleton.mp h
    exact List.not_mem_nil
  | cons b rest ih =>
    rw [segments_cons] at h
    cases hs : segments rest with
    | nil => exact absurd hs (segments_ne_nil rest)
    | cons first others =>
      rw [hs] at h ih
      split at h
      · rcases List.mem_cons.mp h with rfl | h
        · exact List.not_mem_nil
        · exact ih h
      · rename_i hb
        rcases List.mem_cons.mp h with rfl | h
        · rintro hmem
          rcases List.mem_cons.mp hmem with e | hmem
          · exact hb e.symm
          · exact ih List.mem_cons_self hmem
        · exact ih (List.mem_cons_of_mem _ h)

/-! ## Inner components -/

/-- **A component that may stand behind another one.** -/
def Component.IsInner : Component → Prop
  | .up => True
  | .name bytes => IsName bytes
  | .root | .here => False

namespace Component

theorem IsInner.ofSegment?_bytes {c : Component} (h : c.IsInner) : ofSegment? c.bytes = some c := by
  cases c with
  | root => exact absurd h id
  | here => exact absurd h id
  | up => rfl
  | name bytes =>
    obtain ⟨nonempty, -, notHere, notUp⟩ := h
    simp [ofSegment?, Component.bytes, nonempty, notHere, notUp]

theorem IsInner.slash_not_mem {c : Component} (h : c.IsInner) : slash ∉ c.bytes := by
  cases c with
  | root => exact absurd h id
  | here => exact absurd h id
  | up => decide
  | name bytes => exact h.2.1

theorem IsInner.bytes_ne_nil {c : Component} (h : c.IsInner) : c.bytes ≠ [] := by
  cases c with
  | root => exact absurd h id
  | here => exact absurd h id
  | up => decide
  | name bytes => exact h.1

/-- What a segment without separators means is inner. -/
theorem isInner_of_ofSegment? {segment : List UInt8} {c : Component} (h : slash ∉ segment)
    (read : ofSegment? segment = some c) : c.IsInner := by
  unfold ofSegment? at read
  split at read
  · cases read
  split at read
  · cases read
  split at read
  · cases read
    trivial
  · cases read
    exact ⟨by assumption, h, by assumption, by assumption⟩

end Component

namespace Path

/-! ## Joining -/

/-- **The segments of a joined path**: those of the first, but perhaps an empty one at its end, and
those of the second. -/
theorem segments_join {p q : Path} (nonempty : p.bytes ≠ []) (relative : q.isAbsolute = false) :
    ∃ first, first ≠ [] ∧ segments (p.join q).bytes = first ++ segments q.bytes ∧
      (segments p.bytes = first ∨ segments p.bytes = first ++ [[]]) := by
  unfold join
  rw [relative, if_neg Bool.false_ne_true]
  by_cases ends : p.bytes.getLast? = some slash
  · obtain ⟨before, hp⟩ := List.getLast?_eq_some_iff.mp ends
    refine ⟨segments before, segments_ne_nil before, ?_, .inr ?_⟩
    · rw [if_pos (.inr ends), hp, List.append_assoc]
      exact segments_append before q.bytes
    · rw [hp]
      exact segments_append before []
  · refine ⟨segments p.bytes, segments_ne_nil _, ?_, .inl rfl⟩
    rw [if_neg (not_or.mpr ⟨nonempty, ends⟩)]
    exact segments_append p.bytes q.bytes

/-- What is read segment by segment is read of both paths. -/
theorem filterMap_segments_join {β : Type} {read : List UInt8 → Option β} (h : read [] = none)
    {p q : Path} (nonempty : p.bytes ≠ []) (relative : q.isAbsolute = false) :
    (segments (p.join q).bytes).filterMap read =
      (segments p.bytes).filterMap read ++ (segments q.bytes).filterMap read := by
  obtain ⟨first, -, joined, same | same⟩ := segments_join nonempty relative
  · rw [joined, same, List.filterMap_append]
  · rw [joined, same]
    simp [h]

theorem join_bytes_ne_nil {p q : Path} (nonempty : p.bytes ≠ []) (relative : q.isAbsolute = false) :
    (p.join q).bytes ≠ [] := by
  unfold join
  rw [relative, if_neg Bool.false_ne_true]
  split <;> simp [nonempty]

/-- **A joined path is absolute if the first one is.** -/
theorem isAbsolute_join {p q : Path} (nonempty : p.bytes ≠ []) (relative : q.isAbsolute = false) :
    (p.join q).isAbsolute = p.isAbsolute := by
  obtain ⟨b, rest, hp⟩ := List.exists_cons_of_ne_nil nonempty
  unfold join
  rw [relative, if_neg Bool.false_ne_true]
  split <;> simp [isAbsolute, hp]

theorem front_join {p q : Path} (nonempty : p.bytes ≠ []) (relative : q.isAbsolute = false) :
    (p.join q).front = p.front := by
  obtain ⟨first, hfirst, joined, same⟩ := segments_join nonempty relative
  have head : (segments (p.join q).bytes).head? = (segments p.bytes).head? := by
    obtain ⟨s, others, rfl⟩ := List.exists_cons_of_ne_nil hfirst
    rcases same with same | same
    · rw [joined, same]
      rfl
    · rw [joined, same]
      rfl
  rw [front, front, isAbsolute_join nonempty relative, head]

/-- **The components of a joined path.** A `.` at the front of the second path means nothing. -/
theorem components_join {p q : Path} (nonempty : p.bytes ≠ []) (relative : q.isAbsolute = false) :
    (p.join q).components =
      p.components ++ (segments q.bytes).filterMap Component.ofSegment? := by
  rw [components, components, front_join nonempty relative,
    filterMap_segments_join rfl nonempty relative, List.append_assoc]

theorem bytes_ne_nil_of_isAbsolute {p : Path} (h : p.isAbsolute = true) : p.bytes ≠ [] := by
  intro empty
  rw [isAbsolute, empty] at h
  cases h

theorem isAbsolute_of_not_mem {bytes : List UInt8} (h : slash ∉ bytes) :
    (⟨bytes⟩ : Path).isAbsolute = false := by
  rw [isAbsolute, decide_eq_false_iff_not]
  intro front
  exact h (List.mem_of_mem_head? front)

/-- One more component. -/
theorem components_join_inner {p : Path} {c : Component} (nonempty : p.bytes ≠ [])
    (inner : c.IsInner) : (p.join ⟨c.bytes⟩).components = p.components ++ [c] := by
  rw [components_join nonempty (isAbsolute_of_not_mem inner.slash_not_mem),
    segments_of_not_mem inner.slash_not_mem, List.filterMap_cons, inner.ofSegment?_bytes]
  rfl

/-! ## The path that components spell -/

theorem ofComponents_singleton (c : Component) : ofComponents [c] = ⟨c.bytes⟩ := by
  change empty.join ⟨c.bytes⟩ = ⟨c.bytes⟩
  unfold join
  split
  · rfl
  · simp [empty]

theorem ofComponents_concat (cs : List Component) (c : Component) :
    ofComponents (cs ++ [c]) = (ofComponents cs).join ⟨c.bytes⟩ := by
  rw [ofComponents, List.foldl_append]
  rfl

/-- **Components as a path has them**: behind the first, all are inner. -/
theorem components_cases (p : Path) :
    ∃ inner : List Component, (∀ c ∈ inner, c.IsInner) ∧
      (p.isAbsolute = true ∧ p.components = .root :: inner ∨
        p.isAbsolute = false ∧ (p.components = .here :: inner ∨ p.components = inner)) := by
  refine ⟨(segments p.bytes).filterMap Component.ofSegment?, fun c hc => ?_, ?_⟩
  · obtain ⟨segment, hsegment, read⟩ := List.mem_filterMap.mp hc
    exact Component.isInner_of_ofSegment? (not_mem_of_mem_segments hsegment) read
  · unfold components front
    cases p.isAbsolute with
    | true => exact .inl ⟨rfl, rfl⟩
    | false =>
      refine .inr ⟨rfl, ?_⟩
      rw [if_neg Bool.false_ne_true]
      split
      · exact .inl rfl
      · exact .inr rfl

theorem components_inner {c : Component} (h : c.IsInner) : (⟨c.bytes⟩ : Path).components = [c] := by
  have notHere : c.bytes ≠ [dot] := by
    intro same
    have read := h.ofSegment?_bytes
    rw [same] at read
    cases read
  rw [components, front, isAbsolute_of_not_mem h.slash_not_mem, segments_of_not_mem h.slash_not_mem,
    List.filterMap_cons_some h.ofSegment?_bytes]
  simp [notHere]

/-- **Components are read again** from the path that they spell, where all but the first are inner. -/
theorem components_ofComponents {c : Component} {inner : List Component}
    (first : c = .root ∨ c = .here ∨ c.IsInner) (h : ∀ c ∈ inner, c.IsInner) :
    (ofComponents (c :: inner)).bytes ≠ [] ∧ (ofComponents (c :: inner)).components = c :: inner := by
  induction inner using List.reverseRecOn with
  | nil =>
    rw [ofComponents_singleton]
    rcases first with rfl | rfl | inner
    · exact ⟨List.cons_ne_nil _ _, rfl⟩
    · exact ⟨List.cons_ne_nil _ _, rfl⟩
    · exact ⟨inner.bytes_ne_nil, components_inner inner⟩
  | append_singleton inner last ih =>
    obtain ⟨nonempty, read⟩ := ih fun c hc => h c (List.mem_append_left _ hc)
    have hlast : last.IsInner := h last (List.mem_append_right _ List.mem_cons_self)
    rw [← List.cons_append, ofComponents_concat, components_join_inner nonempty hlast, read]
    exact ⟨join_bytes_ne_nil nonempty (isAbsolute_of_not_mem hlast.slash_not_mem), rfl⟩

end Path

/-- **A single component is a name.** -/
theorem isSingleComponent_iff {s : String} : isSingleComponent s = true ↔ IsName (Text.encode s) := by
  constructor
  · intro single
    have only : (Path.ofString s).components = [.name (Text.encode s)] := of_decide_eq_true single
    obtain ⟨inner, hinner, ⟨-, rooted⟩ | ⟨-, here | plain⟩⟩ := (Path.ofString s).components_cases
    · cases only.symm.trans rooted
    · cases only.symm.trans here
    · have named : (Component.name (Text.encode s)).IsInner :=
        hinner _ (plain.symm.trans only ▸ List.mem_singleton_self _)
      exact named
  · intro named
    exact decide_eq_true (Path.components_inner (c := .name (Text.encode s)) named)

end Reclaim
