import Reclaim.Disk.Resolve
import Reclaim.Proofs.Path.Location
import Mathlib.Data.List.Basic

/-!
# The steps of a path

A path has components, and it has steps. Components leave out what means nothing; steps keep each `.`
and a separator at the end, since a walk asks there whether it stands in a directory. Without the steps
that stay (`moves`) the two are the same (`Path.moves_steps`).

A path **ends plainly** when there is neither a separator nor a separator and a `.` at its end. Then its
last name, if it has one, is its last step (`Path.exists_last_step`).
-/

namespace Reclaim

/-- **The steps that move**: all but those that stay. -/
def moves (steps : List Component) : List Component := steps.filter (· ≠ .here)

theorem moves_append (first second : List Component) :
    moves (first ++ second) = moves first ++ moves second := List.filter_append ..

theorem moves_moves (steps : List Component) : moves (moves steps) = moves steps := by
  simp [moves]

theorem moves_of_not_mem {steps : List Component} (h : .here ∉ steps) : moves steps = steps :=
  List.filter_eq_self.mpr fun _ hc => decide_eq_true fun e => h (e ▸ hc)

theorem here_not_mem_moves (steps : List Component) : .here ∉ moves steps := by
  simp [moves]

theorem mem_of_mem_moves {c : Component} {steps : List Component} (h : c ∈ moves steps) : c ∈ steps :=
  (List.mem_filter.mp h).1

/-! ## Segment by segment -/

theorem stepOf?_cases (segment : List UInt8) :
    (segment = [dot] ∧ stepOf? segment = some .here ∧ Component.ofSegment? segment = none) ∨
      (segment ≠ [dot] ∧ stepOf? segment = Component.ofSegment? segment) := by
  unfold stepOf?
  by_cases h : segment = [dot]
  · rw [if_pos h, h]
    exact .inl ⟨rfl, rfl, rfl⟩
  · rw [if_neg h]
    exact .inr ⟨h, rfl⟩

theorem ofSegment?_ne_here (segment : List UInt8) : Component.ofSegment? segment ≠ some .here := by
  unfold Component.ofSegment?
  split
  · nofun
  split
  · nofun
  split <;> nofun

theorem ofSegment?_ne_root (segment : List UInt8) : Component.ofSegment? segment ≠ some .root := by
  unfold Component.ofSegment?
  split
  · nofun
  split
  · nofun
  split <;> nofun

theorem stepOf?_ne_root (segment : List UInt8) : stepOf? segment ≠ some .root := by
  rcases stepOf?_cases segment with ⟨-, stays, -⟩ | ⟨-, same⟩
  · rw [stays]
    nofun
  · rw [same]
    exact ofSegment?_ne_root segment

/-- The steps of segments that move are what the segments mean. -/
theorem moves_filterMap_stepOf? (segments : List (List UInt8)) :
    moves (segments.filterMap stepOf?) = segments.filterMap Component.ofSegment? := by
  induction segments with
  | nil => rfl
  | cons segment rest ih =>
    rcases stepOf?_cases segment with ⟨-, stays, nothing⟩ | ⟨-, same⟩
    · rw [List.filterMap_cons_some stays, List.filterMap_cons_none nothing, ← ih]
      rfl
    · rw [List.filterMap_cons, List.filterMap_cons, same]
      cases read : Component.ofSegment? segment with
      | none => exact ih
      | some c =>
        have moving : c ≠ .here := fun e => ofSegment?_ne_here segment (e ▸ read)
        rw [← ih]
        exact List.filter_cons_of_pos (decide_eq_true moving)

namespace Path

variable {p : Path} {n : List UInt8}

theorem moves_stem (p : Path) : moves p.stem = moves p.components := by
  rw [stem, components, moves_append, moves_append, moves_filterMap_stepOf?,
    ← moves_filterMap_stepOf?, moves_moves]
  congr 1
  unfold front
  split
  · rfl
  · split <;> rfl

/-- **The steps that move are the components that move.** -/
theorem moves_steps (p : Path) : moves p.steps = moves p.components := by
  rw [steps, moves_append, moves_stem]
  split
  · exact List.append_nil _
  · exact List.append_nil _

/-- Only the first step can be to the root. -/
theorem root_not_mem_tail_steps (p : Path) : .root ∉ p.steps.tail := by
  have inner : .root ∉ (segments p.bytes).filterMap stepOf? ++
      (if p.endsInSeparator then [Component.here] else []) := by
    intro h
    rcases List.mem_append.mp h with h | h
    · obtain ⟨segment, -, read⟩ := List.mem_filterMap.mp h
      exact stepOf?_ne_root segment read
    · split at h
      · cases List.mem_singleton.mp h
      · cases h
  rw [steps, stem, List.append_assoc]
  split
  · exact inner
  · exact fun h => inner (List.mem_of_mem_tail h)

/-- A last step to the root is the only one. -/
theorem eq_nil_of_stem_root {way : List Component} (h : p.stem = way ++ [.root]) : way = [] := by
  refine Classical.byContradiction fun long => p.root_not_mem_tail_steps ?_
  obtain ⟨first, rest, rfl⟩ := List.exists_cons_of_ne_nil long
  rw [steps, h]
  simp

/-- A path that is not empty asks for a step. -/
theorem stem_ne_nil (nonempty : p.bytes ≠ []) : p.stem ≠ [] := by
  have read : ∀ segment : List UInt8, segment ≠ [] → stepOf? segment ≠ none := by
    intro segment filled
    unfold stepOf? Component.ofSegment?
    rw [if_neg filled]
    split
    · nofun
    · split <;> nofun
  obtain ⟨b, rest, hp⟩ := List.exists_cons_of_ne_nil nonempty
  unfold stem isAbsolute
  rw [hp]
  by_cases front : b = slash
  · subst front
    exact List.append_ne_nil_of_left_ne_nil (List.cons_ne_nil _ _) _
  · refine List.append_ne_nil_of_right_ne_nil _ fun nothing => ?_
    rw [segments_cons, if_neg front] at nothing
    exact read _ (List.cons_ne_nil _ _) (List.filterMap_eq_nil_iff.mp nothing _ List.mem_cons_self)

theorem steps_ne_nil (nonempty : p.bytes ≠ []) : p.steps ≠ [] :=
  List.append_ne_nil_of_left_ne_nil (stem_ne_nil nonempty) _

theorem steps_of_not_endsInSeparator (h : p.endsInSeparator = false) : p.steps = p.stem := by
  rw [steps, h]
  exact List.append_nil _

/-! ## Names -/

theorem stepOf?_of_isName (h : IsName n) : stepOf? n = some (.name n) := by
  obtain ⟨-, same⟩ := (stepOf?_cases n).resolve_left fun ⟨here, _⟩ => h.2.2.1 here
  rw [same]
  exact Component.IsInner.ofSegment?_bytes (c := .name n) h

/-- **One name behind a path is one more step.** -/
theorem stem_join (nonempty : p.bytes ≠ []) (h : IsName n) :
    (p.join ⟨n⟩).stem = p.stem ++ [.name n] := by
  have relative := isAbsolute_of_not_mem h.2.1
  rw [stem, stem, isAbsolute_join nonempty relative,
    filterMap_segments_join (show stepOf? [] = none from rfl) nonempty relative, segments_of_not_mem h.2.1,
    List.append_assoc]
  congr 2
  rw [List.filterMap_cons_some (stepOf?_of_isName h)]
  rfl

theorem endsInSeparator_join (h : IsName n) : (p.join ⟨n⟩).endsInSeparator = false := by
  have last : ∀ before : List UInt8, (before ++ n).getLast? ≠ some slash := by
    intro before
    rw [List.getLast?_append_of_ne_nil _ h.1]
    exact fun last => h.2.1 (List.mem_of_getLast? last)
  unfold endsInSeparator join
  rw [isAbsolute_of_not_mem h.2.1, if_neg Bool.false_ne_true, decide_eq_false_iff_not]
  split
  · exact last _
  · have := last (p.bytes ++ [slash])
    rwa [List.append_assoc] at this

theorem steps_join (nonempty : p.bytes ≠ []) (h : IsName n) :
    (p.join ⟨n⟩).steps = p.stem ++ [.name n] := by
  rw [steps_of_not_endsInSeparator (endsInSeparator_join h), stem_join nonempty h]

/-- **A path ends plainly**: neither in a separator nor in a separator and a `.`. -/
def EndsPlainly (p : Path) : Prop := p.endsInSeparator = false ∧ ¬ [slash, dot] <:+ p.bytes

instance (p : Path) : Decidable p.EndsPlainly := inferInstanceAs (Decidable (_ ∧ _))

/-- The last segment: all bytes, or those behind the last separator. -/
theorem segments_last (bytes : List UInt8) :
    ∃ others last, segments bytes = others ++ [last] ∧
      (bytes = last ∨ ∃ before, bytes = before ++ slash :: last) := by
  by_cases h : slash ∈ bytes
  · obtain ⟨last, before, split, notLast⟩ := List.eq_append_cons_of_mem (List.mem_reverse.mpr h)
    have hbytes : bytes = before.reverse ++ slash :: last.reverse := by
      rw [← List.reverse_reverse bytes, split, List.reverse_append, List.reverse_cons,
        List.append_assoc]
      rfl
    refine ⟨segments before.reverse, last.reverse, ?_, .inr ⟨_, hbytes⟩⟩
    rw [hbytes, segments_append, segments_of_not_mem (mt List.mem_reverse.mp notLast)]
  · exact ⟨[], bytes, segments_of_not_mem h, .inl rfl⟩

/-- The last segment of a path that ends plainly is a component and a step. -/
theorem EndsPlainly.last_read (plain : p.EndsPlainly) (nonempty : p.bytes ≠ [])
    (notHere : p.bytes ≠ [dot]) :
    ∃ others last, segments p.bytes = others ++ [last] ∧ last ≠ [] ∧ last ≠ [dot] := by
  obtain ⟨ends, notDot⟩ := plain
  obtain ⟨others, last, hsegments, alone | ⟨before, behind⟩⟩ := segments_last p.bytes
  · exact ⟨others, last, hsegments, alone ▸ nonempty, alone ▸ notHere⟩
  · refine ⟨others, last, hsegments, ?_, ?_⟩
    · rintro rfl
      refine of_decide_eq_false ends ?_
      rw [behind]
      exact List.getLast?_concat
    · rintro rfl
      exact notDot ⟨before, behind.symm⟩

/-- The last name of a path is its last component. -/
theorem getLast?_components_of_fileName? (file : p.fileName? = some n) :
    p.components.getLast? = some (.name n) := by
  unfold fileName? at file
  split at file
  · rename_i found
    rw [found, Option.some.inj file]
  · cases file

/-- **The last name of a path that ends plainly is its last step.** Before it, the steps that move are
the components that move. -/
theorem exists_last_step (plain : p.EndsPlainly) (file : p.fileName? = some n) :
    ∃ way, p.steps = way ++ [.name n] ∧ moves way = moves p.components.dropLast := by
  have last := getLast?_components_of_fileName? file
  have nonempty : p.bytes ≠ [] := by
    intro empty
    rw [show p = ⟨[]⟩ from congrArg mk empty] at last
    cases last
  have notHere : p.bytes ≠ [dot] := by
    intro here
    rw [show p = ⟨[dot]⟩ from congrArg mk here] at last
    cases last
  obtain ⟨others, segment, hsegments, filled, notDot⟩ := plain.last_read nonempty notHere
  obtain ⟨c, read⟩ : ∃ c, Component.ofSegment? segment = some c := by
    unfold Component.ofSegment?
    rw [if_neg filled, if_neg notDot]
    split <;> exact ⟨_, rfl⟩
  have components_eq :
      p.components = (p.front ++ others.filterMap Component.ofSegment?) ++ [c] := by
    rw [components, hsegments, List.filterMap_append, List.filterMap_cons_some read,
      List.append_assoc]
    rfl
  obtain rfl : c = .name n := by
    rw [components_eq, List.getLast?_concat] at last
    exact Option.some.inj last
  have step : stepOf? segment = some (.name n) :=
    ((stepOf?_cases segment).resolve_left fun here => notDot here.1).2.trans read
  have steps_eq : p.steps =
      ((if p.isAbsolute then [.root] else []) ++ others.filterMap stepOf?) ++ [.name n] := by
    rw [steps_of_not_endsInSeparator plain.1, stem, hsegments, List.filterMap_append,
      List.filterMap_cons_some step, List.append_assoc]
    rfl
  refine ⟨_, steps_eq, ?_⟩
  have same := p.moves_steps
  rw [steps_eq, components_eq, moves_append _ [.name n], moves_append _ [.name n]] at same
  rw [components_eq, List.dropLast_concat]
  exact List.append_cancel_right same

end Path

end Reclaim
