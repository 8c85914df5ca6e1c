import Reclaim.Proofs.Disk.Deleted

/-!
# Where a canonical path comes from

A canonical path is found by a walk that looks each name up by a call of its own (`Disk.trace`). It sees what
the walk of the disk sees, as long as no name stands at a path that is too long (`Disk.lookUnder_eq_ok`). So
where it ends, the walk of the disk ends too (`Disk.resolve_of_trace`). Where that comes by something out of
reach, the trace breaks off.

**From the root it ends in reach** (`Disk.isInReach_of_trace_path`). So what has a canonical path is found
under it.

**On a smaller disk** a trace ends where it did before, or not at all (`Disk.Within.trace`). It still ends if
the walk of the smaller disk does (`Disk.Within.trace_of_resolve`).
-/

namespace Reclaim

namespace Disk

variable {d u left : Disk} {cwd k l t : Location} {p q : Path} {n : List UInt8} {links : Nat}
  {steps rest : List Component} {e : Entry}

/-! ## One name -/

/-- **What is seen by a call of its own** is what stands. -/
theorem lookUnder_eq_ok : d.lookUnder l n rest = .ok e ↔
    d.lookup (n :: l) = some e ∧ requireCallable (lookPath l n rest e) = .ok () := by
  rw [lookUnder, bind_eq_ok]
  constructor
  · rintro ⟨f, found, h⟩
    obtain ⟨_, callable, h⟩ := bind_eq_ok.mp h
    obtain rfl := Except.ok.inj h
    exact ⟨entry_eq_ok.mp found, callable⟩
  · rintro ⟨found, callable⟩
    exact ⟨e, entry_eq_ok.mpr found, bind_eq_ok.mpr ⟨(), callable, rfl⟩⟩

theorem lookPath_cases (l : Location) (n : List UInt8) (rest : List Component) (e : Entry) :
    lookPath l n rest e = Location.path (n :: l) ∨ askDirectory rest = true ∧
      lookPath l n rest e = ⟨(Location.path (n :: l)).bytes ++ [slash]⟩ := by
  cases ask : askDirectory rest <;> cases e <;> simp [lookPath, ask]

/-- It stands in reach. -/
theorem isInReach_of_lookPath (callable : requireCallable (lookPath l n rest e) = .ok ()) :
    Location.IsInReach (n :: l) := by
  obtain ⟨-, short⟩ := requireCallable_eq_ok.mp callable
  rcases lookPath_cases l n rest e with path | ⟨-, path⟩
  · rw [path] at short
    exact short
  · rw [path, List.length_append] at short
    exact Nat.le_of_add_right_le short

/-- Where nothing asks for a directory, that is enough. -/
theorem lookUnder_of_isInReach (near : Location.IsInReach (n :: l)) (found : d.lookup (n :: l) = some e)
    (idle : askDirectory rest = false) : d.lookUnder l n rest = .ok e := by
  refine lookUnder_eq_ok.mpr ⟨found, ?_⟩
  rcases lookPath_cases l n rest e with path | ⟨ask, -⟩
  · exact path ▸ (requireCallable_path found).mpr near
  · cases idle.symm.trans ask

/-! ## Two walks -/

/-- **Where two walks end, so does one that sees what both see**, and it ends where the second does. -/
theorem walkBy_meet {first second both : Look} {s : Location}
    (sees : ∀ l n rest e f, first l n rest = .ok e → second l n rest = .ok f →
      e = f ∧ both l n rest = .ok f)
    (directories : ∀ l, d.lookup l = some .directory → u.lookup l = some .directory →
      left.lookup l = some .directory)
    (h : d.walkBy first links l steps = .ok s) (h' : u.walkBy second links l steps = .ok t) :
    left.walkBy both links l steps = .ok t := by
  induction links, steps using stepsInduction generalizing l with
  | nil links => exact walkBy_nil_eq_ok.mpr (walkBy_nil_eq_ok.mp h')
  | root links rest ih =>
    rw [walkBy_root] at h h' ⊢
    exact ih h h'
  | here links rest ih =>
    obtain ⟨directory, h⟩ := walkBy_here_eq_ok.mp h
    obtain ⟨directory', h'⟩ := walkBy_here_eq_ok.mp h'
    exact walkBy_here_eq_ok.mpr ⟨directories l directory directory', ih h h'⟩
  | up links rest ih =>
    obtain ⟨directory, h⟩ := walkBy_up_eq_ok.mp h
    obtain ⟨directory', h'⟩ := walkBy_up_eq_ok.mp h'
    exact walkBy_up_eq_ok.mpr ⟨directories l directory directory', ih h h'⟩
  | name links n rest ih below =>
    obtain ⟨e, seen, h⟩ := walkBy_name_eq_ok.mp h
    obtain ⟨f, seen', h'⟩ := walkBy_name_eq_ok.mp h'
    obtain ⟨rfl, found⟩ := sees l n rest e f seen seen'
    refine walkBy_name_eq_ok.mpr ⟨e, found, ?_⟩
    rcases h with ⟨firm, h⟩ | ⟨fewer, target, rfl, rfl, h⟩
    · rcases h' with ⟨-, h'⟩ | ⟨_, target, -, rfl, -⟩
      · exact .inl ⟨firm, ih h h'⟩
      · exact absurd rfl (firm target)
    · rcases h' with ⟨firm, -⟩ | ⟨_, _, same, link, h'⟩
      · exact absurd rfl (firm target)
      · obtain rfl := Nat.succ.inj same
        obtain rfl := Entry.link.inj link
        exact .inr ⟨fewer, target, rfl, rfl, below fewer (Nat.lt_succ_self _) _ h h'⟩

/-- **A walk that sees as much ends in the same place.** -/
theorem walkBy_mono {look more : Look}
    (sees : ∀ l n rest e, look l n rest = .ok e → more l n rest = .ok e)
    (directories : ∀ l, d.lookup l = some .directory → u.lookup l = some .directory)
    (h : d.walkBy look links l steps = .ok t) : u.walkBy more links l steps = .ok t :=
  walkBy_meet
    (fun l n rest _ f seen seen' => ⟨Except.ok.inj (seen.symm.trans seen'), sees l n rest f seen'⟩)
    (fun l directory _ => directories l directory) h h

/-! ## A trace -/

theorem trace_eq_ok_iff :
    d.trace cwd p = .ok t ↔ p.bytes ≠ [] ∧ d.walkBy d.lookUnder linkLimit cwd p.steps = .ok t := by
  rw [trace, bind_eq_ok, exists_unit, requirePath_eq_ok]

theorem canonicalize_eq_ok_iff :
    d.canonicalize cwd p = .ok q ↔ ∃ t, d.trace cwd p = .ok t ∧ q = t.path := by
  rw [canonicalize, bind_eq_ok]
  exact exists_congr fun t => and_congr_right fun _ => ⟨fun h => (Except.ok.inj h).symm, fun h => h ▸ rfl⟩

/-- **Where a trace ends, the path leads.** -/
theorem resolve_of_trace (h : d.trace cwd p = .ok t) : d.resolve cwd p = .ok t := by
  obtain ⟨nonempty, walked⟩ := trace_eq_ok_iff.mp h
  rw [resolve, bind_eq_ok, exists_unit, requirePath_eq_ok]
  refine ⟨nonempty, walkBy_mono (fun l n rest e seen => ?_) (fun _ => id) walked⟩
  exact entry_eq_ok.mpr (lookUnder_eq_ok.mp seen).1

/-- It ends in reach, if it starts so. -/
theorem isInReach_of_walkBy (near : l.IsInReach) (h : d.walkBy d.lookUnder links l steps = .ok t) :
    t.IsInReach := by
  induction links, steps using stepsInduction generalizing l with
  | nil links => exact walkBy_nil_eq_ok.mp h ▸ near
  | root links rest ih =>
    rw [walkBy_root] at h
    exact ih (by decide) h
  | here links rest ih => exact ih near (walkBy_here_eq_ok.mp h).2
  | up links rest ih =>
    refine ih ?_ (walkBy_up_eq_ok.mp h).2
    cases l with
    | nil => exact near
    | cons n l => exact near.tail
  | name links n rest ih below =>
    obtain ⟨e, seen, ⟨-, h⟩ | ⟨fewer, target, rfl, -, h⟩⟩ := walkBy_name_eq_ok.mp h
    · exact ih (isInReach_of_lookPath (lookUnder_eq_ok.mp seen).2) h
    · exact below fewer (Nat.lt_succ_self _) _ near h

theorem steps_of_isAbsolute (absolute : p.isAbsolute = true) : ∃ rest, p.steps = .root :: rest := by
  rw [Path.steps, Path.stem, if_pos absolute]
  exact ⟨_, rfl⟩

/-- **A canonical path leads into reach**, where it leads anywhere by calls. -/
theorem isInReach_of_trace_path (h : d.trace cwd l.path = .ok t) : t.IsInReach := by
  obtain ⟨rest, steps⟩ := steps_of_isAbsolute (Location.isAbsolute_path l)
  obtain ⟨-, walked⟩ := trace_eq_ok_iff.mp h
  rw [steps, walkBy_root] at walked
  exact isInReach_of_walkBy (by decide) walked

/-! ## On a smaller disk -/

theorem Within.trace (h : left.Within d) (led : left.trace cwd p = .ok t) : d.trace cwd p = .ok t := by
  rw [trace_eq_ok_iff] at led ⊢
  refine led.imp_right (walkBy_mono (fun l n rest e seen => ?_) fun l => h l _)
  exact lookUnder_eq_ok.mpr ((lookUnder_eq_ok.mp seen).imp_left (h _ e))

/-- **What was found by calls and is still there is found by calls.** -/
theorem Within.trace_of_resolve {s : Location} (h : left.Within d) (before : d.trace cwd p = .ok s)
    (led : left.resolve cwd p = .ok t) : left.trace cwd p = .ok t := by
  obtain ⟨nonempty, walked⟩ := trace_eq_ok_iff.mp before
  rw [resolve, bind_eq_ok, exists_unit] at led
  refine trace_eq_ok_iff.mpr ⟨nonempty, walkBy_meet (fun l n rest e f seen still => ?_)
    (fun _ _ directory => directory) walked led.2⟩
  obtain ⟨found, callable⟩ := lookUnder_eq_ok.mp seen
  have stands := entry_eq_ok.mp still
  obtain rfl := Option.some.inj (found.symm.trans (h _ f stands))
  exact ⟨rfl, lookUnder_eq_ok.mpr ⟨stands, callable⟩⟩

/-! ## The canonical path of a location -/

/-- **The way to a directory in reach** is found by calls, if it goes on to a name. -/
theorem walkBy_names_iff (directory : d.lookup l = some .directory) (near : l.IsInReach) :
    d.walkBy d.lookUnder links [] (l.reverse.map .name ++ .name n :: rest) = .ok t ↔
      d.walkBy d.lookUnder links l (.name n :: rest) = .ok t := by
  induction l generalizing n rest with
  | nil => rfl
  | cons m l ih =>
    rw [List.reverse_cons, List.map_append, List.append_assoc, List.map_singleton, List.singleton_append,
      ih (directory_of_lookup directory) near.tail, walkBy_name_eq_ok]
    have seen : d.lookUnder l m (.name n :: rest) = .ok .directory :=
      lookUnder_of_isInReach near directory rfl
    constructor
    · rintro ⟨e, seen', ⟨-, h⟩ | ⟨_, target, -, rfl, -⟩⟩
      · exact h
      · cases seen.symm.trans seen'
    · intro h
      exact ⟨_, seen, .inl ⟨nofun, h⟩⟩

/-- **The canonical path of an entry of a directory** is found by calls just as its name is from there. -/
theorem trace_path_iff (directory : d.lookup l = some .directory) (name : IsName n)
    (near : l.IsInReach) : d.trace cwd (Location.path (n :: l)) = .ok t ↔
      d.walkBy d.lookUnder linkLimit l [.name n] = .ok t := by
  rw [trace_eq_ok_iff, and_iff_right (Location.path_bytes_ne_nil _),
    Location.steps_path (.cons name (isNamed_of_lookup directory)), Location.components, List.cons_append,
    walkBy_root, walkBy_names_iff directory near]

end Disk

end Reclaim
