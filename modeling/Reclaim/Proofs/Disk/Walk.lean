import Reclaim.Disk.Calls
import Reclaim.Proofs.Disk.Steps
import Reclaim.Proofs.Except

/-!
# Walks

**A walk that succeeds** is a relation between where it starts and where it ends (`Disk.Reaches`), with
one rule for each kind of step and two for a name: the walk goes on at what the name stands for, unless
that is a link, and then it goes on with the steps of the link before those that are left. The walk of
the disk finds the end wherever there is one (`Disk.walk_eq_ok_iff`).

A name in a directory needs no check of its own here. What stands on a disk has a name that a directory
holds, and stands in a directory.
-/

namespace Reclaim

namespace Disk

variable {d : Disk} {l t : Location} {n : List UInt8} {links : Nat} {steps rest : List Component}

/-! ## What stands -/

/-- **Something other than a link** stands at a location. -/
def IsFirm (d : Disk) (l : Location) : Prop :=
  ∃ e, d.lookup l = some e ∧ ∀ target, e ≠ .link target

theorem isFirm_of_directory (h : d.lookup l = some .directory) : d.IsFirm l := ⟨_, h, nofun⟩

theorem isEntryName_of_lookup {e : Entry} (h : d.lookup (n :: l) = some e) : IsEntryName n :=
  d.isTree.named n l (Option.isSome_of_eq_some h)

/-- What stands in a directory: **the directory is one**. -/
theorem directory_of_lookup {e : Entry} (h : d.lookup (n :: l) = some e) :
    d.lookup l = some .directory :=
  d.isTree.held n l (Option.isSome_of_eq_some h)

theorem directory_of_tail (h : d.lookup l = some .directory) : d.lookup l.tail = some .directory := by
  cases l with
  | nil => exact h
  | cons n l => exact directory_of_lookup h

/-- **A location where something stands has names that directories hold.** -/
theorem isEntryName_of_mem {e : Entry} (h : d.lookup l = some e) : ∀ n ∈ l, IsEntryName n := by
  induction l generalizing e with
  | nil => exact List.forall_mem_nil _
  | cons n l ih =>
    exact List.forall_mem_cons.mpr ⟨isEntryName_of_lookup h, ih (directory_of_lookup h)⟩

theorem isNamed_of_lookup {e : Entry} (h : d.lookup l = some e) : l.IsNamed :=
  fun n hn => (isEntryName_of_mem h n hn).1

theorem requireDirectory_eq_ok : d.requireDirectory l = .ok () ↔ d.lookup l = some .directory := by
  unfold requireDirectory
  split <;> simp_all

theorem entry_eq_ok {e : Entry} : d.entry l n = .ok e ↔ d.lookup (n :: l) = some e := by
  unfold entry
  rw [bind_eq_ok, exists_unit, requireDirectory_eq_ok]
  constructor
  · rintro ⟨-, h⟩
    split at h
    · cases h
    · split at h
      · rename_i found
        rw [found, Except.ok.inj h]
      · cases h
  · intro h
    refine ⟨directory_of_lookup h, ?_⟩
    rw [if_neg (Nat.not_lt.mpr (isEntryName_of_lookup h).2.2), h]

/-! ## The relation -/

/-- **A walk that follows at most so many links reaches a location**, from a location, by steps. -/
inductive Reaches (d : Disk) : Nat → Location → List Component → Location → Prop
  | done {links : Nat} {l : Location} : Reaches d links l [] l
  | root {links : Nat} {l t : Location} {rest : List Component} :
      Reaches d links [] rest t → Reaches d links l (.root :: rest) t
  | here {links : Nat} {l t : Location} {rest : List Component} :
      d.lookup l = some .directory → Reaches d links l rest t → Reaches d links l (.here :: rest) t
  | up {links : Nat} {l t : Location} {rest : List Component} :
      d.lookup l = some .directory → Reaches d links l.tail rest t → Reaches d links l (.up :: rest) t
  | name {links : Nat} {l t : Location} {n : List UInt8} {rest : List Component} :
      d.IsFirm (n :: l) → Reaches d links (n :: l) rest t → Reaches d links l (.name n :: rest) t
  | link {links : Nat} {l t : Location} {n : List UInt8} {target : Path} {rest : List Component} :
      d.lookup (n :: l) = some (.link target) → Reaches d links l (target.steps ++ rest) t →
      Reaches d (links + 1) l (.name n :: rest) t

theorem reaches_nil_iff : d.Reaches links l [] t ↔ l = t := by
  constructor
  · intro h
    cases h
    rfl
  · rintro rfl
    exact .done

theorem reaches_root_iff : d.Reaches links l (.root :: rest) t ↔ d.Reaches links [] rest t := by
  constructor
  · intro h
    cases h
    assumption
  · exact .root

theorem reaches_here_iff :
    d.Reaches links l (.here :: rest) t ↔ d.lookup l = some .directory ∧ d.Reaches links l rest t := by
  constructor
  · intro h
    cases h
    exact ⟨by assumption, by assumption⟩
  · rintro ⟨directory, h⟩
    exact .here directory h

theorem reaches_up_iff :
    d.Reaches links l (.up :: rest) t ↔
      d.lookup l = some .directory ∧ d.Reaches links l.tail rest t := by
  constructor
  · intro h
    cases h
    exact ⟨by assumption, by assumption⟩
  · rintro ⟨directory, h⟩
    exact .up directory h

theorem reaches_name_iff :
    d.Reaches links l (.name n :: rest) t ↔
      (d.IsFirm (n :: l) ∧ d.Reaches links (n :: l) rest t) ∨
        ∃ fewer target, links = fewer + 1 ∧ d.lookup (n :: l) = some (.link target) ∧
          d.Reaches fewer l (target.steps ++ rest) t := by
  constructor
  · intro h
    cases h with
    | name firm h => exact .inl ⟨firm, h⟩
    | link found h => exact .inr ⟨_, _, rfl, found, h⟩
  · rintro (⟨firm, h⟩ | ⟨fewer, target, rfl, found, h⟩)
    · exact .name firm h
    · exact .link found h

/-! ## The walk of the disk -/

section WalkBy

variable {look : Look}

theorem walkBy_nil_eq_ok : d.walkBy look links l [] = .ok t ↔ l = t := by
  cases links <;> exact Except.ok.injEq l t ▸ Iff.rfl

theorem walkBy_root (d : Disk) (look : Look) (links : Nat) (l : Location) (rest : List Component) :
    d.walkBy look links l (.root :: rest) = d.walkBy look links [] rest := by
  cases links <;> rfl

theorem walkBy_here_eq_ok : d.walkBy look links l (.here :: rest) = .ok t ↔
    d.lookup l = some .directory ∧ d.walkBy look links l rest = .ok t := by
  cases links <;> rw [walkBy, walkWith, bind_eq_ok, exists_unit, requireDirectory_eq_ok]

theorem walkBy_up_eq_ok : d.walkBy look links l (.up :: rest) = .ok t ↔
    d.lookup l = some .directory ∧ d.walkBy look links l.tail rest = .ok t := by
  cases links <;> rw [walkBy, walkWith, bind_eq_ok, exists_unit, requireDirectory_eq_ok]

/-- **A name** is looked up, and the walk goes on at what it stands for, or with the steps of a link. -/
theorem walkBy_name_eq_ok : d.walkBy look links l (.name n :: rest) = .ok t ↔
    ∃ e, look l n rest = .ok e ∧
      ((∀ target, e ≠ .link target) ∧ d.walkBy look links (n :: l) rest = .ok t ∨
        ∃ fewer target, links = fewer + 1 ∧ e = .link target ∧
          d.walkBy look fewer l (target.steps ++ rest) = .ok t) := by
  cases links with
  | zero =>
    rw [walkBy, walkWith, bind_eq_ok]
    refine exists_congr fun e => and_congr_right fun _ => ?_
    cases e with
    | link target => simp
    | _ => simp
  | succ links =>
    rw [walkBy, walkWith, bind_eq_ok]
    refine exists_congr fun e => and_congr_right fun _ => ?_
    cases e with
    | link target => simp
    | _ => simp

end WalkBy

/-- **Walks by induction**: on the number of links, and for each number on the steps. -/
@[elab_as_elim]
theorem stepsInduction {motive : Nat → List Component → Prop}
    (nil : ∀ links, motive links [])
    (root : ∀ links rest, motive links rest → motive links (.root :: rest))
    (here : ∀ links rest, motive links rest → motive links (.here :: rest))
    (up : ∀ links rest, motive links rest → motive links (.up :: rest))
    (name : ∀ links n rest, motive links rest → (∀ fewer < links, ∀ steps, motive fewer steps) →
      motive links (.name n :: rest))
    (links : Nat) (steps : List Component) : motive links steps := by
  induction links using Nat.strongRecOn generalizing steps with
  | ind links fewer =>
    induction steps with
    | nil => exact nil links
    | cons c rest ih =>
      cases c with
      | root => exact root links rest ih
      | here => exact here links rest ih
      | up => exact up links rest ih
      | name n => exact name links n rest ih fewer

/-- **The walk of the disk is the relation.** -/
theorem walk_eq_ok_iff : d.walk links l steps = .ok t ↔ d.Reaches links l steps t := by
  unfold walk
  induction links, steps using stepsInduction generalizing l with
  | nil links => rw [walkBy_nil_eq_ok, reaches_nil_iff]
  | root links rest ih => rw [walkBy_root, reaches_root_iff, ih]
  | here links rest ih => rw [walkBy_here_eq_ok, reaches_here_iff, ih]
  | up links rest ih => rw [walkBy_up_eq_ok, reaches_up_iff, ih]
  | name links n rest ih below =>
    rw [walkBy_name_eq_ok, reaches_name_iff]
    constructor
    · rintro ⟨e, found, ⟨firm, h⟩ | ⟨fewer, target, rfl, rfl, h⟩⟩
      · exact .inl ⟨⟨e, entry_eq_ok.mp found, firm⟩, ih.mp h⟩
      · exact .inr ⟨fewer, target, rfl, entry_eq_ok.mp found, (below fewer (Nat.lt_succ_self _) _).mp h⟩
    · rintro (⟨⟨e, found, firm⟩, h⟩ | ⟨fewer, target, rfl, found, h⟩)
      · exact ⟨e, entry_eq_ok.mpr found, .inl ⟨firm, ih.mpr h⟩⟩
      · exact ⟨_, entry_eq_ok.mpr found,
          .inr ⟨fewer, target, rfl, rfl, (below fewer (Nat.lt_succ_self _) _).mpr h⟩⟩

theorem Reaches.unique {u : Location} (h : d.Reaches links l steps t)
    (h' : d.Reaches links l steps u) : t = u :=
  Except.ok.inj ((walk_eq_ok_iff.mpr h).symm.trans (walk_eq_ok_iff.mpr h'))

/-! ## Parts of a walk -/

/-- A walk that may follow more links ends where it did. -/
theorem Reaches.more {more : Nat} (h : d.Reaches links l steps t) (le : links ≤ more) :
    d.Reaches more l steps t := by
  induction h generalizing more with
  | done => exact .done
  | root _ ih => exact .root (ih le)
  | here directory _ ih => exact .here directory (ih le)
  | up directory _ ih => exact .up directory (ih le)
  | name firm _ ih => exact .name firm (ih le)
  | link found _ ih =>
    cases more with
    | zero => cases le
    | succ more => exact .link found (ih (Nat.le_of_succ_le_succ le))

/-- **A walk passes the end of its first part.** The second part follows no more links. -/
theorem Reaches.split {first second : List Component} (h : d.Reaches links l (first ++ second) t) :
    ∃ m fewer, fewer ≤ links ∧ d.Reaches links l first m ∧ d.Reaches fewer m second t := by
  induction links, first using stepsInduction generalizing l with
  | nil links => exact ⟨l, links, Nat.le_refl _, .done, h⟩
  | root links rest ih =>
    obtain ⟨m, fewer, le, hfirst, hsecond⟩ := ih (reaches_root_iff.mp h)
    exact ⟨m, fewer, le, .root hfirst, hsecond⟩
  | here links rest ih =>
    obtain ⟨directory, h⟩ := reaches_here_iff.mp h
    obtain ⟨m, fewer, le, hfirst, hsecond⟩ := ih h
    exact ⟨m, fewer, le, .here directory hfirst, hsecond⟩
  | up links rest ih =>
    obtain ⟨directory, h⟩ := reaches_up_iff.mp h
    obtain ⟨m, fewer, le, hfirst, hsecond⟩ := ih h
    exact ⟨m, fewer, le, .up directory hfirst, hsecond⟩
  | name links n rest ih below =>
    rcases reaches_name_iff.mp h with ⟨firm, h⟩ | ⟨fewer, target, rfl, found, h⟩
    · obtain ⟨m, fewer, le, hfirst, hsecond⟩ := ih h
      exact ⟨m, fewer, le, .name firm hfirst, hsecond⟩
    · have h : d.Reaches fewer l ((target.steps ++ rest) ++ second) t := by
        rw [List.append_assoc]
        exact h
      obtain ⟨m, least, le, hfirst, hsecond⟩ := below fewer (Nat.lt_succ_self _) _ h
      exact ⟨m, least, Nat.le_succ_of_le le, .link found hfirst, hsecond⟩

/-- **A walk goes on** with steps that it can take however many links it followed before. -/
theorem Reaches.append {m : Location} {first second : List Component}
    (h : d.Reaches links l first m) (h' : ∀ links, d.Reaches links m second t) :
    d.Reaches links l (first ++ second) t := by
  induction h with
  | done => exact h' _
  | root _ ih => exact .root (ih h')
  | here directory _ ih => exact .here directory (ih h')
  | up directory _ ih => exact .up directory (ih h')
  | name firm _ ih => exact .name firm (ih h')
  | link found _ ih =>
    have rest := ih h'
    rw [List.append_assoc] at rest
    exact .link found rest

/-- A walk without links takes nothing from what may be followed behind it. -/
theorem Reaches.append_free {m : Location} {first second : List Component}
    (h : d.Reaches 0 l first m) (h' : d.Reaches links m second t) :
    d.Reaches links l (first ++ second) t := by
  generalize none : 0 = free at h
  induction h with
  | done => exact h'
  | root _ ih => exact .root (ih h' none)
  | here directory _ ih => exact .here directory (ih h' none)
  | up directory _ ih => exact .up directory (ih h' none)
  | name firm _ ih => exact .name firm (ih h' none)
  | link => cases none

/-- So what comes behind it is walked from where it ends. -/
theorem Reaches.append_free_iff {m : Location} {first second : List Component}
    (h : d.Reaches 0 l first m) :
    d.Reaches links l (first ++ second) t ↔ d.Reaches links m second t := by
  constructor
  · intro whole
    obtain ⟨m', fewer, le, hfirst, hsecond⟩ := whole.split
    obtain rfl := (h.more (Nat.zero_le _)).unique hfirst
    exact hsecond.more le
  · exact h.append_free

/-- **A walk that goes on starts in a directory**, unless it starts at the root. -/
theorem Reaches.directory (h : d.Reaches links l steps t) (relative : .root ∉ steps)
    (stop : steps = [] → d.lookup t = some .directory) : d.lookup l = some .directory := by
  cases h with
  | done => exact stop rfl
  | root h => exact absurd List.mem_cons_self relative
  | here directory h => exact directory
  | up directory h => exact directory
  | name firm h =>
    obtain ⟨e, found, -⟩ := firm
    exact directory_of_lookup found
  | link found h => exact directory_of_lookup found

/-- **A walk that starts where something other than a link stands ends so.** -/
theorem Reaches.isFirm (h : d.Reaches links l steps t) (start : d.IsFirm l) : d.IsFirm t := by
  induction h with
  | done => exact start
  | root h ih => exact ih (isFirm_of_directory d.lookup_root)
  | here directory h ih => exact ih start
  | up directory h ih => exact ih (isFirm_of_directory (directory_of_tail directory))
  | name firm h ih => exact ih firm
  | link found h ih => exact ih start

/-- **So does a walk that takes a step**: at the first there is a directory, or something other than a
link behind it. -/
theorem Reaches.isFirm_of_ne_nil (h : d.Reaches links l steps t) (some : steps ≠ []) : d.IsFirm t := by
  cases h with
  | done => exact absurd rfl some
  | root h => exact h.isFirm (isFirm_of_directory d.lookup_root)
  | here directory h => exact h.isFirm (isFirm_of_directory directory)
  | up directory h => exact h.isFirm (isFirm_of_directory (directory_of_tail directory))
  | name firm h => exact h.isFirm firm
  | link found h => exact h.isFirm (isFirm_of_directory (directory_of_lookup found))

/-! ## Steps that stay -/

/-- Steps of which none moves end in one that stays, if there are any. -/
theorem getLast?_of_moves_eq_nil (nonempty : steps ≠ []) (h : moves steps = []) :
    steps.getLast? = some .here := by
  have last := List.getLast?_eq_some_getLast nonempty
  generalize steps.getLast nonempty = c at last
  have stays := List.filter_eq_nil_iff.mp h c (List.mem_of_getLast? last)
  rw [decide_eq_true_eq, Decidable.not_not] at stays
  rw [last, stays]

theorem getLast?_cons_of_getLast? {c last : Component} (h : rest.getLast? = some last) :
    (c :: rest).getLast? = some last := by
  rw [List.getLast?_cons, h]
  rfl

/-- **Steps that stay change nothing** but at the end of a walk, where they ask for a directory. The
induction is on the number of links: behind one, the steps of its target stand before those that are
left, and both sides are compared to the moves of all of them. -/
theorem reaches_moves_iff (relative : .root ∉ steps.tail)
    (ends : steps.getLast? = some .here → d.lookup t = some .directory) :
    d.Reaches links l (moves steps) t ↔ d.Reaches links l steps t := by
  induction links, steps using stepsInduction generalizing l with
  | nil links => rfl
  | root links rest ih =>
    change d.Reaches links l (.root :: moves rest) t ↔ _
    rw [reaches_root_iff, reaches_root_iff]
    exact ih (fun h => relative (List.mem_of_mem_tail h)) fun h => ends (getLast?_cons_of_getLast? h)
  | here links rest ih =>
    change d.Reaches links l (moves rest) t ↔ _
    rw [reaches_here_iff, ih (fun h => relative (List.mem_of_mem_tail h)) fun h =>
      ends (getLast?_cons_of_getLast? h)]
    refine ⟨fun h => ⟨h.directory relative fun nothing => ?_, h⟩, And.right⟩
    exact ends (by rw [nothing]; rfl)
  | up links rest ih =>
    change d.Reaches links l (.up :: moves rest) t ↔ _
    rw [reaches_up_iff, reaches_up_iff, ih (fun h => relative (List.mem_of_mem_tail h)) fun h =>
      ends (getLast?_cons_of_getLast? h)]
  | name links n rest ih below =>
    change d.Reaches links l (.name n :: moves rest) t ↔ _
    have behindLink : ∀ fewer < links, ∀ target : Path,
        d.Reaches fewer l (target.steps ++ moves rest) t ↔
          d.Reaches fewer l (target.steps ++ rest) t := by
      intro fewer hfewer target
      by_cases nothing : rest = []
      · rw [nothing]
        rfl
      have all : ∀ behind : List Component, .root ∉ behind →
          ((target.steps ++ behind).getLast? = some .here → d.lookup t = some .directory) →
          (d.Reaches fewer l (moves (target.steps ++ behind)) t ↔
            d.Reaches fewer l (target.steps ++ behind) t) := by
        intro behind noRoot ends
        refine below fewer hfewer _ (fun h => ?_) ends
        rw [List.tail_append] at h
        split at h
        · exact noRoot (List.mem_of_mem_tail h)
        · exact (List.mem_append.mp h).elim target.root_not_mem_tail_steps noRoot
      rw [← all rest relative fun last => ?_, ← all (moves rest) ?_ fun last => ?_, moves_append,
        moves_append, moves_moves]
      · exact fun h => relative (mem_of_mem_moves h)
      · by_cases still : moves rest = []
        · exact ends (getLast?_cons_of_getLast? (getLast?_of_moves_eq_nil nothing still))
        · rw [List.getLast?_append_of_ne_nil _ still] at last
          exact absurd (List.mem_of_getLast? last) (here_not_mem_moves rest)
      · rw [List.getLast?_append_of_ne_nil _ nothing] at last
        exact ends (getLast?_cons_of_getLast? last)
    rw [reaches_name_iff, reaches_name_iff, ih (fun h => relative (List.mem_of_mem_tail h)) fun h =>
      ends (getLast?_cons_of_getLast? h)]
    refine or_congr Iff.rfl (exists_congr fun fewer => exists_congr fun target => ?_)
    refine and_congr_right fun same => and_congr_right fun _ => ?_
    exact behindLink fewer (same ▸ Nat.lt_succ_self fewer) target

end Disk

end Reclaim
