import Reclaim.Proofs.Disk.Loss

/-!
# A disk cut back

A **cut** is one node that is taken away, with the disk of that moment. A disk is **pruned** to another by
cuts in a row (`Disk.Pruned`): each takes a node that stands, is not the root, and holds no entry, from the
disk that the one before has left. So the disk at the end is the first one without the nodes of the cuts, and
has nothing else changed (`Disk.Pruned.lookup`).

**The law** (`Disk.pruned_replay`): what a log does to a disk is to prune it. Each cut is made by a deletion of
the log, in the order of the log, and the deletion strikes the node on the disk of that moment. This says
more than a loss (`Disk.loses_replay`), which knows the disk before the log alone: on that disk a directory
was full that is empty when it goes.
-/

namespace Reclaim

namespace Disk

/-- **A cut**: the disk of the moment, and the node that goes. -/
structure Cut where
  disk : Disk
  place : Location

/-- **A disk is pruned** to another by cuts, in order. -/
inductive Pruned : Disk → List Cut → Disk → Prop
  | nil (d : Disk) : Pruned d [] d
  | cons {d left : Disk} {n : List UInt8} {l : Location} {cuts : List Cut} :
      d.lookup (n :: l) ≠ none → d.names (n :: l) = [] → Pruned (d.delete (n :: l)) cuts left →
        Pruned d (⟨d, n :: l⟩ :: cuts) left

variable {d u left : Disk} {cwd k : Location} {p : Path} {cuts cuts' : List Cut}

theorem Pruned.append (h : d.Pruned cuts u) (h' : u.Pruned cuts' left) :
    d.Pruned (cuts ++ cuts') left := by
  induction h with
  | nil => exact h'
  | cons stands leaf _ ih => exact .cons stands leaf (ih h')

/-- **The disk at the end** is the first one without the nodes of the cuts, by induction on them. -/
theorem Pruned.lookup (h : d.Pruned cuts left) (k : Location) :
    left.lookup k = if k ∈ cuts.map Cut.place then none else d.lookup k := by
  induction h with
  | nil => rfl
  | @cons d left n l cuts stands leaf _ ih =>
    rw [ih, lookup_deleted leaf]
    by_cases here : k = n :: l
    · simp [here]
    · simp [here]

/-- What is cut stands, and holds no entry. -/
theorem Pruned.leaf (h : d.Pruned cuts left) :
    ∀ cut ∈ cuts, cut.disk.lookup cut.place ≠ none ∧ cut.disk.names cut.place = [] := by
  induction h with
  | nil => nofun
  | cons stands leaf _ ih => exact List.forall_mem_cons.mpr ⟨⟨stands, leaf⟩, ih⟩

/-! ## What a log does -/

/-- A deletion that does not go through leaves the disk as it was. -/
theorem deleted_cases (d : Disk) (answer : Except Failure Disk) :
    (d.deleted answer).2 = d ∨ answer = .ok (d.deleted answer).2 := by
  cases answer with
  | ok left => exact .inr rfl
  | error failure => cases failure <;> exact .inl rfl

/-- **One exchange** makes no cut, or is a deletion that makes one. -/
theorem cuts_takesPlace {e : Exchange} (h : e.TakesPlace (Disk.filesystem cwd) d left) :
    left = d ∨ ∃ call, e.removal? = some call ∧ ∃ n l, d.lookup (n :: l) ≠ none ∧
      d.names (n :: l) = [] ∧ left = d.delete (n :: l) ∧ d.Strikes cwd call (n :: l) := by
  cases e with
  | present path answer => exact .inl (Prod.mk.inj h).2.symm
  | children path answer => exact .inl (Prod.mk.inj h).2.symm
  | fileSize path answer => exact .inl (Prod.mk.inj h).2.symm
  | removeFile path answer =>
    obtain rfl : (d.deleted (d.unlink cwd path)).2 = left := congrArg Prod.snd h
    rcases deleted_cases d (d.unlink cwd path) with same | deleted
    · exact .inl same
    · exact .inr ⟨_, rfl, exists_struck_of_unlink deleted⟩
  | removeEmptyDirectory path answer =>
    obtain rfl : (d.deleted (d.removeDirectory cwd path)).2 = left := congrArg Prod.snd h
    rcases deleted_cases d (d.removeDirectory cwd path) with same | deleted
    · exact .inl same
    · exact .inr ⟨_, rfl, exists_struck_of_removeDirectory deleted⟩

/-- **A log prunes a disk**, by induction on its exchanges: each cut is made by a deletion of the log, with
which it is listed, and which strikes its node on the disk of the moment. -/
theorem pruned_replay {log : List Exchange} (h : Replay (Disk.filesystem cwd) d log left) :
    ∃ cuts : List ((CallKind × Path) × Cut), d.Pruned (cuts.map Prod.snd) left ∧
      (cuts.map Prod.fst).Sublist (log.filterMap Exchange.removal?) ∧
      ∀ c ∈ cuts, c.2.disk.Strikes cwd c.1 c.2.place := by
  induction h with
  | nil d => exact ⟨[], .nil d, List.Sublist.refl _, nofun⟩
  | @cons e log d u left first _ ih =>
    obtain ⟨cuts, pruned, calls, strikes⟩ := ih
    rcases cuts_takesPlace first with rfl | ⟨call, deletes, n, l, stands, leaf, rfl, struck⟩
    · refine ⟨cuts, pruned, calls.trans ?_, strikes⟩
      rw [List.filterMap_cons]
      split
      · exact List.Sublist.refl _
      · exact List.sublist_cons_self _ _
    · refine ⟨(call, ⟨d, n :: l⟩) :: cuts, .cons stands leaf pruned, ?_, ?_⟩
      · rw [List.filterMap_cons, deletes]
        exact calls.cons_cons call
      · exact List.forall_mem_cons.mpr ⟨struck, strikes⟩

end Disk

end Reclaim
