import Reclaim.Distinct
import Mathlib.Data.List.Induction
import Mathlib.Data.List.Nodup

/-!
# What is left of each kind

Of the items that count as the same the first is left (`exists_mem_distinctBy`), and no two that are left
count as the same (`pairwise_distinctBy`). So a test that does not tell such items apart may be made before
or after (`distinctBy_filter`).

Said by position, what is left are the items that no earlier one is like (`firsts`, `distinctBy_eq_firsts`).
Behind other items a list leaves what it leaves alone, but for what is like one of these
(`distinctBy_append`). All of this together is `KeepsFirst`.
-/

namespace Reclaim

variable {α κ : Type} [DecidableEq κ] {key : α → κ} {x y : α} {items : List α}

/-- What is left stands in the order of the list. -/
theorem distinctBy_sublist (key : α → κ) (items : List α) : (distinctBy key items).Sublist items := by
  induction items with
  | nil => exact .slnil
  | cons first rest ih => exact (List.filter_sublist.trans ih).cons_cons first

theorem mem_of_mem_distinctBy (h : x ∈ distinctBy key items) : x ∈ items :=
  (distinctBy_sublist key items).subset h

/-- **Each item has one like it** among those that are left. -/
theorem exists_mem_distinctBy (key : α → κ) (h : x ∈ items) : ∃ y ∈ distinctBy key items, key y = key x := by
  induction items with
  | nil => cases h
  | cons first rest ih =>
    by_cases same : key first = key x
    · exact ⟨first, List.mem_cons_self, same⟩
    · rcases List.mem_cons.mp h with rfl | h
      · exact absurd rfl same
      · obtain ⟨y, left, like⟩ := ih h
        refine ⟨y, List.mem_cons_of_mem _ (List.mem_filter.mpr ⟨left, ?_⟩), like⟩
        exact decide_eq_true fun first => same (first.symm.trans like)

/-- **No two that are left are alike.** -/
theorem pairwise_distinctBy (key : α → κ) (items : List α) :
    (distinctBy key items).Pairwise fun x y => key x ≠ key y := by
  induction items with
  | nil => exact .nil
  | cons first rest ih =>
    refine .cons (fun y left => ?_) (ih.filter _)
    exact Ne.symm (of_decide_eq_true (List.mem_filter.mp left).2)

/-- **A test that does not tell like items apart** may be made before or after, by induction. -/
theorem distinctBy_filter {keep : α → Bool}
    (like : ∀ x ∈ items, ∀ y ∈ items, key x = key y → keep x = keep y) :
    distinctBy key (items.filter keep) = (distinctBy key items).filter keep := by
  induction items with
  | nil => rfl
  | cons first rest ih =>
    have others := ih fun x hx y hy => like x (List.mem_cons_of_mem _ hx) y (List.mem_cons_of_mem _ hy)
    have commuted : ((distinctBy key rest).filter fun y => decide (key y ≠ key first)).filter keep =
        ((distinctBy key rest).filter keep).filter fun y => decide (key y ≠ key first) := by
      simp only [List.filter_filter, Bool.and_comm]
    cases kept : keep first with
    | true =>
      rw [List.filter_cons_of_pos kept, distinctBy, distinctBy, List.filter_cons_of_pos kept, others,
        commuted]
    | false =>
      -- What is like a dropped item is dropped with it.
      have dropped : ∀ y ∈ (distinctBy key rest).filter keep, decide (key y ≠ key first) = true := by
        intro y left
        obtain ⟨left, passes⟩ := List.mem_filter.mp left
        refine decide_eq_true fun same => ?_
        rw [like y (List.mem_cons_of_mem _ (mem_of_mem_distinctBy left)) first List.mem_cons_self same,
          kept] at passes
        cases passes
      rw [List.filter_cons_of_neg (Bool.eq_false_iff.mp kept), distinctBy,
        List.filter_cons_of_neg (Bool.eq_false_iff.mp kept), others, commuted,
        List.filter_eq_self.mpr dropped]

/-- Where no two items are alike, all are left. -/
theorem distinctBy_eq_self (apart : items.Pairwise fun x y => key x ≠ key y) :
    distinctBy key items = items := by
  induction apart with
  | nil => rfl
  | @cons first rest other _ ih =>
    rw [distinctBy, ih, List.filter_eq_self.mpr fun y hy => decide_eq_true (other y hy).symm]

/-- **Behind other items** a list leaves what it leaves alone, but for what is like one of them. -/
theorem distinctBy_append (key : α → κ) (xs ys : List α) :
    distinctBy key (xs ++ ys) =
      distinctBy key xs ++ (distinctBy key ys).filter fun y => ∀ x ∈ xs, key x ≠ key y := by
  induction xs with
  | nil =>
    have all : (distinctBy key ys).filter (fun y => ∀ x ∈ ([] : List α), key x ≠ key y) =
        distinctBy key ys := List.filter_eq_self.mpr fun y _ => decide_eq_true nofun
    rw [all]
    rfl
  | cons first rest ih =>
    rw [List.cons_append, distinctBy, distinctBy, ih, List.filter_append, List.filter_filter,
      List.cons_append]
    congr 2
    refine List.filter_congr fun y _ => ?_
    rw [← Bool.decide_and, decide_eq_decide, List.forall_mem_cons]
    exact and_congr_left' ne_comm

/-! ## By position -/

section

variable {ι : Type} (alike : α → α → Prop) [DecidableRel alike]

/-- **The items that no earlier one is like**, as they are written. -/
def firsts (items : List α) : List α :=
  (items.zipIdx.filter fun e : α × Nat => decide (∀ y ∈ items.take e.2, ¬ alike y e.1)).map Prod.fst

/-- One item more is a first one, or an earlier one is like it. -/
theorem firsts_concat (items : List α) (x : α) :
    firsts alike (items ++ [x]) =
      firsts alike items ++ if ∀ y ∈ items, ¬ alike y x then [x] else [] := by
  have before : (items.zipIdx.filter fun e : α × Nat => decide (∀ y ∈ (items ++ [x]).take e.2, ¬ alike y e.1)) =
      items.zipIdx.filter fun e : α × Nat => decide (∀ y ∈ items.take e.2, ¬ alike y e.1) := by
    refine List.filter_congr fun e listed => ?_
    have inside : e.2 < items.length := (List.mem_zipIdx' listed).1
    rw [List.take_append_of_le_length (Nat.le_of_lt inside)]
  have last : (items ++ [x]).take items.length = items := List.take_left
  rw [firsts, firsts, List.zipIdx_append, List.filter_append, List.map_append, before, Nat.zero_add,
    List.zipIdx_singleton, List.filter_cons, last]
  congr 1
  by_cases new : ∀ y ∈ items, ¬ alike y x
  · rw [if_pos (decide_eq_true new), if_pos new]
    rfl
  · rw [if_neg (mt of_decide_eq_true new), if_neg new]
    rfl

/-- **The first of each kind are kept** of the items that a list gives, in the order and the spelling of
the list. -/
structure KeepsFirst (given keep : List ι → List α) : Prop where
  /-- What is kept are the items that no earlier one is like. -/
  firsts : ∀ list, keep list = firsts alike (given list)
  sublist : ∀ list, (keep list).Sublist (given list)
  /-- No two that are kept are alike. -/
  apart : ∀ list, (keep list).Pairwise fun x y => ¬ alike x y
  /-- Each item is like exactly one that is kept. -/
  unique : ∀ list, ∀ x ∈ given list, ∃! y, y ∈ keep list ∧ alike x y
  /-- Of two lists, the second keeps what nothing in the first is like. -/
  append : ∀ xs ys, keep (xs ++ ys) = keep xs ++ (keep ys).filter fun y => ∀ x ∈ given xs, ¬ alike x y
  /-- What is kept is kept again. -/
  again : ∀ list kept, given kept = keep list → keep kept = keep list

variable {alike}

/-- **By position and by key** the same items are left, by induction from the end of the list. -/
theorem distinctBy_eq_firsts (like : ∀ x y, alike x y ↔ key x = key y) (items : List α) :
    distinctBy key items = firsts alike items := by
  induction items using List.reverseRecOn with
  | nil => rfl
  | append_singleton items x ih =>
    rw [distinctBy_append, firsts_concat, ih, distinctBy, distinctBy, List.filter_nil, List.filter_cons,
      List.filter_nil]
    simp only [decide_eq_true_eq, like, ne_eq]

/-- **The first item of each key** is the first of each kind, where items are alike when their keys are
equal. -/
theorem keepsFirst_distinctBy (like : ∀ x y, alike x y ↔ key x = key y) {given : List ι → List α}
    (joined : ∀ xs ys, given (xs ++ ys) = given xs ++ given ys) :
    KeepsFirst alike given fun list => distinctBy key (given list) where
  firsts list := distinctBy_eq_firsts like (given list)
  sublist list := distinctBy_sublist key (given list)
  apart list := (pairwise_distinctBy key (given list)).imp fun other => mt (like _ _).mp other
  unique list x listed := by
    obtain ⟨y, kept, same⟩ := exists_mem_distinctBy key listed
    refine ⟨y, ⟨kept, (like x y).mpr same.symm⟩, fun z ⟨keptToo, alike⟩ => ?_⟩
    have keys : ((distinctBy key (given list)).map key).Nodup :=
      List.pairwise_map.mpr (pairwise_distinctBy key (given list))
    exact List.inj_on_of_nodup_map keys keptToo kept (((like x z).mp alike).symm.trans same.symm)
  append xs ys := by
    rw [joined, distinctBy_append]
    simp only [like, ne_eq]
  again list kept same := by
    rw [same]
    exact distinctBy_eq_self (pairwise_distinctBy key (given list))

end

end Reclaim
