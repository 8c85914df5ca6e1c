import Reclaim.Proofs.Disk.Walk

/-!
# The links on a way

A walk may follow links, and how many it may follow is limited. A **trail** is a walk without the limit,
with the locations of the links that it follows, in the order in which it meets them (`Disk.Trail`). It looks
names up as the walk does. So a walk ends where a trail with no more links than are allowed does
(`Disk.walkBy_eq_ok_iff_trail`), and a longer trail leads to a node that no call gets to.
-/

namespace Reclaim

namespace Disk

/-- **A trail**: by steps from a location to another, with the links that are followed, where names are looked
up in a given way. -/
inductive Trail (d : Disk) (look : Look) :
    Location → List Component → List Location → Location → Prop
  | done {l : Location} : Trail d look l [] [] l
  | root {l t : Location} {rest : List Component} {links : List Location} :
      Trail d look [] rest links t → Trail d look l (.root :: rest) links t
  | here {l t : Location} {rest : List Component} {links : List Location} :
      d.lookup l = some .directory → Trail d look l rest links t →
      Trail d look l (.here :: rest) links t
  | up {l t : Location} {rest : List Component} {links : List Location} :
      d.lookup l = some .directory → Trail d look l.tail rest links t →
      Trail d look l (.up :: rest) links t
  | name {l t : Location} {n : List UInt8} {e : Entry} {rest : List Component}
      {links : List Location} :
      look l n rest = .ok e → (∀ target, e ≠ .link target) → Trail d look (n :: l) rest links t →
      Trail d look l (.name n :: rest) links t
  | link {l t : Location} {n : List UInt8} {target : Path} {rest : List Component}
      {links : List Location} :
      look l n rest = .ok (.link target) → Trail d look l (target.steps ++ rest) links t →
      Trail d look l (.name n :: rest) ((n :: l) :: links) t

variable {d : Disk} {look : Look} {j l t : Location} {steps : List Component} {links : List Location}
  {limit : Nat}

/-- **What is followed is a link**, if what is seen is what stands. -/
theorem Trail.lookup_of_mem (sees : ∀ l n rest e, look l n rest = .ok e → d.lookup (n :: l) = some e)
    (h : d.Trail look l steps links t) (followed : j ∈ links) :
    ∃ target, d.lookup j = some (.link target) := by
  induction h with
  | done => cases followed
  | root _ ih => exact ih followed
  | here _ _ ih => exact ih followed
  | up _ _ ih => exact ih followed
  | name _ _ _ ih => exact ih followed
  | link seen _ ih =>
    rcases List.mem_cons.mp followed with rfl | later
    · exact ⟨_, sees _ _ _ _ seen⟩
    · exact ih later

/-- **A trail is walked** where as many links may be followed. -/
theorem Trail.walkBy (h : d.Trail look l steps links t) (few : links.length ≤ limit) :
    d.walkBy look limit l steps = .ok t := by
  induction h generalizing limit with
  | done => exact walkBy_nil_eq_ok.mpr rfl
  | root _ ih => exact (walkBy_root ..).trans (ih few)
  | here directory _ ih => exact walkBy_here_eq_ok.mpr ⟨directory, ih few⟩
  | up directory _ ih => exact walkBy_up_eq_ok.mpr ⟨directory, ih few⟩
  | name seen firm _ ih => exact walkBy_name_eq_ok.mpr ⟨_, seen, .inl ⟨firm, ih few⟩⟩
  | link seen _ ih =>
    cases limit with
    | zero => cases few
    | succ limit =>
      exact walkBy_name_eq_ok.mpr ⟨_, seen, .inr ⟨limit, _, rfl, rfl, ih (Nat.le_of_succ_le_succ few)⟩⟩

/-- **A walk leaves a trail**, with no more links than it may follow. -/
theorem exists_trail (h : d.walkBy look limit l steps = .ok t) :
    ∃ links, d.Trail look l steps links t ∧ links.length ≤ limit := by
  induction limit, steps using stepsInduction generalizing l with
  | nil limit =>
    obtain rfl := walkBy_nil_eq_ok.mp h
    exact ⟨[], .done, Nat.zero_le _⟩
  | root limit rest ih =>
    rw [walkBy_root] at h
    obtain ⟨links, trail, few⟩ := ih h
    exact ⟨links, .root trail, few⟩
  | here limit rest ih =>
    obtain ⟨directory, h⟩ := walkBy_here_eq_ok.mp h
    obtain ⟨links, trail, few⟩ := ih h
    exact ⟨links, .here directory trail, few⟩
  | up limit rest ih =>
    obtain ⟨directory, h⟩ := walkBy_up_eq_ok.mp h
    obtain ⟨links, trail, few⟩ := ih h
    exact ⟨links, .up directory trail, few⟩
  | name limit n rest ih below =>
    obtain ⟨e, seen, ⟨firm, h⟩ | ⟨fewer, target, rfl, rfl, h⟩⟩ := walkBy_name_eq_ok.mp h
    · obtain ⟨links, trail, few⟩ := ih h
      exact ⟨links, .name seen firm trail, few⟩
    · obtain ⟨links, trail, few⟩ := below fewer (Nat.lt_succ_self _) _ h
      exact ⟨(n :: l) :: links, .link seen trail, Nat.succ_le_succ few⟩

/-- **A walk is a trail with few links.** -/
theorem walkBy_eq_ok_iff_trail : d.walkBy look limit l steps = .ok t ↔
    ∃ links, d.Trail look l steps links t ∧ links.length ≤ limit :=
  ⟨exists_trail, fun ⟨_, trail, few⟩ => trail.walkBy few⟩

end Disk

end Reclaim
