/-!
# Keyed lists

A finite map as a list of pairs in which no key occurs twice. What it holds is its view `get?`; the
operations are described by what they do to the view (`get?_insert`, `get?_erase`), and `keys` are
the keys with something to get (`mem_keys`).
-/

namespace Reclaim

/-- **A keyed list.** -/
structure Keyed (κ ν : Type) where
  entries : List (κ × ν)
  distinct : (entries.map Prod.fst).Nodup

namespace Keyed

variable {κ ν : Type}

/-- The keyed list without entries. -/
def empty : Keyed κ ν := ⟨[], List.nodup_nil⟩

/-- The keys, in the order of the entries. -/
def keys (t : Keyed κ ν) : List κ := t.entries.map Prod.fst

theorem nodup_filter (t : Keyed κ ν) (keep : κ × ν → Bool) :
    ((t.entries.filter keep).map Prod.fst).Nodup :=
  t.distinct.sublist (List.filter_sublist.map _)

variable [DecidableEq κ]

/-- **The view**: what stands under a key. -/
def get? (t : Keyed κ ν) (k : κ) : Option ν :=
  (t.entries.find? fun e => e.1 = k).map Prod.snd

/-- Whether anything stands under a key. -/
def contains (t : Keyed κ ν) (k : κ) : Bool := (t.get? k).isSome

/-- The entries without the one under a key. -/
def erase (t : Keyed κ ν) (k : κ) : Keyed κ ν :=
  ⟨t.entries.filter fun e => e.1 ≠ k, t.nodup_filter _⟩

/-- The entries with a new one under a key, in place of any other there. -/
def insert (t : Keyed κ ν) (k : κ) (v : ν) : Keyed κ ν where
  entries := (k, v) :: (t.erase k).entries
  distinct := by
    refine List.nodup_cons.2 ⟨?_, (t.erase k).distinct⟩
    simp [erase]

/-- Several new entries, the later in place of the earlier. -/
def insertAll (t : Keyed κ ν) (new : List (κ × ν)) : Keyed κ ν :=
  new.foldl (fun kept e => kept.insert e.1 e.2) t

/-- The entries without those under several keys. -/
def eraseAll (t : Keyed κ ν) (keys : List κ) : Keyed κ ν := keys.foldl erase t

@[simp] theorem get?_empty (k : κ) : (empty : Keyed κ ν).get? k = none := rfl

@[simp] theorem get?_insert (t : Keyed κ ν) (k : κ) (v : ν) (j : κ) :
    (t.insert k v).get? j = if j = k then some v else t.get? j := by
  by_cases h : j = k
  · simp [get?, insert, h]
  · have hk : ¬k = j := fun e => h e.symm
    simp only [get?, insert, erase, List.find?_cons, List.find?_filter, hk, h, decide_false,
      if_false]
    congr 2
    funext e
    by_cases he : e.1 = j <;> simp [he, h]

@[simp] theorem get?_erase (t : Keyed κ ν) (k : κ) (j : κ) :
    (t.erase k).get? j = if j = k then none else t.get? j := by
  by_cases h : j = k
  · simp [get?, erase, h]
  · simp only [get?, erase, List.find?_filter, h, if_false]
    congr 2
    funext e
    by_cases he : e.1 = j <;> simp [he, h]

theorem get?_eraseAll (t : Keyed κ ν) (ks : List κ) (j : κ) :
    (t.eraseAll ks).get? j = if j ∈ ks then none else t.get? j := by
  induction ks generalizing t with
  | nil => rfl
  | cons k ks ih =>
    change ((t.erase k).eraseAll ks).get? j = _
    rw [ih, get?_erase]
    by_cases hj : j = k <;> by_cases hks : j ∈ ks <;> simp [hj, hks]

/-- The order in which keys are erased is of no account. -/
theorem erase_comm (t : Keyed κ ν) (j k : κ) : (t.erase j).erase k = (t.erase k).erase j := by
  simp only [erase, List.filter_filter, Bool.and_comm]

theorem eraseAll_erase (t : Keyed κ ν) (k : κ) (ks : List κ) :
    (t.erase k).eraseAll ks = (t.eraseAll ks).erase k := by
  induction ks generalizing t with
  | nil => rfl
  | cons j ks ih =>
    change ((t.erase k).erase j).eraseAll ks = ((t.erase j).eraseAll ks).erase k
    rw [erase_comm, ih]

theorem eraseAll_comm (t : Keyed κ ν) (js ks : List κ) :
    (t.eraseAll js).eraseAll ks = (t.eraseAll ks).eraseAll js := by
  induction js generalizing t with
  | nil => rfl
  | cons j js ih =>
    change ((t.erase j).eraseAll js).eraseAll ks = ((t.eraseAll ks).erase j).eraseAll js
    rw [ih, eraseAll_erase]

theorem get?_insertAll_of_not_mem (t : Keyed κ ν) (new : List (κ × ν)) (j : κ)
    (h : j ∉ new.map Prod.fst) : (t.insertAll new).get? j = t.get? j := by
  induction new generalizing t with
  | nil => rfl
  | cons e new ih =>
    obtain ⟨hne, hnew⟩ := not_or.mp (mt List.mem_cons.mpr h)
    change ((t.insert e.1 e.2).insertAll new).get? j = _
    rw [ih _ hnew, get?_insert, if_neg hne]

theorem mem_keys (t : Keyed κ ν) (k : κ) : k ∈ t.keys ↔ (t.get? k).isSome := by
  simp [keys, get?, List.find?_isSome]

/-- What is got is an entry. -/
theorem mem_of_get? {t : Keyed κ ν} {k : κ} {v : ν} (h : t.get? k = some v) :
    (k, v) ∈ t.entries := by
  obtain ⟨⟨k', v'⟩, found, rfl⟩ := Option.map_eq_some_iff.mp h
  obtain rfl : k' = k := by simpa using List.find?_some found
  exact List.mem_of_find?_eq_some found

/-- An entry is what is got under its key, since no other has that key. -/
theorem get?_of_mem {t : Keyed κ ν} {k : κ} {v : ν} (h : (k, v) ∈ t.entries) : t.get? k = some v := by
  obtain ⟨entries, distinct⟩ := t
  induction entries with
  | nil => cases h
  | cons e entries ih =>
    obtain ⟨fresh, rest⟩ := List.nodup_cons.mp distinct
    rcases List.mem_cons.mp h with rfl | later
    · simp [get?]
    · have other : e.1 ≠ k := fun same => fresh (same ▸ List.mem_map_of_mem later)
      simpa [get?, other] using ih rest later

end Keyed

end Reclaim
