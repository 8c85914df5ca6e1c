import Reclaim.Proofs.Command.Arguments

/-!
# Arguments with some paths left out

The arguments of a run are read from left to right, and a path among them changes nothing for the others.
So the paths that pass some test can be asked for alone: the arguments without the rest are read, and they
give the same options with these paths, in the same order (`Options.exists_read_only`).

No reader but `addPath` looks at the paths. What it reads with fewer paths is what it reads with all of them,
less those that do not pass.
-/

namespace Reclaim

namespace Options

variable {o a : Options} {waiting : Option Setting} {r : Reading} {keep : Path → Bool}
  {argument : List UInt8} {arguments : List (List UInt8)}

/-- **The options with some paths only**: those that pass a test. -/
def only (keep : Path → Bool) (o : Options) : Options := { o with paths := o.paths.filter keep }

/-! ## One argument -/

theorem set_only (o : Options) (s : Setting) (value : List UInt8) :
    (o.only keep).set s value = (o.set s value).map (only keep) := by
  unfold set
  cases s with
  | root | config =>
    dsimp only [only]
    split
    · rfl
    · cases pathOf _ value <;> rfl
  | name =>
    dsimp only [only]
    split
    · rfl
    · cases textOf value <;> rfl

theorem raise_only (o : Options) (f : Flag) : (o.only keep).raise f = (o.raise f).map (only keep) := by
  unfold raise
  cases f <;> (dsimp only [only]; split <;> rfl)

theorem readLong_only (o : Options) (argument : List UInt8) :
    (o.only keep).readLong argument = (o.readLong argument).map fun r => (r.1.only keep, r.2) := by
  unfold readLong
  dsimp only
  split
  · rfl
  · rw [set_only]
    cases o.set _ _ <;> rfl
  · rfl
  · rw [raise_only]
    cases o.raise _ <;> rfl
  all_goals rfl

/-- **Short options**, by induction on the letters. -/
theorem readShort_only (o : Options) (letters : List UInt8) :
    (o.only keep).readShort letters = (o.readShort letters).map fun r => (r.1.only keep, r.2) := by
  induction letters generalizing o with
  | nil => rfl
  | cons letter rest ih =>
    unfold readShort
    split
    · rfl
    · rfl
    · rfl
    · rename_i f _
      rw [raise_only]
      cases o.raise f with
      | error ending => rfl
      | ok raised => exact ih raised
    · split
      · rfl
      · rw [set_only]
        cases o.set _ _ <;> rfl

/-- **A path is kept or left out.** -/
theorem addPath_only (keep : Path → Bool) (h : o.addPath argument = .ok a) :
    (o.only keep).addPath argument = .ok (a.only keep) ∨
      keep ⟨argument⟩ = false ∧ a.only keep = o.only keep := by
  obtain ⟨path, made, h⟩ := bind_eq_ok.mp h
  obtain rfl := Except.ok.inj h
  have text : path = ⟨argument⟩ := by
    unfold pathOf at made
    split at made
    · cases made
    · exact (Except.ok.inj made).symm
  unfold addPath only
  rw [made]
  dsimp only
  rw [List.filter_append, text]
  cases kept : keep ⟨argument⟩ with
  | true =>
    left
    rw [List.filter_cons_of_pos kept]
    rfl
  | false =>
    right
    rw [List.filter_cons_of_neg (Bool.eq_false_iff.mp kept), List.filter_nil, List.append_nil]
    exact ⟨rfl, rfl⟩

/-- **One argument** is read as with all paths, or left out. -/
theorem readOne_only (keep : Path → Bool) (h : o.readOne waiting argument = .ok r) :
    (o.only keep).readOne waiting argument = .ok (r.1.only keep, r.2) ∨
      keep ⟨argument⟩ = false ∧ waiting = none ∧ r.2 = none ∧
        r.1.only keep = o.only keep := by
  unfold readOne at h ⊢
  cases waiting with
  | some s =>
    left
    dsimp only at h ⊢
    split at h
    · rename_i value
      obtain ⟨a, made, h⟩ := bind_eq_ok.mp h
      obtain rfl := Except.ok.inj h
      rw [if_pos value, set_only, made]
      rfl
    · cases h
  | none =>
    dsimp only at h ⊢
    split at h
    · left
      rw [readLong_only, h]
      rfl
    · left
      rw [readShort_only, h]
      rfl
    all_goals
      obtain ⟨a, added, h⟩ := bind_eq_ok.mp h
      obtain rfl := Except.ok.inj h
      rcases addPath_only keep added with kept | ⟨dropped, same⟩
      · left
        rw [kept]
        rfl
      · exact .inr ⟨dropped, rfl, rfl, same⟩

/-! ## All of them -/

/-- What stands behind a `--` is read as paths, by induction. -/
theorem exists_addPaths_only (keep : Path → Bool) (h : arguments.foldlM addPath o = .ok a) :
    ∃ fewer : List (List UInt8), fewer.Sublist arguments ∧
      fewer.foldlM addPath (o.only keep) = .ok (a.only keep) := by
  induction arguments generalizing o with
  | nil =>
    obtain rfl := Except.ok.inj h
    exact ⟨[], .slnil, rfl⟩
  | cons argument rest ih =>
    rw [List.foldlM_cons] at h
    obtain ⟨b, added, h⟩ := bind_eq_ok.mp h
    obtain ⟨fewer, sublist, read⟩ := ih h
    rcases addPath_only keep added with kept | ⟨-, same⟩
    · refine ⟨argument :: fewer, sublist.cons_cons argument, ?_⟩
      rw [List.foldlM_cons, kept]
      exact read
    · exact ⟨fewer, sublist.cons argument, same ▸ read⟩

/-- **The arguments that are left**, by induction on all of them. -/
theorem exists_readFrom_only (some : a.paths.filter keep ≠ [])
    (h : readFrom o waiting arguments = .ok a) :
    ∃ fewer : List (List UInt8), fewer.Sublist arguments ∧
      readFrom (o.only keep) waiting fewer = .ok (a.only keep) := by
  have closes : (a.only keep).closed = .ok (a.only keep) := if_neg (mt List.isEmpty_iff.mp some)
  induction arguments generalizing o waiting with
  | nil =>
    cases waiting with
    | some s => cases h
    | none =>
      obtain ⟨rfl, -⟩ := closed_inEarnest h
      exact ⟨[], .slnil, closes⟩
  | cons argument rest ih =>
    by_cases separator : waiting = none ∧ argument = Text.encode "--"
    · obtain ⟨rfl, rfl⟩ := separator
      rw [readFrom_separator] at h
      obtain ⟨b, added, h⟩ := bind_eq_ok.mp h
      obtain ⟨rfl, -⟩ := closed_inEarnest h
      obtain ⟨fewer, sublist, read⟩ := exists_addPaths_only keep added
      refine ⟨_ :: fewer, sublist.cons_cons _, ?_⟩
      rw [readFrom_separator]
      exact bind_eq_ok.mpr ⟨_, read, closes⟩
    · have option : waiting = none → argument ≠ Text.encode "--" := fun none same => separator ⟨none, same⟩
      rw [readFrom_cons option] at h
      obtain ⟨r, read, h⟩ := bind_eq_ok.mp h
      obtain ⟨fewer, sublist, others⟩ := ih h
      rcases readOne_only keep read with kept | ⟨-, free, settled, same⟩
      · refine ⟨argument :: fewer, sublist.cons_cons argument, ?_⟩
        rw [readFrom_cons option, kept]
        exact others
      · refine ⟨fewer, sublist.cons argument, ?_⟩
        rw [settled, same] at others
        rw [free]
        exact others

/-- **Some of the paths can be asked for alone**: arguments with the others left out are read, and give the
same options with these paths. -/
theorem exists_read_only (some : a.paths.filter keep ≠ []) (h : read arguments = .ok a) :
    ∃ fewer : List (List UInt8), fewer.Sublist arguments ∧ read fewer = .ok (a.only keep) :=
  exists_readFrom_only some h

end Options

end Reclaim
