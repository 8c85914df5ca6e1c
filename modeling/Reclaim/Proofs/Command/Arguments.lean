import Reclaim.Command.Options
import Reclaim.Proofs.Disk.Walk

/-!
# The flag of a dry run among the arguments

The flag may stand anywhere before a `--`. Behind that it is a path like any other. **The law**
(`Options.read_dryRun`): arguments that hold it and are accepted ask for a dry run, and without it they
are accepted too and ask for the same **in earnest**.

No reader looks at the flag but to refuse it a second time. So what is accepted with the flag raised is
accepted without it, reader by reader, and the flag stays as it was.
-/

namespace Reclaim

namespace Options

variable {o a : Options} {waiting : Option Setting} {r : Reading} {f : Flag} {s : Setting}
  {value argument letters : List UInt8} {arguments : List (List UInt8)}

/-- **The options in earnest**: no dry run. -/
def inEarnest (o : Options) : Options := { o with dryRun := false }

/-! ## One argument -/

theorem addPath_inEarnest (h : o.addPath value = .ok a) :
    a.dryRun = o.dryRun ∧ o.inEarnest.addPath value = .ok a.inEarnest := by
  obtain ⟨path, made, h⟩ := bind_eq_ok.mp h
  obtain rfl := Except.ok.inj h
  refine ⟨rfl, ?_⟩
  rw [addPath, made]
  rfl

theorem set_inEarnest (h : o.set s value = .ok a) :
    a.dryRun = o.dryRun ∧ o.inEarnest.set s value = .ok a.inEarnest := by
  unfold set at h ⊢
  cases s
  all_goals
    dsimp only [inEarnest] at h ⊢
    split at h
    · cases h
    · rename_i free
      obtain ⟨given, made, h⟩ := bind_eq_ok.mp h
      obtain rfl := Except.ok.inj h
      rw [if_neg free, made]
      exact ⟨rfl, rfl⟩

/-- The flag is not raised twice. -/
theorem raise_inEarnest (dry : o.dryRun = true) (h : o.raise f = .ok a) :
    a.dryRun = true ∧ o.inEarnest.raise f = .ok a.inEarnest := by
  unfold raise at h ⊢
  cases f with
  | dryRun =>
    dsimp only at h
    rw [if_pos dry] at h
    cases h
  | verbose =>
    dsimp only [inEarnest] at h ⊢
    split at h
    · cases h
    · rename_i free
      obtain rfl := Except.ok.inj h
      rw [if_neg free]
      exact ⟨dry, rfl⟩

/-- A value that was waited for is set. -/
theorem settle_inEarnest (dry : o.dryRun = true)
    (h : (do return (← o.set s value, none) : Except Ending Reading) = .ok r) :
    r.1.dryRun = true ∧
      (do return (← o.inEarnest.set s value, none) : Except Ending Reading) = .ok (r.1.inEarnest, r.2) := by
  obtain ⟨a, made, h⟩ := bind_eq_ok.mp h
  obtain rfl := Except.ok.inj h
  obtain ⟨same, made'⟩ := set_inEarnest made
  rw [made']
  exact ⟨same.trans dry, rfl⟩

theorem readLong_inEarnest (dry : o.dryRun = true) (h : o.readLong argument = .ok r) :
    r.1.dryRun = true ∧ o.inEarnest.readLong argument = .ok (r.1.inEarnest, r.2) := by
  unfold readLong at h ⊢
  dsimp only at h ⊢
  split at h
  · cases h
  · exact settle_inEarnest dry h
  · obtain rfl := Except.ok.inj h
    exact ⟨dry, rfl⟩
  · obtain ⟨a, raised, h⟩ := bind_eq_ok.mp h
    obtain rfl := Except.ok.inj h
    obtain ⟨still, raised'⟩ := raise_inEarnest dry raised
    rw [raised']
    exact ⟨still, rfl⟩
  all_goals cases h

/-- **Short options**, by induction on the letters. -/
theorem readShort_inEarnest (dry : o.dryRun = true) (h : o.readShort letters = .ok r) :
    r.1.dryRun = true ∧ o.inEarnest.readShort letters = .ok (r.1.inEarnest, r.2) := by
  induction letters generalizing o with
  | nil =>
    obtain rfl := Except.ok.inj h
    exact ⟨dry, rfl⟩
  | cons letter rest ih =>
    unfold readShort at h ⊢
    split at h
    · cases h
    · cases h
    · cases h
    · obtain ⟨a, raised, h⟩ := bind_eq_ok.mp h
      obtain ⟨still, raised'⟩ := raise_inEarnest dry raised
      rw [raised']
      exact ih still h
    · split at h
      · obtain rfl := Except.ok.inj h
        exact ⟨dry, rfl⟩
      · exact settle_inEarnest dry h

theorem shape_separator : shape (Text.encode "--") = .separator := by decide

/-- **Only two hyphens alone** are a separator. -/
theorem eq_of_shape_separator (h : shape argument = .separator) : argument = Text.encode "--" := by
  have behind : ∀ {bytes rest : List UInt8}, afterHyphen? bytes = some rest → bytes = hyphen :: rest := by
    intro bytes rest h
    cases bytes with
    | nil => cases h
    | cons b bytes =>
      rw [afterHyphen?] at h
      by_cases same : b = hyphen
      · rw [if_pos same] at h
        rw [same, Option.some.inj h]
      · rw [if_neg same] at h
        cases h
  unfold shape at h
  split at h
  · cases h
  · rename_i rest first
    split at h
    · split at h <;> cases h
    · rename_i long second
      split at h
      · rename_i none
        rw [behind first, behind second, List.isEmpty_iff.mp none]
        rfl
      · cases h

/-- **One argument** is read, other than a `--` in the place of an option. -/
def readOne (o : Options) : Option Setting → List UInt8 → Except Ending Reading
  | some s, argument =>
    if shape argument = .plain then do return (← o.set s argument, none)
    else .error (.misuse (.missingValue s.text))
  | none, argument =>
    match shape argument with
    | .long long => o.readLong long
    | .short letters => o.readShort letters
    | .separator | .plain => do return (← o.addPath argument, none)

theorem readOne_inEarnest (dry : o.dryRun = true) (h : o.readOne waiting argument = .ok r) :
    r.1.dryRun = true ∧ o.inEarnest.readOne waiting argument = .ok (r.1.inEarnest, r.2) := by
  cases waiting with
  | none =>
    unfold readOne at h ⊢
    dsimp only at h ⊢
    split at h
    · exact readLong_inEarnest dry h
    · exact readShort_inEarnest dry h
    all_goals
      obtain ⟨a, added, h⟩ := bind_eq_ok.mp h
      obtain rfl := Except.ok.inj h
      obtain ⟨same, added'⟩ := addPath_inEarnest added
      rw [added']
      exact ⟨same.trans dry, rfl⟩
  | some s =>
    unfold readOne at h ⊢
    dsimp only at h ⊢
    split at h
    · rename_i value
      rw [if_pos value]
      exact settle_inEarnest dry h
    · cases h

/-! ## All of them -/

/-- Arguments are read one by one. -/
theorem readFrom_cons (option : waiting = none → argument ≠ Text.encode "--") (rest : List (List UInt8)) :
    readFrom o waiting (argument :: rest) =
      o.readOne waiting argument >>= fun r => readFrom r.1 r.2 rest := by
  cases waiting with
  | some s =>
    rw [readFrom, readOne]
    split
    · cases o.set s argument <;> rfl
    · rfl
  | none =>
    rw [readFrom, readOne]
    cases look : shape argument with
    | separator => exact absurd (eq_of_shape_separator look) (option rfl)
    | long long => rfl
    | short letters => rfl
    | plain => cases o.addPath argument <;> rfl

/-- Behind a `--` there are only paths. -/
theorem readFrom_separator (o : Options) (rest : List (List UInt8)) :
    readFrom o none (Text.encode "--" :: rest) = rest.foldlM addPath o >>= closed := by
  rw [readFrom, shape_separator]

theorem closed_inEarnest (h : o.closed = .ok a) : a = o ∧ o.inEarnest.closed = .ok a.inEarnest := by
  unfold closed at h
  split at h
  · cases h
  · rename_i filled
    obtain rfl := Except.ok.inj h
    exact ⟨rfl, if_neg filled⟩

/-- What stands behind a `--` is read as paths, by induction. -/
theorem addPaths_inEarnest (dry : o.dryRun = true) (h : arguments.foldlM addPath o = .ok a) :
    a.dryRun = true ∧ arguments.foldlM addPath o.inEarnest = .ok a.inEarnest := by
  induction arguments generalizing o with
  | nil =>
    obtain rfl := Except.ok.inj h
    exact ⟨dry, rfl⟩
  | cons argument rest ih =>
    rw [List.foldlM_cons] at h ⊢
    obtain ⟨b, added, h⟩ := bind_eq_ok.mp h
    obtain ⟨same, added'⟩ := addPath_inEarnest added
    rw [added']
    exact ih (same.trans dry) h

/-- **What is read with the flag raised is read without it**, by induction on the arguments. -/
theorem readFrom_inEarnest (dry : o.dryRun = true) (h : readFrom o waiting arguments = .ok a) :
    a.dryRun = true ∧ readFrom o.inEarnest waiting arguments = .ok a.inEarnest := by
  induction arguments generalizing o waiting with
  | nil =>
    cases waiting with
    | none =>
      obtain ⟨rfl, closed⟩ := closed_inEarnest h
      exact ⟨dry, closed⟩
    | some s => cases h
  | cons argument rest ih =>
    by_cases separator : waiting = none ∧ argument = Text.encode "--"
    · obtain ⟨rfl, rfl⟩ := separator
      rw [readFrom_separator] at h ⊢
      obtain ⟨b, added, h⟩ := bind_eq_ok.mp h
      obtain ⟨still, added'⟩ := addPaths_inEarnest dry added
      obtain ⟨rfl, closed⟩ := closed_inEarnest h
      exact ⟨still, bind_eq_ok.mpr ⟨_, added', closed⟩⟩
    · rw [readFrom_cons fun none same => separator ⟨none, same⟩] at h ⊢
      obtain ⟨r, read, h⟩ := bind_eq_ok.mp h
      obtain ⟨still, read'⟩ := readOne_inEarnest dry read
      rw [read']
      exact ih still h

/-- **The flag before a `--`** is read where it stands, by induction on the arguments in front of it. No
option takes it for its value. -/
theorem readFrom_dryRun {before after : List (List UInt8)} (option : Text.encode "--" ∉ before)
    (h : readFrom o waiting (before ++ Text.encode "--dry-run" :: after) = .ok a) :
    a.dryRun = true ∧ readFrom o waiting (before ++ after) = .ok a.inEarnest := by
  induction before generalizing o waiting with
  | nil =>
    cases waiting with
    | some s =>
      rw [List.nil_append, readFrom, if_neg (by decide)] at h
      cases h
    | none =>
      obtain ⟨r, read, h⟩ := bind_eq_ok.mp h
      obtain ⟨b, raised, read⟩ := bind_eq_ok.mp read
      obtain rfl := Except.ok.inj read
      unfold raise at raised
      dsimp only at raised
      split at raised
      · cases raised
      · rename_i lowered
        obtain rfl := Except.ok.inj raised
        have same : inEarnest { o with dryRun := true } = o := by
          rw [inEarnest, ← Bool.eq_false_iff.mpr lowered]
        have rest := readFrom_inEarnest rfl h
        rw [same] at rest
        exact rest
  | cons argument before ih =>
    rw [List.mem_cons, not_or] at option
    obtain ⟨other, option⟩ := option
    rw [List.cons_append, readFrom_cons fun _ => Ne.symm other] at h ⊢
    obtain ⟨r, read, h⟩ := bind_eq_ok.mp h
    rw [read]
    exact ih option h

/-- **The flag asks for a dry run**, and without it the arguments ask for the same in earnest. -/
theorem read_dryRun {before after : List (List UInt8)} (option : Text.encode "--" ∉ before)
    (h : read (before ++ Text.encode "--dry-run" :: after) = .ok a) :
    a.dryRun = true ∧ read (before ++ after) = .ok a.inEarnest :=
  readFrom_dryRun option h

end Options

end Reclaim
