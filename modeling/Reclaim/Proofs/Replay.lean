import Reclaim.Filesystem.Recorded

/-!
# Logs that take place

A filesystem over states of any type answers a call from the state before it and leaves a state
behind. So it may answer what it likes, and differently each time: the files change between two
calls, listings make things up, deletions fail.

A log **takes place** between two states when each of its exchanges does, one after the other
(`Replay`). Nothing else happens in between: the state behind a log is the state that its calls
leave.

**What a recorded program says** (`Says`) is the part of the record that the program adds. It takes
place, from the state in which the program starts to the state in which it ends. One rule for each
way to build a program (`says_pure`, `says_bind`, one for each call) derives what a program says
from its text.

**The law** (`Replay.append_iff`): two logs in a row take place when there is a state between them.
So a run can be followed part by part.
-/

namespace Reclaim

variable {σ α β : Type} {fs : Filesystem (StateM σ)}

/-- A program goes on from where its first part ends. -/
theorem run_bind_of_run {x : StateM σ α} {g : α → StateM σ β} {s t : σ} {a : α}
    (h : x.run s = (a, t)) : (x >>= g).run s = (g a).run t := by
  rw [StateT.run_bind, h]
  rfl

/-- **An exchange takes place**: the call, made in the state before, answers as the exchange says
and leaves the state after. -/
def Exchange.TakesPlace (fs : Filesystem (StateM σ)) (before after : σ) : Exchange → Prop
  | .present path answer => (fs.present path).run before = (answer, after)
  | .children path answer => (fs.children path).run before = (answer, after)
  | .removeFile path answer => (fs.removeFile path).run before = (answer, after)
  | .removeEmptyDirectory path answer => (fs.removeEmptyDirectory path).run before = (answer, after)
  | .fileSize path answer => (fs.fileSize path).run before = (answer, after)

/-- **A log takes place**: its exchanges do, each in the state that the one before it left. -/
inductive Replay (fs : Filesystem (StateM σ)) : σ → List Exchange → σ → Prop
  | nil (s : σ) : Replay fs s [] s
  | cons {e : Exchange} {log : List Exchange} {s t u : σ} :
      e.TakesPlace fs s t → Replay fs t log u → Replay fs s (e :: log) u

namespace Replay

theorem cons_iff {e : Exchange} {log : List Exchange} {s u : σ} :
    Replay fs s (e :: log) u ↔ ∃ t, e.TakesPlace fs s t ∧ Replay fs t log u := by
  constructor
  · intro h
    cases h with
    | cons first rest => exact ⟨_, first, rest⟩
  · rintro ⟨t, first, rest⟩
    exact .cons first rest

theorem nil_iff {s t : σ} : Replay fs s [] t ↔ t = s := by
  constructor
  · intro h
    cases h with
    | nil => rfl
  · rintro rfl
    exact .nil _

theorem append_iff {first second : List Exchange} {s u : σ} :
    Replay fs s (first ++ second) u ↔ ∃ t, Replay fs s first t ∧ Replay fs t second u := by
  induction first generalizing s with
  | nil =>
    simp only [List.nil_append, nil_iff]
    exact ⟨fun h => ⟨s, rfl, h⟩, fun ⟨t, ht, h⟩ => ht ▸ h⟩
  | cons e first ih =>
    simp only [List.cons_append, cons_iff, ih]
    constructor
    · rintro ⟨t, he, u', hfirst, hsecond⟩
      exact ⟨u', ⟨t, he, hfirst⟩, hsecond⟩
    · rintro ⟨u', ⟨t, he, hfirst⟩, hsecond⟩
      exact ⟨t, he, u', hfirst, hsecond⟩

/-- **An exchange of a log takes place** between the part before it and the part behind it. -/
theorem of_mem {e : Exchange} {log : List Exchange} {s t : σ} (h : Replay fs s log t)
    (he : e ∈ log) : ∃ before later u v,
      Replay fs s before u ∧ e.TakesPlace fs u v ∧ Replay fs v later t := by
  obtain ⟨before, later, rfl⟩ := List.append_of_mem he
  obtain ⟨u, first, rest⟩ := append_iff.mp h
  obtain ⟨v, here, last⟩ := cons_iff.mp rest
  exact ⟨before, later, u, v, first, here, last⟩

end Replay

/-! ## What a recorded program says -/

namespace Record

/-- Two records, one after the other. -/
def andThen (r more : Record) : Record :=
  ⟨r.exchanges ++ more.exchanges, r.warnings ++ more.warnings⟩

@[simp] theorem andThen_nothing (r : Record) : r.andThen {} = r := by
  simp only [andThen, List.append_nil]

@[simp] theorem nothing_andThen (r : Record) : Record.andThen {} r = r := rfl

theorem andThen_assoc (a b c : Record) : (a.andThen b).andThen c = a.andThen (b.andThen c) := by
  simp only [andThen, List.append_assoc]

end Record

/-- **What a recorded program says**: from any record and any state, it adds to the record an
account whose exchanges take place, and `Q` holds of its result and that account. -/
def Says (fs : Filesystem (StateM σ)) (x : StateT Record (StateM σ) α)
    (Q : α → Record → Prop) : Prop :=
  ∀ r s, ∃ a account t, (x.run r).run s = ((a, r.andThen account), t) ∧
    Replay fs s account.exchanges t ∧ Q a account

theorem says_pure {a : α} {Q : α → Record → Prop} (h : Q a {}) : Says fs (pure a) Q :=
  fun r s => ⟨a, {}, s, by rw [r.andThen_nothing]; rfl, .nil s, h⟩

theorem says_bind {x : StateT Record (StateM σ) α} {f : α → StateT Record (StateM σ) β}
    {P : α → Record → Prop} {Q : β → Record → Prop} (hx : Says fs x P)
    (hf : ∀ a account, P a account → Says fs (f a) fun b more => Q b (account.andThen more)) :
    Says fs (x >>= f) Q := by
  intro r s
  obtain ⟨a, account, t, hrun, hplay, ha⟩ := hx r s
  obtain ⟨b, more, u, hrun', hplay', hb⟩ := hf a account ha (r.andThen account) t
  refine ⟨b, account.andThen more, u, ?_, Replay.append_iff.mpr ⟨t, hplay, hplay'⟩, hb⟩
  rw [← Record.andThen_assoc, ← hrun']
  change (((f ((x.run r).run s).1.1).run ((x.run r).run s).1.2).run ((x.run r).run s).2) = _
  rw [hrun]

theorem Says.mono {x : StateT Record (StateM σ) α} {P Q : α → Record → Prop} (hx : Says fs x P)
    (h : ∀ a account, P a account → Q a account) : Says fs x Q := by
  intro r s
  obtain ⟨a, account, t, hrun, hplay, ha⟩ := hx r s
  exact ⟨a, account, t, hrun, hplay, h a account ha⟩

/-- From nothing, the record is the account. -/
theorem Says.run {x : StateT Record (StateM σ) α} {Q : α → Record → Prop} (hx : Says fs x Q)
    (s : σ) : ∃ a account t, (x.run {}).run s = ((a, account), t) ∧
      Replay fs s account.exchanges t ∧ Q a account := by
  obtain ⟨a, account, t, hrun, hplay, ha⟩ := hx {} s
  rw [Record.nothing_andThen] at hrun
  exact ⟨a, account, t, hrun, hplay, ha⟩

/-- **A recorded call says its one exchange.** -/
theorem says_recording {call : Path → StateM σ α} {note : Path → α → Exchange} (path : Path)
    (h : ∀ s, (note path ((call path).run s).1).TakesPlace fs s ((call path).run s).2) :
    Says fs (recording call note path) fun a account => account = ⟨[note path a], []⟩ := by
  intro r s
  refine ⟨((call path).run s).1, ⟨[note path ((call path).run s).1], []⟩, ((call path).run s).2,
    ?_, .cons (h s) (.nil _), rfl⟩
  simp only [Record.andThen, List.append_nil]
  rfl

/-- A recorded warning says its text. -/
theorem says_warned (text : String) :
    Says fs (Reporter.recorded.warned text) fun _ account => account = ⟨[], [text]⟩ := by
  intro r s
  refine ⟨(), ⟨[], [text]⟩, s, ?_, .nil s, rfl⟩
  simp only [Record.andThen, List.append_nil]
  rfl

end Reclaim
