import Reclaim.Probe
import Mathlib.Data.Finset.Card
import Mathlib.Data.Finset.Range

/-!
# Probes resolve once

What a panel of fresh probes replies, in terms of the requests that came before. The setting **in force**
is the last one made, and a no before any is made (`Panel.inForce`).

**A probe** keeps what it found. Until it is asked it is as it was (`Panel.probes_behind`); once it has an
answer no request takes it away (`Panel.kept_behind`). So its answer is the setting that was in force when
it was asked first, a no as well as a yes.

**The question** is put once for each probe that was asked (`Panel.runs_behind`), by induction on the
requests from the last one.

**Independence.** Two panels are alike for a probe when they have the same setting and this probe in common
(`Panel.Alike`). Every request keeps that, and the probe answers alike on both. What is asked of another
probe, or a name, leads to a panel that is alike, so it could as well be left out.
-/

namespace Reclaim

namespace Probe

variable {p : Probe} {current answer : Bool}

theorem ask_of_resolved (h : p.resolved = some answer) : p.ask current = (answer, p) := by
  rw [ask, h]

theorem ask_of_fresh (h : p.resolved = none) :
    p.ask current = (current, { p with resolved := some current }) := by
  rw [ask, h]

theorem name_ask (p : Probe) (current : Bool) : (p.ask current).2.name = p.name := by
  unfold ask
  split <;> rfl

end Probe

namespace Panel

variable {panel other : Panel} {names : List String} {i : Nat} {p : Probe} {kept : Bool} {r : Request}
  {requests before : List Request}

/-! ## One request -/

/-- The setting that a request makes. -/
def Request.setting? : Request → Option Bool
  | .set value => some value
  | .name _ | .ask _ => none

theorem handle_ask_of_none (h : panel.probes[i]? = none) :
    panel.handle (.ask i) = (.answer none, panel) := by
  simp only [handle, ask, h]

theorem handle_ask_of_some (h : panel.probes[i]? = some p) :
    panel.handle (.ask i) =
      (.answer (some (p.ask panel.setting).1),
        { panel with
          probes := panel.probes.set i (p.ask panel.setting).2
          runs := panel.runs + if p.resolved.isNone then 1 else 0 }) := by
  simp only [handle, ask, h]

theorem setting_handle (panel : Panel) (r : Request) :
    (panel.handle r).2.setting = r.setting?.getD panel.setting := by
  cases r with
  | set value => rfl
  | name i => rfl
  | ask i =>
    cases h : panel.probes[i]? with
    | none => rw [handle_ask_of_none h]; rfl
    | some p => rw [handle_ask_of_some h]; rfl

/-- **A request changes no probe but the one it asks.** -/
theorem probes_handle (h : r ≠ .ask i) : (panel.handle r).2.probes[i]? = panel.probes[i]? := by
  cases r with
  | set value => rfl
  | name j => rfl
  | ask j =>
    cases found : panel.probes[j]? with
    | none => rw [handle_ask_of_none found]
    | some p =>
      rw [handle_ask_of_some found]
      exact List.getElem?_set_ne fun same => h (congrArg Request.ask same)

theorem probes_handle_ask (h : panel.probes[i]? = some p) :
    (panel.handle (.ask i)).2.probes[i]? = some (p.ask panel.setting).2 := by
  rw [handle_ask_of_some h]
  exact List.getElem?_set_self (List.getElem?_eq_some_iff.mp h).1

/-- The names stay. -/
theorem names_handle (panel : Panel) (r : Request) (i : Nat) :
    (panel.handle r).2.name? i = panel.name? i := by
  unfold name?
  by_cases asked : r = .ask i
  · subst asked
    cases h : panel.probes[i]? with
    | none => rw [handle_ask_of_none h, h]
    | some p =>
      rw [probes_handle_ask h]
      exact congrArg some (p.name_ask panel.setting)
  · rw [probes_handle asked]

/-- The question is put by the first request that asks a probe, and by no other. -/
theorem runs_handle (h : ∀ i p, r = .ask i → panel.probes[i]? = some p → p.resolved ≠ none) :
    (panel.handle r).2.runs = panel.runs := by
  cases r with
  | set value => rfl
  | name i => rfl
  | ask i =>
    cases found : panel.probes[i]? with
    | none => rw [handle_ask_of_none found]
    | some p =>
      rw [handle_ask_of_some found]
      have resolved := h i p rfl found
      simp [resolved]

/-! ## Several requests -/

theorem behind_cons (panel : Panel) (r : Request) (requests : List Request) :
    panel.behind (r :: requests) = (panel.handle r).2.behind requests := rfl

theorem behind_append (panel : Panel) (first second : List Request) :
    panel.behind (first ++ second) = (panel.behind first).behind second := List.foldl_append

theorem behind_concat (panel : Panel) (requests : List Request) (r : Request) :
    panel.behind (requests ++ [r]) = ((panel.behind requests).handle r).2 := behind_append ..

theorem setting_behind (panel : Panel) (requests : List Request) :
    (panel.behind requests).setting = (requests.filterMap Request.setting?).getLastD panel.setting := by
  induction requests generalizing panel with
  | nil => rfl
  | cons r requests ih =>
    rw [behind_cons, ih, setting_handle]
    cases r with
    | set value => exact List.getLastD_cons.symm
    | name i => rfl
    | ask i => rfl

theorem names_behind (panel : Panel) (requests : List Request) (i : Nat) :
    (panel.behind requests).name? i = panel.name? i := by
  induction requests generalizing panel with
  | nil => rfl
  | cons r requests ih => rw [behind_cons, ih, names_handle]

/-- **A probe that is not asked** is as it was. -/
theorem probes_behind (h : .ask i ∉ requests) : (panel.behind requests).probes[i]? = panel.probes[i]? := by
  induction requests generalizing panel with
  | nil => rfl
  | cons r requests ih =>
    obtain ⟨other, others⟩ := not_or.mp (mt List.mem_cons.mpr h)
    rw [behind_cons, ih others, probes_handle (Ne.symm other)]

/-- **An answer is kept**, whatever is requested. -/
theorem kept_behind (h : panel.probes[i]? = some p) (resolved : p.resolved = some kept) :
    (panel.behind requests).probes[i]? = some p := by
  induction requests generalizing panel with
  | nil => exact h
  | cons r requests ih =>
    rw [behind_cons]
    apply ih
    by_cases asked : r = .ask i
    · rw [asked, probes_handle_ask h, Probe.ask_of_resolved resolved]
    · rw [probes_handle asked, h]

/-! ## Fresh probes -/

/-- **The setting in force** behind requests: the last one made. -/
def inForce (requests : List Request) : Bool := (requests.filterMap Request.setting?).getLastD false

/-- **The reply of fresh probes** to a request that comes behind others. -/
def reply (names : List String) (earlier : List Request) (r : Request) : Reply :=
  (((ofNames names).behind earlier).handle r).1

/-- **The probes that were asked**, out of so many. -/
def asked (count : Nat) (requests : List Request) : Finset Nat :=
  (Finset.range count).filter fun i => .ask i ∈ requests

theorem setting_ofNames (names : List String) (requests : List Request) :
    ((ofNames names).behind requests).setting = inForce requests := setting_behind ..

theorem probes_ofNames (names : List String) (i : Nat) :
    (ofNames names).probes[i]? = names[i]?.map fun n => { name := n } := List.getElem?_map ..

/-- **A probe before it is asked** has no answer. -/
theorem probe_unasked (h : i < names.length) (unasked : .ask i ∉ before) :
    ((ofNames names).behind before).probes[i]? = some { name := names[i] } := by
  rw [probes_behind unasked, probes_ofNames, List.getElem?_eq_getElem h]
  rfl

/-- **A probe behind its first question** has the setting of that moment for its answer. -/
theorem probe_asked (h : i < names.length) (unasked : .ask i ∉ before) (between : List Request) :
    ((ofNames names).behind (before ++ .ask i :: between)).probes[i]? =
      some { name := names[i], resolved := some (inForce before) } := by
  have found := probe_unasked h unasked
  have resolved := probes_handle_ask found
  rw [setting_ofNames, Probe.ask_of_fresh rfl] at resolved
  rw [behind_append, behind_cons]
  exact kept_behind resolved rfl

/-- A probe without an answer was not asked. -/
theorem resolved_eq_none_iff (h : i < names.length)
    (found : ((ofNames names).behind requests).probes[i]? = some p) :
    p.resolved = none ↔ .ask i ∉ requests := by
  constructor
  · intro fresh mem
    obtain ⟨before, between, rfl, unasked⟩ := List.eq_append_cons_of_mem mem
    rw [probe_asked h unasked] at found
    rw [← Option.some.inj found] at fresh
    cases fresh
  · intro unasked
    rw [probe_unasked h unasked] at found
    rw [← Option.some.inj found]

/-- A probe that is found behind requests has one of the names. -/
theorem lt_of_found (found : ((ofNames names).behind requests).probes[i]? = some p) :
    i < names.length := by
  have named := names_behind (ofNames names) requests i
  rw [name?, found, name?, probes_ofNames] at named
  by_contra beyond
  rw [List.getElem?_eq_none (Nat.le_of_not_lt beyond)] at named
  cases named

theorem mem_asked {count : Nat} : i ∈ asked count requests ↔ i < count ∧ .ask i ∈ requests := by
  rw [asked, Finset.mem_filter, Finset.mem_range]

theorem asked_concat_ask {count : Nat} (h : i < count) :
    asked count (requests ++ [.ask i]) = insert i (asked count requests) := by
  ext j
  rw [Finset.mem_insert, mem_asked, mem_asked, List.mem_append, List.mem_singleton, Request.ask.injEq,
    and_or_left, or_comm]
  apply or_congr_left
  constructor
  · exact And.right
  · intro same
    exact ⟨same ▸ h, same⟩

/-- A request that asks no probe for the first time leaves the probes that were asked. -/
theorem asked_concat_again {count : Nat} (again : ∀ i < count, r = .ask i → .ask i ∈ requests) :
    asked count (requests ++ [r]) = asked count requests := by
  ext i
  rw [mem_asked, mem_asked, List.mem_append, List.mem_singleton]
  apply and_congr_right
  intro h
  constructor
  · intro mem
    exact mem.elim id fun same => again i h same.symm
  · exact .inl

/-- **The question is put once for each probe that was asked**, by induction from the last request: it adds
one to both where it asks a probe for the first time, and nothing elsewhere. -/
theorem runs_behind (names : List String) (requests : List Request) :
    ((ofNames names).behind requests).runs = (asked names.length requests).card := by
  induction requests using List.reverseRecOn with
  | nil => simp [behind, ofNames, asked]
  | append_singleton requests r ih =>
    rw [behind_concat]
    by_cases first : ∃ i < names.length, r = .ask i ∧ .ask i ∉ requests
    · obtain ⟨i, h, rfl, unasked⟩ := first
      have new : i ∉ asked names.length requests := fun mem => unasked (mem_asked.mp mem).2
      rw [handle_ask_of_some (probe_unasked h unasked), asked_concat_ask h,
        Finset.card_insert_of_notMem new, ← ih]
      rfl
    · have again : ∀ i < names.length, r = .ask i → .ask i ∈ requests := by
        intro i h same
        by_contra unasked
        exact first ⟨i, h, same, unasked⟩
      rw [asked_concat_again again, ← ih]
      apply runs_handle
      intro i p same found fresh
      have h := lt_of_found found
      exact (resolved_eq_none_iff h found).mp fresh (again i h same)

/-! ## Independence -/

/-- **Two panels are alike for a probe**: they have the setting and that probe in common. -/
structure Alike (i : Nat) (panel other : Panel) : Prop where
  setting : panel.setting = other.setting
  probe : panel.probes[i]? = other.probes[i]?

/-- **One request.** -/
theorem Alike.handle (h : Alike i panel other) (r : Request) :
    Alike i (panel.handle r).2 (other.handle r).2 := by
  refine ⟨by rw [setting_handle, setting_handle, h.setting], ?_⟩
  by_cases asked : r = .ask i
  · subst asked
    cases found : other.probes[i]? with
    | none =>
      rw [handle_ask_of_none found, handle_ask_of_none (h.probe.trans found)]
      exact h.probe
    | some p => rw [probes_handle_ask found, probes_handle_ask (h.probe.trans found), h.setting]
  · rw [probes_handle asked, probes_handle asked, h.probe]

/-- **Several requests**, by induction on them. -/
theorem Alike.behind (h : Alike i panel other) (requests : List Request) :
    Alike i (panel.behind requests) (other.behind requests) := by
  induction requests generalizing panel other with
  | nil => exact h
  | cons r requests ih => exact ih (h.handle r)

theorem Alike.answer (h : Alike i panel other) :
    (panel.handle (.ask i)).1 = (other.handle (.ask i)).1 := by
  cases found : other.probes[i]? with
  | none => rw [handle_ask_of_none found, handle_ask_of_none (h.probe.trans found)]
  | some p => rw [handle_ask_of_some found, handle_ask_of_some (h.probe.trans found), h.setting]

/-- A request that makes no setting and does not ask a probe leaves the panel alike for it. -/
theorem alike_handle (still : r.setting? = none) (other : r ≠ .ask i) :
    Alike i (panel.handle r).2 panel :=
  ⟨by rw [setting_handle, still]; rfl, probes_handle other⟩

end Panel

open Panel in
/-- **Probes resolve once, each for itself.** For any names and any requests, what a probe answers is the
setting that was in force when it was asked first; the question was put once for each probe that was asked;
and a request for the answer of another probe, or for a name, can be left out wherever it stands. -/
theorem probes_resolve_once (names : List String) :
    (∀ i before, i < names.length → .ask i ∉ before →
      reply names before (.ask i) = .answer (some (inForce before)) ∧
      ∀ between, reply names (before ++ .ask i :: between) (.ask i) = .answer (some (inForce before))) ∧
    (∀ requests, ((ofNames names).behind requests).runs = (asked names.length requests).card) ∧
    (∀ i earlier later j, j ≠ i →
      reply names (earlier ++ .ask j :: later) (.ask i) = reply names (earlier ++ later) (.ask i)) ∧
    (∀ i earlier later j,
      reply names (earlier ++ .name j :: later) (.ask i) = reply names (earlier ++ later) (.ask i)) ∧
    ∀ i earlier, reply names earlier (.name i) = .name names[i]? := by
  have left_out : ∀ {i r}, r.setting? = none → r ≠ .ask i → ∀ earlier later,
      reply names (earlier ++ r :: later) (.ask i) = reply names (earlier ++ later) (.ask i) := by
    intro i r still other earlier later
    have alike : Alike i (((ofNames names).behind earlier).handle r).2 ((ofNames names).behind earlier) :=
      alike_handle still other
    rw [reply, reply, behind_append, behind_append, behind_cons]
    exact (alike.behind later).answer
  refine ⟨fun i before h unasked => ⟨?_, fun between => ?_⟩, runs_behind names, ?_, ?_, ?_⟩
  · rw [reply, handle_ask_of_some (probe_unasked h unasked), Probe.ask_of_fresh rfl, setting_ofNames]
  · rw [reply, handle_ask_of_some (probe_asked h unasked between), Probe.ask_of_resolved rfl]
  · intro i earlier later j other
    exact left_out rfl (fun same => other (Request.ask.inj same)) earlier later
  · intro i earlier later j
    exact left_out rfl Request.noConfusion earlier later
  · intro i earlier
    show Reply.name _ = _
    rw [names_behind, name?, probes_ofNames, Option.map_map]
    exact congrArg Reply.name Option.map_id'

open Panel in
/-- A probe that found a no keeps it, while the setting changes and the other probe found a yes. -/
theorem probes_resolve_once_sample :
    let names := ["a", "b"]
    let before : List Request := [.set true, .ask 1, .set false]
    let between : List Request := [.name 0, .set true, .ask 1]
    0 < names.length ∧ Request.ask 0 ∉ before ∧ (1 : Nat) ≠ 0 ∧
      reply names (before ++ .ask 0 :: between) (.ask 0) = .answer (some false) ∧
      ((ofNames names).behind (before ++ .ask 0 :: between)).runs = 2 ∧
      reply names ([.set true] ++ .ask 1 :: [.set false]) (.ask 0) =
        reply names ([.set true] ++ [.set false]) (.ask 0) := by
  intro names before between
  have unasked : Request.ask 0 ∉ before := by decide
  obtain ⟨answers, runs, others, -⟩ := probes_resolve_once names
  refine ⟨by decide, unasked, by decide, (answers 0 before (by decide) unasked).2 between, ?_,
    others 0 _ _ 1 (by decide)⟩
  rw [runs]
  decide

end Reclaim
