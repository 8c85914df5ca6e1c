/-!
# Capability probes

A **probe** is a yes/no question about the surroundings that is put at most once. The first answer
is kept, a no as well as a yes, and every later question gets it, whatever has changed in between.

A **panel** is any number of probes that put the same question. Each keeps an answer of its own, and
the panel counts how often the question was really put. What the question finds may change at any time;
requests come in any order.
-/

namespace Reclaim

/-- **A probe**: a name, and the answer once there is one. -/
structure Probe where
  name : String
  resolved : Option Bool := none
  deriving DecidableEq, Repr

namespace Probe

/-- The answer of a probe where `current` is what the question would find now, and the probe that
keeps it. -/
def ask (p : Probe) (current : Bool) : Bool × Probe :=
  match p.resolved with
  | some answer => (answer, p)
  | none => (current, { p with resolved := some current })

end Probe

/-- **A panel**: probes that share one question, what that question would find now, and how often it
was put. -/
structure Panel where
  probes : List Probe
  setting : Bool := false
  runs : Nat := 0
  deriving DecidableEq, Repr

namespace Panel

/-- A panel of fresh probes. -/
def ofNames (names : List String) : Panel := { probes := names.map fun n => { name := n } }

/-- Changes what the question finds. -/
def set (panel : Panel) (value : Bool) : Panel := { panel with setting := value }

/-- The name of a probe. -/
def name? (panel : Panel) (i : Nat) : Option String := panel.probes[i]?.map Probe.name

/-- Asks a probe. The question is put only if the probe has no answer yet. -/
def ask (panel : Panel) (i : Nat) : Option Bool × Panel :=
  match panel.probes[i]? with
  | none => (none, panel)
  | some p =>
    let (answer, kept) := p.ask panel.setting
    let put := if p.resolved.isNone then 1 else 0
    (some answer, { panel with probes := panel.probes.set i kept, runs := panel.runs + put })

/-- **What is put to a panel.** -/
inductive Request where
  /-- The question finds something from now on. -/
  | set (value : Bool)
  /-- What a probe is called. -/
  | name (i : Nat)
  /-- What a probe answers. -/
  | ask (i : Nat)
  deriving DecidableEq, Repr

/-- **What a panel replies.** A number that no probe has gets no name and no answer. -/
inductive Reply where
  | done
  | name (name : Option String)
  | answer (answer : Option Bool)
  deriving DecidableEq, Repr

/-- **One request**: the reply, and the panel behind it. -/
def handle (panel : Panel) : Request → Reply × Panel
  | .set value => (.done, panel.set value)
  | .name i => (.name (panel.name? i), panel)
  | .ask i =>
    let (answer, after) := panel.ask i
    (.answer answer, after)

/-- The panel behind several requests. -/
def behind (panel : Panel) (requests : List Request) : Panel :=
  requests.foldl (fun p r => (p.handle r).2) panel

end Panel

end Reclaim
