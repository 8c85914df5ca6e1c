import Reclaim.Command.Run
import Reclaim.Proofs.Reclamation.InStep

/-!
# Hosts in step

The command is written over any host, so it cannot tell one from another but by what the calls answer.
Where two hosts are **in step**, so is all that the command does on them: what it looks up
(`InStep.footprintOf`, `InStep.rulesSource`), and whole runs (`InStep.run`).

A host **records** (`Host.recorded`) when the calls on its filesystem are recorded; what is looked up and
what is said are not. So the record of a run holds what it asks of the files, and

* the record is only a record (`run_recorded`): the same run without it ends with the same code on the same
  host;
* looking things up leaves the record as it is (`look_lookups`).
-/

namespace Reclaim

section

variable {m n : Type → Type} [Monad m] [Monad n]

/-- **A host that records** the calls on its filesystem. -/
def Host.recorded (host : Host m) : Host (StateT Record m) where
  toFilesystem := host.toFilesystem.recorded
  workingDirectory := StateT.lift host.workingDirectory
  canonical p := StateT.lift (host.canonical p)
  contents p := StateT.lift (host.contents p)
  say text := StateT.lift (host.say text)
  complain text := StateT.lift (host.complain text)

namespace InStep

/-- **Programs that may fail**, in step: the answers and the failures are those of programs in step. -/
def except (R : InStep m n) (ε : Type) : InStep (ExceptT ε m) (ExceptT ε n) where
  Rel x y := R.Rel x.run y.run
  rel_pure a := R.rel_pure (Except.ok a)
  rel_bind hx hf := R.rel_bind hx fun made => by
    cases made with
    | ok a => exact hf a
    | error e => exact R.rel_pure _

variable {R : InStep m n} {host : Host m} {host' : Host n}

/-- Two hosts are in step in what is **looked up** on them, and in what is logged. -/
structure Lookups (R : InStep m n) (host : Host m) (host' : Host n) : Prop where
  workingDirectory : R.Rel host.workingDirectory host'.workingDirectory
  canonical : ∀ p, R.Rel (host.canonical p) (host'.canonical p)
  contents : ∀ p, R.Rel (host.contents p) (host'.contents p)
  complain : ∀ text, R.Rel (host.complain text) (host'.complain text)

/-- **Two hosts in step.** -/
structure Hosts (R : InStep m n) (host : Host m) (host' : Host n) : Prop extends
    R.Lookups host host', R.Calls host.toFilesystem host'.toFilesystem where
  say : ∀ text, R.Rel (host.say text) (host'.say text)

theorem log (looks : R.Lookups host host') (filter : Log.Filter) (colored : Bool) (event : Log.Event) :
    R.Rel (host.log filter colored event) (host'.log filter colored event) := by
  unfold Host.log
  split
  · exact looks.complain _
  · exact R.rel_pure _

theorem reports (looks : R.Lookups host host') (filter : Log.Filter) (colored : Bool) :
    R.Reports (host.reporter filter colored) (host'.reporter filter colored) :=
  ⟨fun _ _ => log looks filter colored _, fun _ => log looks filter colored _⟩

theorem rulesSource (looks : R.Lookups host host') (config : Option Path) :
    R.Rel (rulesSource host config) (rulesSource host' config) := by
  cases config with
  | none => exact R.rel_pure _
  | some file => exact R.rel_bind (looks.contents file) fun _ => R.rel_pure _

theorem footprintOr (argument : Path) (made : Except FootprintError Footprint) :
    (R.except Report).Rel (footprintOr argument made : ExceptT Report m Footprint)
      (footprintOr argument made : ExceptT Report n Footprint) := by
  cases made with
  | ok f => exact R.rel_pure _
  | error e => exact R.rel_pure _

section

variable [LawfulMonad m] [LawfulMonad n] {α : Type}

/-- A call that cannot fail. -/
theorem rel_lift {x : m α} {y : n α} (h : R.Rel x y) :
    (R.except Report).Rel (liftM x : ExceptT Report m α) (liftM y : ExceptT Report n α) := by
  change R.Rel (Except.ok <$> x) (Except.ok <$> y)
  rw [map_eq_pure_bind, map_eq_pure_bind]
  exact R.rel_bind h fun _ => R.rel_pure _

theorem absoluteByText (looks : R.Lookups host host') (p : Path) :
    (R.except Report).Rel (absoluteByText host p) (absoluteByText host' p) := by
  unfold Reclaim.absoluteByText
  split
  · exact R.rel_pure _
  · refine (R.except Report).rel_bind (rel_lift looks.workingDirectory) fun made => ?_
    cases made with
    | ok cwd => exact R.rel_pure _
    | error reason => exact R.rel_pure _

theorem absolutePath (looks : R.Lookups host host') (p : Path) :
    (R.except Report).Rel (absolutePath host p) (absolutePath host' p) := by
  unfold Reclaim.absolutePath
  split
  · exact absoluteByText looks p
  · refine (R.except Report).rel_bind (rel_lift (looks.canonical _)) fun found => ?_
    cases found with
    | some directory => exact R.rel_pure _
    | none => exact absoluteByText looks p

/-- **Footprints of arguments are found in step.** -/
theorem footprintOf (looks : R.Lookups host host') (options : Options) (p : Path) :
    (R.except Report).Rel (footprintOf host options p) (footprintOf host' options p) := by
  unfold Reclaim.footprintOf
  refine (R.except Report).rel_bind (absolutePath looks p) fun given => ?_
  refine (R.except Report).rel_bind (footprintOr p _) fun asGiven => ?_
  have rest : ∀ root, (R.except Report).Rel
      (do
        let primary := (← host.canonical given).getD given
        Reclaim.footprintOr p (Footprint.ofParts primary root (options.name.getD asGiven.name)))
      (do
        let primary := (← host'.canonical given).getD given
        Reclaim.footprintOr p (Footprint.ofParts primary root (options.name.getD asGiven.name))) :=
    fun root => (R.except Report).rel_bind (rel_lift (looks.canonical given)) fun _ => footprintOr p _
  cases options.root with
  | none => exact (R.except Report).rel_bind ((R.except Report).rel_pure _) rest
  | some root => exact (R.except Report).rel_bind (absolutePath looks root) rest

/-! ## Whole runs -/

theorem handleArgument (hosts : R.Hosts host host') (filter : Log.Filter) (colored : Bool)
    (options : Options) (suffixes : Suffixes) (p : Path) :
    R.Rel (handleArgument host (host.reporter filter colored) options suffixes p)
      (handleArgument host' (host'.reporter filter colored) options suffixes p) := by
  refine R.rel_bind (footprintOf hosts.toLookups options p) fun made => ?_
  cases made with
  | error report => exact R.rel_bind (hosts.complain _) fun _ => R.rel_pure _
  | ok f =>
    dsimp only
    split
    · refine R.rel_bind (R.rel_bind (plan hosts.toCalls suffixes f) fun _ => hosts.say _) fun _ => ?_
      exact R.rel_pure _
    · refine R.rel_bind (reclaim hosts.toCalls (reports hosts.toLookups filter colored) suffixes f)
        fun o => ?_
      exact R.rel_bind (hosts.say _) fun _ => R.rel_pure _

/-- All arguments, by induction. -/
theorem handleArguments (hosts : R.Hosts host host') (filter : Log.Filter) (colored : Bool)
    (options : Options) (suffixes : Suffixes) (paths : List Path) :
    R.Rel (handleArguments host (host.reporter filter colored) options suffixes paths)
      (handleArguments host' (host'.reporter filter colored) options suffixes paths) := by
  induction paths with
  | nil => exact R.rel_pure _
  | cons p rest ih =>
    refine R.rel_bind (handleArgument hosts filter colored options suffixes p) fun _ => ?_
    exact R.rel_bind ih fun _ => R.rel_pure _

theorem reclaimAll (hosts : R.Hosts host host') (filter : Log.Filter) (colored : Bool) (options : Options) :
    R.Rel (reclaimAll host (host.reporter filter colored) options)
      (reclaimAll host' (host'.reporter filter colored) options) := by
  unfold Reclaim.reclaimAll
  dsimp only
  split
  · exact R.rel_pure _
  · refine R.rel_bind (rulesSource hosts.toLookups options.config) fun source => ?_
    cases Suffixes.load source with
    | error e => exact R.rel_pure _
    | ok suffixes =>
      refine R.rel_bind (handleArguments hosts filter colored options suffixes _) fun _ => ?_
      exact R.rel_bind (hosts.say _) fun _ => R.rel_pure _

/-- **Runs of the command are in step** where the hosts are. -/
theorem run (hosts : R.Hosts host host') (around : Surroundings) (arguments : List (List UInt8)) :
    R.Rel (run host around arguments) (run host' around arguments) := by
  unfold Reclaim.run
  split
  · refine R.rel_bind (log hosts.toLookups _ _ _) fun _ => ?_
    refine R.rel_bind (reclaimAll hosts _ _ _) fun ended => ?_
    cases ended with
    | ok allDeleted => exact R.rel_pure _
    | error report => exact R.rel_bind (hosts.complain _) fun _ => R.rel_pure _
  · exact R.rel_bind (hosts.say _) fun _ => R.rel_pure _
  · exact R.rel_bind (hosts.say _) fun _ => R.rel_pure _
  · exact R.rel_bind (hosts.complain _) fun _ => R.rel_pure _

end

end InStep

end

/-! ## The record of a run -/

section

variable {σ α : Type} {host : Host (StateM σ)}

theorem erasure_hosts (host : Host (StateM σ)) : (erasure σ).Hosts host.recorded host where
  toLookups := ⟨fun _ _ => rfl, fun _ _ _ => rfl, fun _ _ _ => rfl, fun _ _ _ => rfl⟩
  toCalls := erasure_calls host.toFilesystem
  say _ _ _ := rfl

/-- **The record of a run is only a record.** -/
theorem run_recorded (host : Host (StateM σ)) (around : Surroundings) (arguments : List (List UInt8)) (s : σ) :
    let recorded := ((run host.recorded around arguments).run {}).run s
    (recorded.1.1, recorded.2) = (run host around arguments).run s :=
  InStep.run (erasure_hosts host) around arguments {} s

/-- **A look**: a recorded program that leaves the record as it is, and does what a plain one does. -/
def look (σ : Type) : InStep (StateT Record (StateM σ)) (StateM σ) where
  Rel x y := ∀ r s, (x.run r).run s = (((y.run s).1, r), (y.run s).2)
  rel_pure _ _ _ := rfl
  rel_bind {_ _ x y f g} hx hf r s := by
    change ((f ((x.run r).run s).1.1).run ((x.run r).run s).1.2).run ((x.run r).run s).2 = _
    rw [hx r s]
    exact hf _ _ _

theorem look_lookups (host : Host (StateM σ)) : (look σ).Lookups host.recorded host :=
  ⟨fun _ _ => rfl, fun _ _ _ => rfl, fun _ _ _ => rfl, fun _ _ _ => rfl⟩

/-- A recorded program goes on from where its first part ends. -/
theorem run_bind_of_recorded {β : Type} {x : StateT Record (StateM σ) α}
    {g : α → StateT Record (StateM σ) β} {r r' : Record} {s t : σ} {a : α}
    (h : (x.run r).run s = ((a, r'), t)) : ((x >>= g).run r).run s = ((g a).run r').run t := by
  change ((g ((x.run r).run s).1.1).run ((x.run r).run s).1.2).run ((x.run r).run s).2 = _
  rw [h]

end

end Reclaim
