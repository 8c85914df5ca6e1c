import Reclaim.Proofs.Footprint
import Reclaim.Proofs.Reclamation.Difference
import Reclaim.Proofs.Reclamation.Simulation

/-!
# Runs that do not meet

What a run answers and does on a quiet store depends on the nodes at the paths of its artifacts, and on
nothing else in the store: two stores that **agree** there (`Agrees`) do in place of one another
(`agrees_simulates`). And it takes away nothing but artifacts.

So two runs whose footprints have no artifact path in common do not see each other
(`reclaim_commutes`): in either order each has the same outcome, and the same store is left. The
suffixes of the two may differ, and any calls may be set to fail. Two databases are disjoint as soon as
neither primary path begins with the other (`Footprint.disjoint_of_primary`).
-/

namespace Reclaim

open ScriptedStore

/-- **Two footprints have no artifact path in common**, each with its own suffixes. -/
def Footprint.Disjoint (f₁ : Footprint) (suffixes₁ : Suffixes) (f₂ : Footprint)
    (suffixes₂ : Suffixes) : Prop :=
  ∀ kind₁ kind₂ q, f₁.Owns suffixes₁ kind₁ q → ¬ f₂.Owns suffixes₂ kind₂ q

theorem Footprint.Disjoint.symm {f₁ f₂ : Footprint} {suffixes₁ suffixes₂ : Suffixes}
    (h : f₁.Disjoint suffixes₁ f₂ suffixes₂) : f₂.Disjoint suffixes₂ f₁ suffixes₁ :=
  fun kind₂ kind₁ q owned₂ owned₁ => h kind₁ kind₂ q owned₁ owned₂

theorem Store.prefix_of_isChild {directory path : Path} (child : isChild directory path = true) :
    directory.bytes <+: path.bytes := by
  unfold isChild at child
  simp only [Bool.and_eq_true, List.isPrefixOf_iff_prefix] at child
  refine List.IsPrefix.trans ?_ child.1.1
  unfold childStem
  split
  · exact List.prefix_refl _
  · exact List.prefix_append _ _

/-- The artifacts of a database all have paths that begin with its primary path. -/
theorem Footprint.Owns.begins {primary q : Path} {f : Footprint} {suffixes : Suffixes}
    {kind : ArtifactKind} (owned : f.Owns suffixes kind q)
    (made : Footprint.ofPrimary primary = .ok f) (checked : suffixes.check = .ok ()) :
    f.primary.bytes <+: q.bytes := by
  have directory : f.primary.bytes <+: (f.managementDirectory suffixes).bytes := by
    rw [Footprint.managementDirectory_eq made checked]
    exact List.prefix_append _ _
  cases owned with
  | entry child => exact directory.trans (Store.prefix_of_isChild child)
  | directory => exact directory
  | primary => exact List.prefix_refl _
  | notification => exact List.prefix_append _ _

/-- **Databases are disjoint where neither primary path begins with the other.** -/
theorem Footprint.disjoint_of_primary {p₁ p₂ : Path} {f₁ f₂ : Footprint} {suffixes₁ suffixes₂ : Suffixes}
    (made₁ : ofPrimary p₁ = .ok f₁) (checked₁ : suffixes₁.check = .ok ())
    (made₂ : ofPrimary p₂ = .ok f₂) (checked₂ : suffixes₂.check = .ok ())
    (apart : ¬ f₁.primary.bytes <+: f₂.primary.bytes) (apart' : ¬ f₂.primary.bytes <+: f₁.primary.bytes) :
    f₁.Disjoint suffixes₁ f₂ suffixes₂ := by
  intro kind₁ kind₂ q owned₁ owned₂
  rcases List.prefix_or_prefix_of_prefix (owned₁.begins made₁ checked₁)
    (owned₂.begins made₂ checked₂) with within | within
  · exact apart within
  · exact apart' within

namespace ScriptedStore

variable {s t u : ScriptedStore} {suffixes : Suffixes} {f : Footprint} {kind : ArtifactKind}
  {path : Path}

/-! ## Stores that agree -/

/-- **Two stores agree on a footprint**: they are quiet, list its management directory themselves, have
the same script, and the same nodes at the paths of its artifacts. -/
structure Agrees (suffixes : Suffixes) (f : Footprint) (s t : ScriptedStore) : Prop where
  quiet : s.Quiet
  unlisted : s.script.listings.get? (f.managementDirectory suffixes) = none
  script : t.script = s.script
  node : ∀ kind q, f.Owns suffixes kind q → t.store.get? q = s.store.get? q

namespace Agrees

theorem quiet' (h : Agrees suffixes f s t) : t.Quiet := by
  unfold Quiet
  rw [h.script]
  exact h.quiet

theorem failures (h : Agrees suffixes f s t) : t.failure? = s.failure? := by
  unfold failure?
  rw [h.script]

theorem stands (h : Agrees suffixes f s t) (owned : f.Owns suffixes kind path) :
    t.stands path = s.stands path := by
  rw [ScriptedStore.stands, ScriptedStore.stands, h.failures, h.node kind path owned]

theorem measured (h : Agrees suffixes f s t) (owned : f.Owns suffixes kind path) :
    t.measured path = s.measured path := by
  rw [ScriptedStore.measured, ScriptedStore.measured, h.failures, Store.sizeOf?, Store.sizeOf?,
    h.node kind path owned]

/-- The management directory is listed alike: its children are artifacts too. -/
theorem listing (h : Agrees suffixes f s t) :
    t.listing (f.managementDirectory suffixes) = s.listing (f.managementDirectory suffixes) := by
  have unlisted := h.unlisted
  rw [← h.script] at unlisted
  have directory := h.node .managementDirectory _ .directory
  have children : t.store.childrenOf (f.managementDirectory suffixes) =
      s.store.childrenOf (f.managementDirectory suffixes) := by
    rw [Store.childrenOf_eq_filter fun c child => .inr (h.node .managementEntry c (.entry child)),
      List.filter_eq_self]
    intro c listed
    obtain ⟨child, stood⟩ := Store.mem_childrenOf.mp listed
    rw [h.node .managementEntry c (.entry child)]
    exact stood
  rw [listing_eq h.unlisted, listing_eq unlisted, h.failures, directory, children]

/-- What is refused is refused alike. -/
theorem refusal? (h : Agrees suffixes f s t) (owned : f.Owns suffixes kind path) :
    t.refusal? kind path = s.refusal? kind path := by
  refine refusal?_congr h.failures (yields_congr (h.node kind path owned) ?_)
  rintro rfl c child
  cases owned
  exact h.node .managementEntry c (.entry child)

/-- Without the same node, the two agree still. -/
theorem erase (h : Agrees suffixes f s t) (path : Path) :
    Agrees suffixes f (s.change (·.erase path)) (t.change (·.erase path)) where
  quiet := h.quiet
  unlisted := h.unlisted
  script := h.script
  node kind q owned := by
    change (t.store.erase path).get? q = (s.store.erase path).get? q
    rw [Keyed.get?_erase, Keyed.get?_erase, h.node kind q owned]

end Agrees

/-! ## What a removal answers -/

/-- On a quiet store a removal goes through, or is refused. -/
theorem Quiet.remove (quiet : s.Quiet) (kind : ArtifactKind) (path : Path) :
    (s.refusal? kind path = none ∧
        (filesystem.remove kind path).run s = (.ok (), s.change (·.erase path))) ∨
      ∃ reason, s.refusal? kind path = some reason ∧
        (filesystem.remove kind path).run s = (.error reason, s) := by
  obtain ⟨answer, u, run⟩ : ∃ answer u, (filesystem.remove kind path).run s = (answer, u) :=
    ⟨_, _, rfl⟩
  rw [run]
  rcases quiet.removal (Exchange.takesPlace_removal.mpr run) with
    ⟨free, rfl, rfl⟩ | ⟨reason, refused, rfl, rfl⟩
  · exact .inl ⟨free, rfl⟩
  · exact .inr ⟨reason, refused, rfl⟩

/-- **A store does in place of one that it agrees with.** -/
theorem agrees_simulates (suffixes : Suffixes) (f : Footprint) :
    Simulates filesystem filesystem suffixes f id (Agrees suffixes f) fun _ _ => True where
  present {s t kind path} h owned _ := by
    refine ⟨s.stands path, ?_, ?_, fun _ => trivial⟩
    · rw [present_run, h.quiet.fire]
    · rw [present_run, h.quiet'.fire, h.stands owned]
  children {s t} h _ := by
    rw [children_run, children_run, h.quiet.fire, h.quiet'.fire, h.listing]
    cases listed : s.listing (f.managementDirectory suffixes) with
    | error reason => exact .inr ⟨reason, reason, rfl, rfl, rfl⟩
    | ok entries =>
      rw [listing_eq h.unlisted] at listed
      split at listed
      · cases listed
      · split at listed
        · obtain rfl := Except.ok.inj listed
          exact .inl ⟨_, rfl, rfl, s.store.nodup_childrenOf _, fun q child =>
            ⟨.entry (Store.mem_childrenOf.mp child).1, trivial⟩⟩
        · cases listed
  fileSize {s t kind path} h owned _ := by
    refine ⟨s.measured path, ?_, ?_⟩
    · rw [fileSize_run, h.quiet.fire]
    · rw [fileSize_run, h.quiet'.fire, h.measured owned]
  remove {s t kind path} h owned _ := by
    have alike := h.refusal? owned
    rcases h.quiet.remove kind path with ⟨free, run⟩ | ⟨reason, refused, run⟩
    · rcases h.quiet'.remove kind path with ⟨-, run'⟩ | ⟨reason', refused', -⟩
      · exact .inl ⟨_, _, run, run', h.erase path, fun _ _ _ => trivial⟩
      · cases (alike.trans free).symm.trans refused'
    · rcases h.quiet'.remove kind path with ⟨free', -⟩ | ⟨reason', refused', run'⟩
      · cases (alike.trans refused).symm.trans free'
      · obtain rfl := Option.some.inj ((alike.trans refused).symm.trans refused')
        exact .inr ⟨_, _, run, run', rfl⟩

/-! ## What a run leaves alone -/

/-- **A run takes away what it reports as removed, all of it artifacts.** -/
theorem Quiet.reclaim_behind (quiet : s.Quiet)
    (unlisted : s.script.listings.get? (f.managementDirectory suffixes) = none) :
    let run := (reclaim filesystem .silent suffixes f).run s
    run.2 = s.change (·.eraseAll run.1.removed) ∧
      ∀ q ∈ run.1.removed, ∃ kind, f.Owns suffixes kind q := by
  intro run
  obtain ⟨c, outcome, play⟩ := reclaim_course filesystem suffixes f s
  have removed : run.1.removed = (c.attempts suffixes f).filterMap Attempt.removed? :=
    congrArg Outcome.removed outcome
  rw [removed]
  refine ⟨?_, fun q gone => ?_⟩
  · rw [← Course.filterMap_removed?]
    exact quiet.behind play
  · rcases quiet.removed_artifact unlisted play gone with rfl | child | rfl | rfl
    · exact ⟨_, .directory⟩
    · exact ⟨_, .entry (Store.mem_childrenOf.mp child).1⟩
    · exact ⟨_, .primary⟩
    · exact ⟨_, .notification⟩

/-- So it leaves a store that agrees with the first one on any footprint disjoint from its own. -/
theorem Quiet.agrees_behind {suffixes' : Suffixes} {f' : Footprint} (quiet : s.Quiet)
    (unlisted : s.script.listings.get? (f.managementDirectory suffixes) = none)
    (unlisted' : s.script.listings.get? (f'.managementDirectory suffixes') = none)
    (disjoint : f.Disjoint suffixes f' suffixes') :
    Agrees suffixes' f' s ((reclaim filesystem .silent suffixes f).run s).2 := by
  obtain ⟨behind, artifacts⟩ := quiet.reclaim_behind (f := f) unlisted
  rw [behind]
  refine ⟨quiet, unlisted', rfl, fun kind' q owned' => ?_⟩
  change (s.store.eraseAll _).get? q = _
  rw [Keyed.get?_eraseAll, if_neg]
  intro removed
  obtain ⟨kind, owned⟩ := artifacts q removed
  exact disjoint kind kind' q owned owned'

theorem change_eraseAll_comm (s : ScriptedStore) (js ks : List Path) :
    (s.change (·.eraseAll js)).change (·.eraseAll ks) =
      (s.change (·.eraseAll ks)).change (·.eraseAll js) :=
  congrArg (ScriptedStore.mk · s.script) (Keyed.eraseAll_comm s.store js ks)

/-- **Stores that agree have the same outcome.** -/
theorem Agrees.outcome (h : Agrees suffixes f s t) :
    ((reclaim filesystem .silent suffixes f).run t).1 =
      ((reclaim filesystem .silent suffixes f).run s).1 := by
  obtain ⟨o, o', s', t', run, run', alike, -⟩ := (agrees_simulates suffixes f).reclaim h
  rw [run, run']
  simpa using alike.symm

/-- Behind a store that agrees, what is removed is what the other one removes. -/
theorem Agrees.behind (h : Agrees suffixes f s t) :
    ((reclaim filesystem .silent suffixes f).run t).2 =
      t.change (·.eraseAll ((reclaim filesystem .silent suffixes f).run s).1.removed) := by
  have unlisted := h.unlisted
  rw [← h.script] at unlisted
  rw [← h.outcome]
  exact (h.quiet'.reclaim_behind unlisted).1

end ScriptedStore

/-- **Runs on disjoint footprints commute.** On a quiet store without a listing set for either
management directory, under any failures: whichever of two footprints without a common artifact path is
reclaimed first, each run has the same outcome, and the same store is left. -/
theorem reclaim_commutes {s : ScriptedStore} (suffixes₁ suffixes₂ : Suffixes) (f₁ f₂ : Footprint)
    (quiet : s.Quiet)
    (unlisted₁ : s.script.listings.get? (f₁.managementDirectory suffixes₁) = none)
    (unlisted₂ : s.script.listings.get? (f₂.managementDirectory suffixes₂) = none)
    (disjoint : f₁.Disjoint suffixes₁ f₂ suffixes₂) :
    let first₁ := (reclaim filesystem .silent suffixes₁ f₁).run s
    let then₂ := (reclaim filesystem .silent suffixes₂ f₂).run first₁.2
    let first₂ := (reclaim filesystem .silent suffixes₂ f₂).run s
    let then₁ := (reclaim filesystem .silent suffixes₁ f₁).run first₂.2
    first₁.1 = then₁.1 ∧ then₂.1 = first₂.1 ∧ then₂.2 = then₁.2 := by
  intro first₁ then₂ first₂ then₁
  have agrees₂ := quiet.agrees_behind unlisted₁ unlisted₂ disjoint
  have agrees₁ := quiet.agrees_behind unlisted₂ unlisted₁ disjoint.symm
  refine ⟨agrees₁.outcome.symm, agrees₂.outcome, ?_⟩
  have behind₁ : first₁.2 = s.change (·.eraseAll first₁.1.removed) :=
    (quiet.reclaim_behind unlisted₁).1
  have behind₂ : first₂.2 = s.change (·.eraseAll first₂.1.removed) :=
    (quiet.reclaim_behind unlisted₂).1
  have left₂ : then₂.2 = first₁.2.change (·.eraseAll first₂.1.removed) := agrees₂.behind
  have left₁ : then₁.2 = first₂.2.change (·.eraseAll first₁.1.removed) := agrees₁.behind
  rw [left₂, left₁, behind₁, behind₂]
  exact change_eraseAll_comm s _ _

/-- The sample beside a second database that has other suffixes and no notification file. The entry of
the first one's management directory cannot be deleted, and the second one's primary file neither. -/
theorem reclaim_commutes_sample :
    let suffixes : Suffixes := ⟨".d", ".note"⟩
    let f : Footprint := ⟨.ofString "/d/b", .ofString "/d", "b", by decide, by decide, rfl, by decide⟩
    let s := ((ScriptedStore.ofStore ((Store.sample.insert f.primary (.file 4)).insert
      (f.managementDirectory suffixes) .directory)).setFailure .removeFile
        (.ofString "/d/a.management/lock") "busy").setFailure .removeFile f.primary "busy"
    let first := (reclaim filesystem .silent .standard .sample).run s
    let behind := (reclaim filesystem .silent suffixes f).run first.2
    (s.Quiet ∧ Footprint.sample.Disjoint .standard f suffixes) ∧
    first.1 = ((reclaim filesystem .silent .standard .sample).run
      ((reclaim filesystem .silent suffixes f).run s).2).1 ∧
    behind.2 = ((reclaim filesystem .silent .standard .sample).run
      ((reclaim filesystem .silent suffixes f).run s).2).2 := by
  intro suffixes f s first behind
  have made₁ : Footprint.ofPrimary (.ofString "/d/a") = .ok .sample := by decide +kernel
  have made₂ : Footprint.ofPrimary (.ofString "/d/b") = .ok f := by decide +kernel
  have disjoint : Footprint.sample.Disjoint .standard f suffixes :=
    Footprint.disjoint_of_primary made₁ (by decide) made₂ (by decide) (by decide) (by decide)
  obtain ⟨one, -, left⟩ := reclaim_commutes (s := s) .standard suffixes .sample f rfl rfl rfl disjoint
  exact ⟨⟨rfl, disjoint⟩, one, left⟩

end Reclaim
