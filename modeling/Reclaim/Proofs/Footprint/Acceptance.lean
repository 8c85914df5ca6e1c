import Reclaim.Proofs.Footprint
import Reclaim.Proofs.Disk.Lexical
import Mathlib.Data.List.Basic

/-!
# Which parts make a footprint

A footprint is made after checks, one behind the other, and each check reads the components of a path.
Here the same is said of the bytes. A **fault** is a condition on the parts with the error that reports it;
the faults stand in a list, and what is reported is the **first that applies** (`IsFirst`).

**The grammar** (`Footprint.ofParts_accepts`): three parts make a footprint where the primary path is
canonical by its spelling, the name is a name, and the root is not empty. The footprint holds them as they
were, and otherwise the first fault is reported.

**A primary path alone** (`Footprint.ofPrimary_accepts`) makes a footprint where it has one or more names,
each behind a single separator, and the last is UTF-8. The root and the name that it is split into are joined
to it again.

A list of faults that reports what a check refuses also tells what it accepts (`Reports.accepts_iff`): the
first fault is looked for in one place only.
-/

namespace Reclaim

/-! ## The first fault -/

section Faults

variable {ε α : Type} {fault : Prop} {cause e : ε} {rest faults : List (Prop × ε)}

/-- **The first fault that applies** has this error: none before it does. -/
def IsFirst (faults : List (Prop × ε)) (e : ε) : Prop :=
  ∃ before fault after, faults = before ++ (fault, e) :: after ∧ fault ∧
    ∀ other ∈ before, ¬ other.1

theorem isFirst_nil : ¬ IsFirst ([] : List (Prop × ε)) e := by
  rintro ⟨before, fault, after, split, -⟩
  exact List.append_ne_nil_of_right_ne_nil before (List.cons_ne_nil _ _) split.symm

/-- A fault at the front that applies is the first. -/
theorem isFirst_cons_of_pos (h : fault) : IsFirst ((fault, cause) :: rest) e ↔ cause = e := by
  constructor
  · rintro ⟨before, other, after, split, -, none⟩
    cases before with
    | nil => exact (Prod.mk.inj (List.cons.inj split).1).2
    | cons first before =>
      obtain ⟨rfl, -⟩ := List.cons.inj split
      exact absurd h (none _ List.mem_cons_self)
  · rintro rfl
    exact ⟨[], fault, rest, rfl, h, nofun⟩

/-- One that does not apply is passed over. -/
theorem isFirst_cons_of_neg (h : ¬ fault) :
    IsFirst ((fault, cause) :: rest) e ↔ IsFirst rest e := by
  constructor
  · rintro ⟨before, other, after, split, holds, none⟩
    cases before with
    | nil =>
      obtain ⟨same, -⟩ := List.cons.inj split
      exact absurd ((Prod.mk.inj same).1 ▸ holds) h
    | cons first before =>
      exact ⟨before, other, after, (List.cons.inj split).2, holds, (List.forall_mem_cons.mp none).2⟩
  · rintro ⟨before, other, after, rfl, holds, none⟩
    exact ⟨(fault, cause) :: before, other, after, rfl, holds, List.forall_mem_cons.mpr ⟨h, none⟩⟩

/-- Where a fault applies, one is the first. -/
theorem exists_isFirst_iff : (∃ e, IsFirst faults e) ↔ ∃ fault ∈ faults, fault.1 := by
  induction faults with
  | nil => exact ⟨fun ⟨e, first⟩ => absurd first isFirst_nil, fun ⟨_, listed, _⟩ => nomatch listed⟩
  | cons head rest ih =>
    obtain ⟨fault, cause⟩ := head
    rw [List.exists_mem_cons_iff]
    by_cases applies : fault
    · exact ⟨fun _ => .inl applies, fun _ => ⟨cause, (isFirst_cons_of_pos applies).mpr rfl⟩⟩
    · rw [or_iff_right applies, ← ih]
      exact exists_congr fun e => isFirst_cons_of_neg applies

/-- **A list of faults reports a result** when the errors of the result are those of the first fault. -/
def Reports (faults : List (Prop × ε)) (result : Except ε α) : Prop :=
  ∀ e, result = .error e ↔ IsFirst faults e

theorem reports_nil (a : α) : Reports ([] : List (Prop × ε)) (.ok a) :=
  fun _ => ⟨nofun, fun first => absurd first isFirst_nil⟩

theorem reports_cons_of_pos (h : fault) :
    Reports ((fault, cause) :: rest) (.error cause : Except ε α) := fun e => by
  rw [isFirst_cons_of_pos h, Except.error.injEq]

theorem Reports.cons_of_neg {result : Except ε α} (h : ¬ fault) (reports : Reports rest result) :
    Reports ((fault, cause) :: rest) result := fun e => by
  rw [isFirst_cons_of_neg h, reports e]

/-- **What is accepted has no fault.** -/
theorem Reports.accepts_iff {result : Except ε α} (reports : Reports faults result) :
    (∃ a, result = .ok a) ↔ ∀ fault ∈ faults, ¬ fault.1 := by
  have refused : (∃ e, result = .error e) ↔ ∃ fault ∈ faults, fault.1 :=
    (exists_congr reports).trans exists_isFirst_iff
  cases result with
  | error e =>
    obtain ⟨fault, listed, applies⟩ := refused.mp ⟨e, rfl⟩
    exact ⟨nofun, fun none => absurd applies (none fault listed)⟩
  | ok a =>
    refine ⟨fun _ fault listed applies => ?_, fun _ => ⟨a, rfl⟩⟩
    obtain ⟨e, same⟩ := refused.mpr ⟨fault, listed, applies⟩
    cases same

end Faults

namespace Footprint

/-! ## Three parts -/

/-- **The faults of three parts**, by their bytes, in the order in which they are reported. -/
def partFaults (primary root : Path) (name : String) : List (Prop × FootprintError) :=
  [(primary.bytes = [], .argument (.empty "primary_path")),
    (name = "", .argument (.empty "logical_name")),
    (primary.bytes.head? ≠ some slash, .relativePrimary primary),
    (¬ primary.Canonical, .nonCanonicalPrimary primary),
    (¬ IsName (Text.encode name), .nameNotAComponent name),
    (root.bytes = [], .argument (.empty "root_directory"))]

/-- **The checks report the faults of the parts.** -/
theorem reports_ofParts (primary root : Path) (name : String) :
    Reports (partFaults primary root name) (ofParts primary root name) := by
  unfold ofParts partFaults
  by_cases empty : primary.bytes = []
  · rw [if_pos empty]
    exact reports_cons_of_pos empty
  rw [if_neg empty]
  refine .cons_of_neg empty ?_
  by_cases unnamed : name = ""
  · rw [if_pos (String.isEmpty_iff.mpr unnamed)]
    exact reports_cons_of_pos unnamed
  rw [if_neg (mt String.isEmpty_iff.mp unnamed)]
  refine .cons_of_neg unnamed ?_
  by_cases absolute : primary.isAbsolute = true
  swap
  · rw [dif_neg absolute]
    exact reports_cons_of_pos (mt decide_eq_true absolute)
  rw [dif_pos absolute]
  refine .cons_of_neg (not_not_intro (of_decide_eq_true absolute)) ?_
  by_cases canonical : primary.isCanonical = true
  swap
  · rw [dif_neg canonical]
    exact reports_cons_of_pos fun grammar => canonical (Path.canonical_iff.mp grammar).2
  rw [dif_pos canonical]
  refine .cons_of_neg (not_not_intro (Path.canonical_iff.mpr ⟨absolute, canonical⟩)) ?_
  by_cases single : isSingleComponent name = true
  swap
  · rw [dif_neg single]
    exact reports_cons_of_pos (mt isSingleComponent_iff.mpr single)
  rw [dif_pos single]
  refine .cons_of_neg (not_not_intro (isSingleComponent_iff.mp single)) ?_
  by_cases rootless : root.bytes = []
  · rw [dif_pos rootless]
    exact reports_cons_of_pos rootless
  · rw [dif_neg rootless]
    exact .cons_of_neg rootless (reports_nil _)

/-- The canonical spelling starts at the root, and a name is no empty text: of the six faults three remain
to be told. -/
theorem no_partFaults_iff {primary root : Path} {name : String} :
    (∀ fault ∈ partFaults primary root name, ¬ fault.1) ↔
      primary.Canonical ∧ IsName (Text.encode name) ∧ root.bytes ≠ [] := by
  simp only [partFaults, List.forall_mem_cons, List.not_mem_nil, false_implies, implies_true,
    not_not, and_true]
  constructor
  · rintro ⟨-, -, -, canonical, named, rooted⟩
    exact ⟨canonical, named, rooted⟩
  · rintro ⟨canonical, named, rooted⟩
    have absolute := (Path.canonical_iff.mp canonical).1
    refine ⟨Path.bytes_ne_nil_of_isAbsolute absolute, ?_, of_decide_eq_true absolute, canonical, named,
      rooted⟩
    rintro rfl
    exact named.1 rfl

/-- **What three parts have to be** to make a footprint. -/
theorem exists_ofParts_iff {primary root : Path} {name : String} :
    (∃ f, ofParts primary root name = .ok f) ↔
      primary.Canonical ∧ IsName (Text.encode name) ∧ root.bytes ≠ [] :=
  (reports_ofParts primary root name).accepts_iff.trans no_partFaults_iff

/-- **Three parts make a footprint exactly where they follow the grammar.** It holds them byte for byte;
where they do not follow it, the first fault is reported. -/
theorem ofParts_accepts (primary root : Path) (name : String) :
    ((∃ f, ofParts primary root name = .ok f) ↔
      primary.Canonical ∧ IsName (Text.encode name) ∧ root.bytes ≠ []) ∧
    (∀ f, ofParts primary root name = .ok f →
      f.primary.bytes = primary.bytes ∧ f.root.bytes = root.bytes ∧ f.name = name) ∧
    ∀ e, ofParts primary root name = .error e ↔ IsFirst (partFaults primary root name) e := by
  refine ⟨exists_ofParts_iff, fun f made => ?_, reports_ofParts primary root name⟩
  obtain ⟨hprimary, hroot, hname⟩ := ofParts_eq_ok made
  exact ⟨congrArg Path.bytes hprimary, congrArg Path.bytes hroot, hname⟩

/-! ## A primary path alone -/

/-- **The faults of a primary path.** That it is missing a part comes before how it is spelled. -/
def primaryFaults (p : Path) : List (Prop × FootprintError) :=
  [(p.components = [] ∨ p.components = [.root], .argument (.missing "root_directory")),
    (p.components.getLast? = some .here ∨ p.components.getLast? = some .up,
      .argument (.missing "logical_name")),
    ((∃ n, p.components.getLast? = some (.name n) ∧ ∀ s, Text.encode s ≠ n), .nonUtf8Name p),
    (p.bytes.head? ≠ some slash, .relativePrimary p),
    (¬ p.Canonical, .nonCanonicalPrimary p)]

/-- **A path with a last name.** What remains to be told is how it is spelled. -/
theorem reports_ofParts_named {p : Path} {name : String}
    (last : p.components.getLast? = some (.name (Text.encode name))) :
    Reports [(p.bytes.head? ≠ some slash, .relativePrimary p), (¬ p.Canonical, .nonCanonicalPrimary p)]
      (ofParts p (Path.ofComponents p.components.dropLast) name) := by
  have file : p.fileName? = some (Text.encode name) := by
    rw [Path.fileName?, last]
  have named : IsName (Text.encode name) := Path.isName_of_fileName? file
  have filled : p.bytes ≠ [] := by
    intro empty
    rw [show p = ⟨[]⟩ from congrArg Path.mk empty] at last
    cases last
  have titled : name ≠ "" := by
    rintro rfl
    exact named.1 rfl
  intro e
  rw [reports_ofParts p _ name e, partFaults, isFirst_cons_of_neg filled, isFirst_cons_of_neg titled]
  by_cases relative : p.bytes.head? ≠ some slash
  · rw [isFirst_cons_of_pos relative, isFirst_cons_of_pos relative]
  rw [isFirst_cons_of_neg relative, isFirst_cons_of_neg relative]
  by_cases canonical : p.Canonical
  swap
  · rw [isFirst_cons_of_pos canonical, isFirst_cons_of_pos canonical]
  -- Below the root, the parent of a canonical path is a path again.
  have rooted : (Path.ofComponents p.components.dropLast).bytes ≠ [] := by
    obtain ⟨l, hl, rfl⟩ := Path.canonical_iff_exists_location.mp canonical
    cases l with
    | nil => cases last
    | cons n l =>
      rw [Location.components_path hl, Location.components_cons, List.dropLast_concat,
        Location.ofComponents_components hl.tail]
      exact Location.path_bytes_ne_nil l
  rw [isFirst_cons_of_neg (not_not_intro canonical), isFirst_cons_of_neg (not_not_intro canonical),
    isFirst_cons_of_neg (not_not_intro named), isFirst_cons_of_neg rooted]

/-- **The checks report the faults of the primary path.** -/
theorem reports_ofPrimary (p : Path) : Reports (primaryFaults p) (ofPrimary p) := by
  unfold ofPrimary primaryFaults Path.parent? Path.fileName?
  cases last : p.components.getLast? with
  | none => exact reports_cons_of_pos (.inl (List.getLast?_eq_none_iff.mp last))
  | some c =>
    have parted : c ≠ .root → ¬ (p.components = [] ∨ p.components = [.root]) := by
      rintro below (nothing | root)
      · rw [nothing] at last
        cases last
      · rw [root] at last
        exact below (Option.some.inj last).symm
    cases c with
    | root => exact reports_cons_of_pos (.inr (Path.components_of_getLast?_root last))
    | here => exact .cons_of_neg (parted nofun) (reports_cons_of_pos (.inl rfl))
    | up => exact .cons_of_neg (parted nofun) (reports_cons_of_pos (.inr rfl))
    | name n =>
      refine .cons_of_neg (parted nofun) (.cons_of_neg (by simp) ?_)
      dsimp only
      cases read : Text.decode? n with
      | none =>
        refine reports_cons_of_pos ⟨n, rfl, fun s written => ?_⟩
        rw [← written, Text.decode?_encode] at read
        cases read
      | some name =>
        have written := Text.encode_of_decode? read
        refine .cons_of_neg ?_ (reports_ofParts_named (written ▸ last))
        rintro ⟨m, same, unwritten⟩
        obtain rfl := Component.name.inj (Option.some.inj same)
        exact unwritten name written

/-- **What a primary path has to be** to make a footprint: that of a location below the root, with a last
name that is UTF-8. -/
theorem exists_ofPrimary_iff {p : Path} : (∃ f, ofPrimary p = .ok f) ↔
    ∃ name l, Location.IsNamed (Text.encode name :: l) ∧ p = Location.path (Text.encode name :: l) := by
  constructor
  · rintro ⟨f, made⟩
    obtain ⟨n, l, named, spelling, -, -, rfl⟩ := ofPrimary_eq_ok made
    exact ⟨f.name, l, named, spelling⟩
  · rintro ⟨name, l, named, rfl⟩
    obtain ⟨f, made, -⟩ := ofPrimary_path named (isSingleComponent_iff.mpr named.head) rfl
    exact ⟨f, made⟩

/-- The path of a location makes a footprint where its last name is UTF-8. -/
theorem exists_ofPrimary_path_iff {l : Location} (named : l.IsNamed) :
    (∃ f, ofPrimary l.path = .ok f) ↔ ∃ name, l.head? = some (Text.encode name) := by
  rw [exists_ofPrimary_iff]
  refine exists_congr fun name => ?_
  constructor
  · rintro ⟨k, namedToo, same⟩
    rw [Location.path_inj named namedToo same, List.head?_cons]
  · intro last
    obtain ⟨k, rfl⟩ := List.head?_eq_some_iff.mp last
    exact ⟨k, named, rfl⟩

/-- **A primary path makes a footprint exactly where it has one or more names**, each behind a single
separator, and the last is UTF-8. The root and the name are joined to the path again, byte for byte, and
with it they make the same footprint; any other path has a fault, and the first is reported. -/
theorem ofPrimary_accepts (p : Path) :
    ((∃ f, ofPrimary p = .ok f) ↔ ∃ names name, (∀ n ∈ names, IsName n) ∧ IsName (Text.encode name) ∧
      p.bytes = spelled (names ++ [Text.encode name])) ∧
    (∀ f, ofPrimary p = .ok f → f.primary = p ∧ (f.root.join (.ofString f.name)).bytes = p.bytes ∧
      ofParts p f.root f.name = .ok f) ∧
    ∀ e, ofPrimary p = .error e ↔ IsFirst (primaryFaults p) e := by
  refine ⟨exists_ofPrimary_iff.trans ⟨?_, ?_⟩, fun f made => ?_, reports_ofPrimary p⟩
  · rintro ⟨name, l, named, rfl⟩
    refine ⟨l.reverse, name, fun m hm => named.tail m (List.mem_reverse.mp hm), named.head, ?_⟩
    exact Location.bytes_path_cons _ l
  · rintro ⟨names, name, hnames, hname, written⟩
    refine ⟨name, names.reverse, .cons hname fun m hm => hnames m (List.mem_reverse.mp hm), ?_⟩
    have same : p.bytes = (Location.path (Text.encode name :: names.reverse)).bytes := by
      rw [written, Location.bytes_path_cons, List.reverse_reverse]
    exact congrArg Path.mk same
  · obtain ⟨n, l, named, rfl, primary, root, rfl⟩ := ofPrimary_eq_ok made
    refine ⟨primary, ?_, ?_⟩
    · rw [root, Path.ofString, Location.path_join named.tail named.head.2.1]
    · rw [← primary]
      exact ofParts_of_footprint f

end Footprint

end Reclaim
