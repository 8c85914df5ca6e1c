import Reclaim.Proofs.Command.Named
import Reclaim.Proofs.Command.Validity
import Reclaim.Proofs.Disk.Listed
import Reclaim.Proofs.Disk.Trail
import Reclaim.Proofs.Distinct
import Reclaim.Proofs.Reclamation.Taken

/-!
# A database behind a link

An argument may be a link, and the database at the end of its trail. The paths of the footprint then come from
two places: the management directory stands beside the link, the primary file and its notification file
at the end of the trail.

**The law** (`Machine.linked_database_reclaimed`): where the link's name is a text and the trail has no more
links than a call follows, all of them in reach, a run with this argument ends with 0 and takes away what
belongs to these places, and nothing else. The links stay, and so do a notification file beside the link and a
management directory beside the database.

**Other trails and names** (`Machine.trail_not_followed`). A trail with more links, or one that ends out of
reach, has no canonical path. Then the argument is taken as it stands: the link is deleted as the primary file,
and the database stays. A link whose name is no text has no footprint, and the run ends with 1.
-/

namespace Reclaim

/-- A location with a text behind its last name. -/
def Location.suffixed (l : Location) (value : String) : Location :=
  match l with
  | [] => []
  | n :: l => (n ++ Text.encode value) :: l

namespace Disk

variable {d : Disk} {cwd l t : Location} {n : List UInt8} {links : List Location} {options : Options}
  {suffixes : Suffixes} {p : Path} {name : String}

/-- **An argument is a link to a database**: the directory that holds it has a canonical path, its last name is
that of a link, and the trail from that, by calls in reach, ends at a regular file. -/
structure LinksTo (d : Disk) (cwd : Location) (p : Path) (n : List UInt8) (l : Location)
    (links : List Location) (t : Location) : Prop where
  file : p.fileName? = some n
  held : d.trace cwd (holder p) = .ok l
  link : ∃ target, d.lookup (n :: l) = some (.link target)
  trail : d.Trail d.lookUnder l [.name n] links t
  regular : ∃ content, d.lookup t = some (.file content)

/-- **Its canonical path** is that of the end of its trail, where that is short enough. -/
theorem LinksTo.trace (leads : d.LinksTo cwd p n l links t) (few : links.length ≤ linkLimit) :
    d.trace cwd (Location.path (n :: l)) = .ok t := by
  obtain ⟨target, link⟩ := leads.link
  have walked := leads.trail.walkBy few
  obtain ⟨e, seen, -⟩ := walkBy_name_eq_ok.mp walked
  have near := isInReach_of_lookPath (lookUnder_eq_ok.mp seen).2
  exact (trace_path_iff (directory_of_lookup link) (isEntryName_of_lookup link).1 near.tail).mpr walked

/-- **The footprint of a link to a database**: its primary file is at the end of the trail, and its root and
its name are those of the link. -/
theorem LinksTo.footprint (leads : d.LinksTo cwd p n l links t) (few : links.length ≤ linkLimit)
    (rootless : options.root = none) (nameless : options.name = none) (text : Text.encode name = n) :
    ∃ f, d.footprint? cwd options p = .ok f ∧ f.primary = t.path ∧ f.root = l.path ∧ f.name = name := by
  have traced := leads.trace few
  subst text
  obtain ⟨file, held, -⟩ := leads
  have start := start_of_holder file (resolve_of_trace held)
  obtain ⟨absolute, named⟩ := absolute_of_traced file held
  obtain ⟨k, lexicalNamed, lexical⟩ := Path.exists_lexical_cons (isNamed_of_lookup start) file
  obtain ⟨f, made⟩ := (exists_footprint_iff rootless nameless).mpr
    ⟨start, Footprint.exists_ofPrimary_iff.mpr ⟨name, k, lexicalNamed, lexical⟩⟩
  obtain ⟨primary, root, own, encoded, called⟩ := (hasFootprint_of_ok made).parts named absolute
  refine ⟨f, made, ?_, ?_, ?_⟩
  · rw [primary, real, traced]
  · rw [root, rootless, Option.elim_none]
  · rw [called, nameless, Option.getD_none]
    exact Text.encode_injective encoded

/-- **What belongs to a link to a database** is in reach and not at odds: no link is at the management path,
and the database, its notification file and the links on the trail are apart from each other and outside what
stands there. -/
structure IsApart (d : Disk) (suffixes : Suffixes) (g : Location) (links : List Location) (t : Location) :
    Prop where
  real : d.lookup (g.suffixed suffixes.management) = some .directory ∨
    d.lookup (g.suffixed suffixes.management) = none
  outside : ∀ j ∈ t :: t.suffixed suffixes.note :: links, ¬ j.IsBeneath (g.suffixed suffixes.management)
  unlinked : t.suffixed suffixes.note ∉ links
  near : ∀ j ∈ [g.suffixed suffixes.management, t.suffixed suffixes.note], d.IsNear j
  inside : ∀ x, d.IsNear (x :: g.suffixed suffixes.management)

/-- **What goes with a link to a database**: what is taken away with the management directory beside the
link, and with the database and its notification file. -/
def GoesBehind (d : Disk) (suffixes : Suffixes) (g t : Location) : Location → Prop :=
  d.IsTaken (g.suffixed suffixes.management) t (t.suffixed suffixes.note)

/-- The links on the trail do not go. -/
theorem IsApart.links_stay (apart : d.IsApart suffixes (n :: l) links t)
    (leads : d.LinksTo cwd p n l links t) {j : Location} (followed : j ∈ links) :
    ¬ d.GoesBehind suffixes (n :: l) t j := by
  have outside := apart.outside j (List.mem_cons_of_mem _ (List.mem_cons_of_mem _ followed))
  obtain ⟨target, link⟩ :=
    leads.trail.lookup_of_mem (fun _ _ _ _ seen => (lookUnder_eq_ok.mp seen).1) followed
  obtain ⟨content, regular⟩ := leads.regular
  rintro (⟨x, rfl, -⟩ | ⟨rfl, -⟩ | ⟨rfl, -⟩ | ⟨rfl, -⟩)
  · exact outside ((Location.IsBeneath.refl _).cons x)
  · exact outside (.refl _)
  · cases link.symm.trans regular
  · exact apart.unlinked followed

/-- **Reclaiming behind a link**: the database counts as deleted, and what goes with it goes. -/
theorem LinksTo.reclaim {f : Footprint} (leads : d.LinksTo cwd p n l links t)
    (few : links.length ≤ linkLimit) (apart : d.IsApart suffixes (n :: l) links t)
    (checked : suffixes.check = .ok ()) (primary : f.primary = t.path) (root : f.root = l.path)
    (name : Text.encode f.name = n) :
    let run := (reclaim (Disk.filesystem cwd) .silent suffixes f).run d
    run.1.primaryDeleted = true ∧ d.Without run.2 (d.GoesBehind suffixes (n :: l) t) := by
  intro run
  obtain ⟨content, regular⟩ := leads.regular
  obtain ⟨c, -, hplay⟩ := reclaim_course (Disk.filesystem cwd) suffixes f d
  have near : t.IsInReach := isInReach_of_trace_path (leads.trace few)
  have held : d.IsFirm l := isFirm_of_resolve (resolve_of_trace leads.held)
  obtain ⟨e, stands, -⟩ := id held
  have named : l.IsNamed := isNamed_of_lookup stands
  cases t with
  | nil => cases d.lookup_root.symm.trans regular
  | cons m k =>
    have tail : d.lookup k = some .directory := directory_of_lookup regular
    obtain ⟨note, noteNamed⟩ := Footprint.notificationFile_path checked (isNamed_of_lookup regular) primary
    obtain ⟨management, managementNamed⟩ := Footprint.managementDirectory_path checked named root
    rw [Text.encode_append, name] at management managementNamed
    have suffix := (isSuffix_bytes (Suffixes.isSuffix_of_check checked).2).1
    have places : d.AreReal ((n ++ Text.encode suffixes.management) :: l) (m :: k)
        ((m ++ Text.encode suffixes.note) :: k) := by
      refine ⟨apart.real, apart.outside _ List.mem_cons_self,
        apart.outside _ (List.mem_cons_of_mem _ List.mem_cons_self), fun same => ?_, ?_, apart.inside⟩
      · exact suffix (List.append_right_eq_self.mp (List.cons.inj same).1)
      · obtain ⟨first, last, -⟩ := List.forall_mem_cons.mp apart.near |>.imp_right List.forall_mem_cons.mp
        exact List.forall_mem_cons.mpr ⟨first, List.forall_mem_cons.mpr
          ⟨fun _ => near, List.forall_mem_singleton.mpr last⟩⟩
    have taken := without_course management primary note held (isFirm_of_directory tail)
      managementNamed.head (isEntryName_of_lookup regular).1 noteNamed.head places hplay
    refine ⟨?_, taken⟩
    have found : d.find cwd f.primary = .ok (m :: k) := primary ▸ find_path near regular
    have gone : run.2.lookup (m :: k) = none := by
      refine (taken (m :: k)).1 (.inr (.inr (.inl ⟨rfl, ?_⟩)))
      rw [regular]
      nofun
    refine primaryDeleted_of_absent suffixes (fun j there _ => ?_)
      ((within_replay hplay).absent_of_gone found gone)
    rw [primary, Except.ok.inj (found.symm.trans there)]

end Disk

namespace Machine

variable {s : Machine} {arguments : List (List UInt8)} {options : Options} {suffixes : Suffixes} {p : Path}
  {n : List UInt8} {l t : Location} {links : List Location} {name : String}

/-- **A database behind a link is reclaimed**, where the name of the link is a text and the trail has no more
links than a call follows. -/
theorem linked_database_reclaimed (around : Surroundings)
    (accepted : s.Accepts arguments options suffixes)
    (alone : distinctBy Path.components options.paths = [p]) (rootless : options.root = none)
    (nameless : options.name = none) (wet : options.dryRun = false)
    (leads : s.disk.LinksTo s.cwd p n l links t) (text : Text.encode name = n)
    (few : links.length ≤ linkLimit) (apart : s.disk.IsApart suffixes (n :: l) links t) :
    let ended := (run host around arguments).run s
    ended.1 = 0 ∧ s.disk.Without ended.2.disk (s.disk.GoesBehind suffixes (n :: l) t) ∧
      ∀ j ∈ links, ended.2.disk.lookup j = s.disk.lookup j := by
  intro ended
  obtain ⟨f, made, primary, root, rfl⟩ := leads.footprint few rootless nameless text
  obtain ⟨deleted, taken⟩ := leads.reclaim few apart (check_of_load accepted.loaded) primary root text
  obtain ⟨zero, disk⟩ := run_single around accepted alone wet made
  have behind : s.disk.Without ended.2.disk (s.disk.GoesBehind suffixes (n :: l) t) := disk ▸ taken
  exact ⟨zero.mpr deleted, behind, fun j followed => behind.kept (apart.links_stay leads followed)⟩

/-- A link at `/a` to the database at `/b`: that goes with its notification file, and its own management
directory stays. -/
theorem linked_database_reclaimed_sample :
    let s : Machine := ⟨.linked, [], "", ""⟩
    (s.Accepts (words ["a"]) { paths := [.ofString "a"] } .standard ∧
      s.disk.LinksTo [] (.ofString "a") (Text.encode "a") [] [[Text.encode "a"]] [Text.encode "b"] ∧
      s.disk.IsApart .standard [Text.encode "a"] [[Text.encode "a"]] [Text.encode "b"]) ∧
    ((run host {} (words ["a"])).run s).1 = 0 ∧
    ((run host {} (words ["a"])).run s).2.disk.lookup [Text.encode "b"] = none ∧
    ((run host {} (words ["a"])).run s).2.disk.lookup [Text.encode "b.note"] = none ∧
    ((run host {} (words ["a"])).run s).2.disk.lookup [Text.encode "b.management"] = some .directory ∧
    ((run host {} (words ["a"])).run s).2.disk.lookup [Text.encode "a"] = some (.link (.ofString "b")) := by
  intro s
  have accepted : s.Accepts (words ["a"]) { paths := [.ofString "a"] } .standard := ⟨rfl, nofun, rfl⟩
  have trail : s.disk.Trail s.disk.lookUnder [] [.name (Text.encode "a")] [[Text.encode "a"]]
      [Text.encode "b"] := .link rfl (.name rfl nofun .done)
  have leads : s.disk.LinksTo [] (.ofString "a") (Text.encode "a") [] [[Text.encode "a"]]
      [Text.encode "b"] := ⟨rfl, rfl, ⟨_, rfl⟩, trail, ⟨_, rfl⟩⟩
  have apart : s.disk.IsApart .standard [Text.encode "a"] [[Text.encode "a"]] [Text.encode "b"] :=
    ⟨.inr rfl, by decide, by decide, by decide, Disk.isNear_of_absent rfl⟩
  obtain ⟨code, taken, links⟩ :=
    linked_database_reclaimed {} accepted rfl rfl rfl rfl leads rfl (by decide) apart
  have link : s.disk.lookup [Text.encode "a"] = some (.link (.ofString "b")) := rfl
  refine ⟨⟨accepted, leads, apart⟩, code, ?_, ?_, ?_, (links _ List.mem_cons_self).trans link⟩
  · exact (taken _).1 (.inr (.inr (.inl ⟨rfl, by decide⟩)))
  · exact (taken _).1 (.inr (.inr (.inr ⟨rfl, by decide⟩)))
  · refine taken.kept ?_
    rintro (⟨x, same, -⟩ | ⟨same, -⟩ | ⟨same, -⟩ | ⟨same, -⟩)
    · exact absurd (List.cons.inj same).2 (List.cons_ne_nil _ _).symm
    · exact absurd same (by decide)
    · exact absurd same (by decide)
    · exact absurd same (by decide)

end Machine

/-! ## Trails that are not followed -/

namespace Disk

/-- The name of a link in a row. -/
def rowName (i : Nat) : List UInt8 := [0x6C, 0x30 + i.toUInt8]

/-- A row of links, each to the next one, and the last to the database at `/r`. There is one more of them
than a call follows. Another link to the database has a name that is no text. -/
def row : Disk where
  entries := ⟨([Text.encode "r"], .file (.zeros 8)) :: ([[0xFF]], .link (.ofString "r")) ::
    (List.range (linkLimit + 1)).map fun i =>
      ([rowName i], .link (if i < linkLimit then ⟨rowName (i + 1)⟩ else .ofString "r")),
    by decide +kernel⟩
  isTree := isTree_of_placed (by decide +kernel)

/-- **From each link of the row**, the links from there on lead to the database, by induction on how many
come behind it. -/
theorem trail_row (i : Nat) (le : i ≤ linkLimit) :
    row.Trail row.lookUnder [] [.name (rowName (linkLimit - i))]
      ((List.range' (linkLimit - i) (i + 1)).map fun i => [rowName i]) [Text.encode "r"] := by
  induction i with
  | zero =>
    have last : row.lookUnder [] (rowName linkLimit) [] = .ok (.link (.ofString "r")) := by
      decide +kernel
    have database : row.lookUnder [] (Text.encode "r") [] = .ok (.file (.zeros 8)) := by decide +kernel
    exact .link last (.name database nofun .done)
  | succ i ih =>
    have links : ∀ j < linkLimit, row.lookUnder [] (rowName j) [] = .ok (.link ⟨rowName (j + 1)⟩) ∧
        (⟨rowName (j + 1)⟩ : Path).steps = [.name (rowName (j + 1))] := by decide +kernel
    obtain ⟨seen, steps⟩ := links (linkLimit - (i + 1)) (by omega)
    have next : linkLimit - (i + 1) + 1 = linkLimit - i := by omega
    rw [List.range'_succ, List.map_cons]
    refine .link seen ?_
    rw [List.append_nil, steps, next]
    exact ih (by omega)

end Disk

namespace Machine

/-- **Trails that are not followed.** Each of three links leads to a database. The first of the row does so by
too many links, and `/g` by two to a place out of reach: a run with either deletes the link, leaves the
database, and ends with 0. The third has a name that is no text: a run with it ends with 1 and leaves both. -/
theorem trail_not_followed :
    (let s : Machine := ⟨.row, [], "", ""⟩
      let links := (List.range (linkLimit + 1)).map fun i => [Disk.rowName i]
      let left := ((run host {} (words ["l0"])).run s).2
      (s.Accepts (words ["l0"]) { paths := [.ofString "l0"] } .standard ∧
        Disk.row.LinksTo [] (.ofString "l0") (Disk.rowName 0) [] links [Text.encode "r"] ∧
        Disk.row.IsApart .standard [Disk.rowName 0] links [Text.encode "r"]) ∧
      links.length = linkLimit + 1 ∧
      ((run host {} (words ["l0"])).run s).1 = 0 ∧
      [Disk.rowName 0] ∈ links ∧
      Disk.row.lookup [Disk.rowName 0] = some (.link (.ofString "l1")) ∧
      left.disk.lookup [Disk.rowName 0] = none ∧
      left.disk.lookup [Text.encode "r"] = some (.file (.zeros 8))) ∧
    (let s : Machine := ⟨.deepLinked, [], "", ""⟩
      let left := ((run host {} (words ["g"])).run s).2
      let far := Text.encode "a.note" :: Location.deep 16
      Disk.deepLinked.resolve [] (.ofString "g") = .ok far ∧
      ((run host {} (words ["g"])).run s).1 = 0 ∧
      Disk.deepLinked.lookup [Text.encode "g"] = some (.link (.ofString "x/a.note")) ∧
      left.disk.lookup [Text.encode "g"] = none ∧
      left.disk.lookup far = some (.file (.zeros 2))) ∧
    (let s : Machine := ⟨.row, [], "", ""⟩
      let left := ((run host {} [[0xFF]]).run s).2
      Disk.row.LinksTo [] ⟨[0xFF]⟩ [0xFF] [] [[[0xFF]]] [Text.encode "r"] ∧
      Disk.row.IsApart .standard [[0xFF]] [[[0xFF]]] [Text.encode "r"] ∧
      ((run host {} [[0xFF]]).run s).1 = 1 ∧
      left.disk.lookup [[0xFF]] = some (.link (.ofString "r")) ∧
      left.disk.lookup [Text.encode "r"] = some (.file (.zeros 8))) := by
  have database : Disk.row.lookup [Text.encode "r"] = some (.file (.zeros 8)) := by decide +kernel
  refine ⟨?_, by decide +kernel, ?_⟩
  · intro s links left
    have trail : Disk.row.Trail Disk.row.lookUnder [] [.name (Disk.rowName 0)] links [Text.encode "r"] := by
      have whole := Disk.trail_row linkLimit (Nat.le_refl _)
      rw [Nat.sub_self, ← List.range_eq_range'] at whole
      exact whole
    have first : Disk.row.lookup [Disk.rowName 0] = some (.link (.ofString "l1")) := by decide +kernel
    have none : Disk.row.lookup (Location.suffixed [Disk.rowName 0] ".management") = none := by
      decide +kernel
    exact ⟨⟨⟨by decide +kernel, nofun, rfl⟩,
      ⟨by decide +kernel, rfl, ⟨_, first⟩, trail, ⟨_, database⟩⟩,
      ⟨.inr none, by decide +kernel, by decide +kernel, by decide +kernel, Disk.isNear_of_absent none⟩⟩,
      by decide +kernel, by decide +kernel, by decide +kernel, first, by decide +kernel,
      by decide +kernel⟩
  · intro s left
    have link : Disk.row.lookUnder [] [0xFF] [] = .ok (.link (.ofString "r")) := by decide +kernel
    have seen : Disk.row.lookUnder [] (Text.encode "r") [] = .ok (.file (.zeros 8)) := by decide +kernel
    have none : Disk.row.lookup (Location.suffixed [[0xFF]] ".management") = none := by decide +kernel
    exact ⟨⟨rfl, rfl, ⟨_, (Disk.lookUnder_eq_ok.mp link).1⟩, .link link (.name seen nofun .done),
        ⟨_, database⟩⟩,
      ⟨.inr none, by decide +kernel, by decide +kernel, by decide +kernel, Disk.isNear_of_absent none⟩,
      by decide +kernel, by decide +kernel, by decide +kernel⟩

end Machine

end Reclaim
