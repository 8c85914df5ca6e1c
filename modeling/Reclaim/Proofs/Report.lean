import Reclaim.Report

/-!
# A report read back

A report is the messages of a chain with the separator between each two. It can be cut up again, since
the separator has a first character that does not come again in it: no occurrence runs over the end of a
message into the separator behind it, and none begins inside another (`Report.isPrefix_of_append`).

**The pieces of a text** (`Report.IsCut`) are texts without the separator in them that give the text when
they are joined by it. Every text has pieces, and `Report.messages` finds them (`Report.isCut_messages`);
no text has others (`Report.IsCut.eq_messages`). So a chain whose messages are free of the separator is
what its report is cut into (`report_read_back`).

A message with the separator in it is cut up like any other text: the report does not tell it from
several messages.
-/

namespace Reclaim

namespace Report

/-! ## Characters -/

variable {mark : Char} {tail piece : List Char}

/-- **An occurrence that begins in a text ends in it**, where the separator comes next: its first
character does not come again in it. -/
theorem isPrefix_of_append {m rest : List Char} (once : mark ∉ tail) (filled : m ≠ [])
    (h : mark :: tail <+: m ++ mark :: rest) : mark :: tail <+: m := by
  obtain ⟨c, m, rfl⟩ := List.exists_cons_of_ne_nil filled
  rw [List.cons_append, List.cons_prefix_cons] at h
  obtain ⟨rfl, h⟩ := h
  refine List.cons_prefix_cons.mpr ⟨rfl, ?_⟩
  by_cases short : tail.length ≤ m.length
  · exact List.prefix_of_prefix_length_le h (List.prefix_append m _) short
  · have behind : m ++ [mark] <+: m ++ mark :: rest :=
      List.prefix_append_right_inj m |>.mpr (List.cons_prefix_cons.mpr ⟨rfl, List.nil_prefix⟩)
    have inside : m ++ [mark] <+: tail :=
      List.prefix_of_prefix_length_le behind h (by rw [List.length_append]; exact Nat.lt_of_not_le short)
    exact absurd (inside.subset (List.mem_append_right m List.mem_cons_self)) once

/-- The rest of an occurrence is passed over. -/
theorem cutFrom_skip (sep piece passed rest : List Char) :
    cutFrom sep piece passed.length (passed ++ rest) = cutFrom sep piece 0 rest := by
  induction passed with
  | nil => rfl
  | cons c passed ih => exact ih

theorem cutFrom_of_not_isPrefix {sep rest : List Char} {c : Char} (h : ¬ sep <+: c :: rest) :
    cutFrom sep piece 0 (c :: rest) = cutFrom sep (c :: piece) 0 rest := by
  rw [cutFrom, if_neg (mt List.isPrefixOf_iff_prefix.mp h)]

/-- **An occurrence cuts.** -/
theorem cutFrom_separator (rest : List Char) :
    cutFrom (mark :: tail) piece 0 (mark :: tail ++ rest) =
      piece.reverse :: cutFrom (mark :: tail) [] 0 rest := by
  have occurs := List.isPrefixOf_iff_prefix.mpr (List.prefix_append (mark :: tail) rest)
  rw [List.cons_append] at occurs ⊢
  rw [cutFrom, if_pos occurs, List.length_cons, Nat.add_sub_cancel, cutFrom_skip]

/-- A text without the separator is one piece. -/
theorem cutFrom_plain {sep m : List Char} (plain : ¬ sep <:+: m) :
    cutFrom sep piece 0 m = [piece.reverse ++ m] := by
  induction m generalizing piece with
  | nil => rw [cutFrom, List.append_nil]
  | cons c m ih =>
    rw [cutFrom_of_not_isPrefix fun h => plain h.isInfix, ih fun h => plain (List.infix_cons h),
      List.reverse_cons, List.append_assoc]
    rfl

/-- **A text without the separator is cut off** in front of one. -/
theorem cutFrom_append {m : List Char} (once : mark ∉ tail) (plain : ¬ mark :: tail <:+: m)
    (rest : List Char) :
    cutFrom (mark :: tail) piece 0 (m ++ (mark :: tail ++ rest)) =
      (piece.reverse ++ m) :: cutFrom (mark :: tail) [] 0 rest := by
  induction m generalizing piece with
  | nil => rw [List.nil_append, cutFrom_separator, List.append_nil]
  | cons c m ih =>
    have here : ¬ mark :: tail <+: c :: (m ++ (mark :: tail ++ rest)) := fun h =>
      plain (isPrefix_of_append once (List.cons_ne_nil c m) h).isInfix
    rw [List.cons_append, cutFrom_of_not_isPrefix here, ih fun h => plain (List.infix_cons h),
      List.reverse_cons, List.append_assoc]
    rfl

/-- **Texts that are joined come apart again**, by induction on them. -/
theorem cutFrom_intercalate {ms : List (List Char)} (once : mark ∉ tail) (filled : ms ≠ [])
    (plain : ∀ m ∈ ms, ¬ mark :: tail <:+: m) :
    cutFrom (mark :: tail) [] 0 ((mark :: tail).intercalate ms) = ms := by
  induction ms with
  | nil => exact absurd rfl filled
  | cons m ms ih =>
    obtain ⟨first, others⟩ := List.forall_mem_cons.mp plain
    cases ms with
    | nil => rw [List.intercalate_singleton, cutFrom_plain first]; rfl
    | cons m' ms =>
      rw [List.intercalate_cons_cons, List.append_assoc, cutFrom_append once first,
        ih (List.cons_ne_nil m' ms) others]
      rfl

theorem cutFrom_ne_nil (sep piece : List Char) (skip : Nat) (text : List Char) :
    cutFrom sep piece skip text ≠ [] := by
  fun_induction cutFrom sep piece skip text with
  | case1 => exact List.cons_ne_nil _ _
  | case2 _ _ _ _ ih => exact ih
  | case3 => exact List.cons_ne_nil _ _
  | case4 _ _ _ _ ih => exact ih

/-- **The pieces joined are the text**: of what was read already, the last piece, and of what is still to
be read, all that is not passed over. -/
theorem intercalate_cutFrom (skip : Nat) (text : List Char) :
    (mark :: tail).intercalate (cutFrom (mark :: tail) piece skip text) =
      piece.reverse ++ text.drop skip := by
  induction text generalizing piece skip with
  | nil => rw [cutFrom, List.intercalate_singleton, List.drop_nil, List.append_nil]
  | cons c rest ih =>
    cases skip with
    | succ skip => exact ih skip
    | zero =>
      by_cases occurs : mark :: tail <+: c :: rest
      · obtain ⟨behind, split⟩ := occurs
        obtain rfl : tail ++ behind = rest := (List.cons.inj split).2
        have later := @ih [] tail.length
        rw [cutFrom_skip, List.drop_left] at later
        rw [← split, cutFrom_separator, List.intercalate_cons_of_ne_nil (cutFrom_ne_nil _ _ _ _), later,
          List.append_assoc]
        rfl
      · rw [cutFrom_of_not_isPrefix occurs, ih, List.reverse_cons, List.append_assoc]
        rfl

/-- **No piece holds the separator**, where no occurrence begins in what was read already. -/
theorem plain_of_mem_cutFrom {skip : Nat} {text : List Char}
    (free : ∀ behind, behind <:+ piece.reverse → behind ≠ [] →
      ¬ mark :: tail <+: behind ++ text.drop skip) :
    ∀ m ∈ cutFrom (mark :: tail) piece skip text, ¬ mark :: tail <:+: m := by
  have read : ∀ {piece text : List Char}, (∀ behind, behind <:+ piece.reverse → behind ≠ [] →
      ¬ mark :: tail <+: behind ++ text) → ¬ mark :: tail <:+: piece.reverse := by
    intro piece text free holds
    obtain ⟨behind, begins, inside⟩ := List.infix_iff_prefix_suffix.mp holds
    exact free behind inside (begins.ne_nil (List.cons_ne_nil mark tail))
      (begins.trans (List.prefix_append behind text))
  induction text generalizing piece skip with
  | nil => exact List.forall_mem_singleton.mpr (read free)
  | cons c rest ih =>
    cases skip with
    | succ skip => exact ih free
    | zero =>
      rw [cutFrom]
      split
      · refine List.forall_mem_cons.mpr ⟨read free, ih fun behind inside filled => ?_⟩
        exact absurd (List.suffix_nil.mp inside) filled
      · rename_i fresh
        refine ih fun behind inside filled => ?_
        rw [List.reverse_cons, List.suffix_concat_iff] at inside
        obtain ⟨before, rfl, within⟩ := inside.resolve_left filled
        rw [List.append_assoc]
        by_cases nothing : before = []
        · subst nothing
          exact mt List.isPrefixOf_iff_prefix.mpr fresh
        · exact free before within nothing

/-! ## Texts -/

/-- **A message is plain**: the separator is not in it. -/
def IsPlain (message : String) : Prop := ¬ separator.toList <:+: message.toList

instance (message : String) : Decidable (IsPlain message) := inferInstanceAs (Decidable (¬ _))

/-- **The pieces of a text** between the occurrences of the separator. -/
structure IsCut (text : String) (pieces : List String) : Prop where
  filled : pieces ≠ []
  joined : separator.intercalate pieces = text
  plain : ∀ piece ∈ pieces, IsPlain piece

/-- The separator by its first character, which does not come again in it. -/
theorem exists_mark : ∃ mark tail, separator.toList = mark :: tail ∧ mark ∉ tail :=
  ⟨'\n', "  Caused by: ".toList, by decide, by decide⟩

/-- **Every text has pieces**, and they are found. -/
theorem isCut_messages (text : String) : IsCut text (messages text) := by
  obtain ⟨mark, tail, hsep, -⟩ := exists_mark
  unfold messages
  refine ⟨fun nothing => cutFrom_ne_nil _ _ _ _ (List.map_eq_nil_iff.mp nothing), ?_, ?_⟩
  · rw [← String.toList_inj, String.toList_intercalate, List.map_map, hsep]
    simp only [Function.comp_def, String.toList_ofList, List.map_id']
    exact intercalate_cutFrom 0 text.toList
  · refine List.forall_mem_map.mpr fun piece found => ?_
    rw [IsPlain, String.toList_ofList, hsep]
    rw [hsep] at found
    refine plain_of_mem_cutFrom (fun behind inside filled => ?_) piece found
    exact absurd (List.suffix_nil.mp inside) filled

/-- **No text has other pieces.** -/
theorem IsCut.eq_messages {text : String} {pieces : List String} (h : IsCut text pieces) :
    pieces = messages text := by
  obtain ⟨filled, rfl, plain⟩ := h
  obtain ⟨mark, tail, hsep, once⟩ := exists_mark
  unfold IsPlain at plain
  rw [hsep] at plain
  have found := cutFrom_intercalate once (mt List.map_eq_nil_iff.mp filled) (List.forall_mem_map.mpr plain)
  rw [messages, String.toList_intercalate, hsep, found, List.map_map]
  simp [Function.comp_def]

/-! ## Chains -/

/-- **The messages of a chain**, outermost first. -/
def chain (r : Report) : List String := r.outermost :: r.causes

/-- **The error of several messages**: a root cause, and a context around it for each message more. -/
def ofMessages (root : String) (contexts : List String) : Report := contexts.foldl within (ofCause root)

/-- The last context is the first message, and the root cause the last one. -/
theorem chain_ofMessages (root : String) (contexts : List String) :
    (ofMessages root contexts).chain = contexts.reverse ++ [root] := by
  have around : ∀ r : Report, (contexts.foldl within r).chain = contexts.reverse ++ r.chain := by
    induction contexts with
    | nil => exact fun r => rfl
    | cons context contexts ih =>
      intro r
      rw [List.foldl_cons, ih, List.reverse_cons, List.append_assoc]
      rfl
  exact around (ofCause root)

/-- **A report joins the messages of its chain.** -/
theorem render_eq (r : Report) : r.render = separator.intercalate r.chain := by
  obtain ⟨first, causes⟩ := r
  unfold render chain
  induction causes generalizing first with
  | nil => rw [String.intercalate_singleton]; rfl
  | cons cause causes ih =>
    rw [List.foldl_cons, ih, String.intercalate_cons_cons]
    cases causes with
    | nil => rw [String.intercalate_singleton, String.intercalate_singleton]
    | cons next causes =>
      rw [String.intercalate_cons_cons, String.intercalate_cons_cons]
      simp only [String.append_assoc]

/-- A chain of plain messages is what its report is cut into. -/
theorem isCut_render {r : Report} (plain : ∀ m ∈ r.chain, IsPlain m) : IsCut r.render r.chain :=
  ⟨List.cons_ne_nil _ _, r.render_eq.symm, plain⟩

end Report

open Report in
/-- **A report is read back.** Where no message holds the separator, the report of an error can be cut at
every occurrence of it in one way, into the messages from the outermost context to the root cause. So of two
such errors with one report each has the messages of the other. -/
theorem report_read_back (root : String) (contexts : List String)
    (plain : ∀ m ∈ root :: contexts, IsPlain m) :
    (∀ pieces, IsCut (ofMessages root contexts).render pieces ↔ pieces = contexts.reverse ++ [root]) ∧
      messages (ofMessages root contexts).render = contexts.reverse ++ [root] ∧
      ∀ root' contexts', (∀ m ∈ root' :: contexts', IsPlain m) →
        (ofMessages root' contexts').render = (ofMessages root contexts).render →
          root' = root ∧ contexts' = contexts := by
  have pieces_of : ∀ {root contexts}, (∀ m ∈ root :: contexts, IsPlain m) →
      IsCut (ofMessages root contexts).render (contexts.reverse ++ [root]) := by
    intro root contexts plain
    rw [← chain_ofMessages]
    refine isCut_render fun m listed => plain m ?_
    rw [chain_ofMessages] at listed
    simpa [or_comm] using listed
  have found := (pieces_of plain).eq_messages
  refine ⟨fun pieces => ⟨fun cut => cut.eq_messages.trans found.symm, fun same => ?_⟩, found.symm,
    fun root' contexts' plain' same => ?_⟩
  · exact same ▸ pieces_of plain
  · have found' := (pieces_of plain').eq_messages
    rw [same, ← found] at found'
    obtain ⟨others, last⟩ := List.append_inj' found' rfl
    exact ⟨List.singleton_inj.mp last, List.reverse_inj.mp others⟩

/-- A root cause that ends in most of the separator, under an empty message and one that is a line end. -/
theorem report_read_back_sample :
    let root := "gone\n  Caused by:"
    let contexts := ["", "\n"]
    (∀ m ∈ root :: contexts, Report.IsPlain m) ∧
      Report.messages (Report.ofMessages root contexts).render = ["\n", "", root] ∧
      ∀ root' contexts', (∀ m ∈ root' :: contexts', Report.IsPlain m) →
        (Report.ofMessages root' contexts').render = (Report.ofMessages root contexts).render →
          root' = root ∧ contexts' = contexts := by
  intro root contexts
  have plain : ∀ m ∈ root :: contexts, Report.IsPlain m := by decide +kernel
  exact ⟨plain, (report_read_back root contexts plain).2⟩

/-- A message that holds the separator is taken for two. -/
example : (Report.ofMessages "b\n  Caused by: a" []).render = (Report.ofMessages "a" ["b"]).render := by
  decide +kernel

end Reclaim
