import Reclaim.Rules
import Reclaim.Proofs.Except
import Reclaim.Proofs.Suffixes
import Mathlib.Data.List.Induction

/-!
# Rules laid over the standard ones

**What a document sets** is said of its entries, not of the reading of them (`Toml.Entries.Sets`): each
entry is the one table, each setting of that table is a text, and where a setting is left out nothing is
set. The reading of a document is that relation (`Overrides.ofEntries_eq_ok_iff`), and so is the reading
of a file (`Suffixes.overridesOf_eq_ok_iff`).

**What is wanted** of a setting is the text of the file where there is one, and the standard suffix
elsewhere. Loading gives what is wanted where all of it may be in force, and names the first setting
where it may not (`rules_overlaid_then_checked`). The check comes last, so nothing that was loaded by any
way is out of force.
-/

namespace Reclaim

open Toml

/-! ## Texts in force -/

/-- **A text that may be in force as a suffix**: it starts with a dot, takes more than one byte, and
holds no separator. -/
structure IsInForce (value : String) : Prop where
  dotted : value.toList.head? = some '.'
  long : 1 < (Text.encode value).length
  plain : '/' ∉ value.toList

/-- After a dot, **one more byte is one more character**. -/
theorem one_lt_length_encode_iff {value : String} {rest : List Char} (h : value.toList = '.' :: rest) :
    1 < (Text.encode value).length ↔ rest ≠ [] := by
  have dot : (String.utf8EncodeChar '.').length = 1 := by decide
  rw [Text.encode_eq_flatMap, h, List.flatMap_cons, List.length_append, dot]
  cases rest with
  | nil => simp
  | cons c rest =>
    have some := List.length_pos_iff.mpr (@String.utf8EncodeChar_ne_nil c)
    rw [List.flatMap_cons, List.length_append]
    simp only [ne_eq, reduceCtorEq, not_false_eq_true, iff_true]
    omega

theorem isSuffix_iff {value : String} : isSuffix value = true ↔ IsInForce value := by
  unfold isSuffix
  split
  · rename_i rest h
    rw [Bool.and_eq_true_iff, Bool.not_eq_true', List.isEmpty_eq_false_iff, Bool.not_eq_true',
      ← Bool.not_eq_true, List.contains_iff_mem]
    constructor
    · intro ⟨filled, plain⟩
      refine ⟨by rw [h]; rfl, (one_lt_length_encode_iff h).mpr filled, ?_⟩
      rw [h, List.mem_cons]
      exact not_or.mpr ⟨by decide, plain⟩
    · intro ⟨_, long, plain⟩
      rw [h, List.mem_cons] at plain
      exact ⟨(one_lt_length_encode_iff h).mp long, (not_or.mp plain).2⟩
  · rename_i other
    apply iff_of_false Bool.false_ne_true
    intro inForce
    obtain ⟨rest, h⟩ := List.head?_eq_some_iff.mp inForce.dotted
    exact absurd h (other rest)

instance (value : String) : Decidable (IsInForce value) := decidable_of_iff _ isSuffix_iff

/-! ## Settings by name -/

/-- The suffix that a setting holds. -/
def Suffixes.get (s : Suffixes) : SuffixKey → String
  | .management => s.management
  | .note => s.note

theorem Suffixes.ext_get {s t : Suffixes} (h : ∀ key, s.get key = t.get key) : s = t := by
  obtain ⟨management, note⟩ := s
  obtain rfl : management = t.management := h .management
  obtain rfl : note = t.note := h .note
  rfl

theorem SuffixKey.forall_iff {p : SuffixKey → Prop} : (∀ key, p key) ↔ p .management ∧ p .note := by
  constructor
  · intro h
    exact ⟨h _, h _⟩
  · rintro ⟨management, note⟩ (_ | _)
    · exact management
    · exact note

theorem SuffixKey.exists_iff {p : SuffixKey → Prop} : (∃ key, p key) ↔ p .management ∨ p .note := by
  constructor
  · rintro ⟨_ | _, h⟩
    · exact .inl h
    · exact .inr h
  · rintro (h | h)
    · exact ⟨_, h⟩
    · exact ⟨_, h⟩

theorem SuffixKey.text_injective {key other : SuffixKey} (h : key.text = other.text) : key = other := by
  cases key <;> cases other <;> first | rfl | exact absurd h (by decide)

/-- Where a setting stands in an array of both. -/
def SuffixKey.place : SuffixKey → Nat
  | .management => 0
  | .note => 1

namespace Overrides

/-- The text that a setting is given. -/
def get? (o : Overrides) : SuffixKey → Option String
  | .management => o.management
  | .note => o.note

/-- Overrides that give a setting a text. -/
def set (o : Overrides) (value : String) : SuffixKey → Overrides
  | .management => { o with management := value }
  | .note => { o with note := value }

theorem ext_get? {o o' : Overrides} (h : ∀ key, o.get? key = o'.get? key) : o = o' := by
  obtain ⟨management, note⟩ := o
  obtain rfl : management = o'.management := h .management
  obtain rfl : note = o'.note := h .note
  rfl

/-- The overrides that give nothing. -/
theorem pure_eq_ok_iff {ε : Type} {o : Overrides} :
    (pure {} : Except ε Overrides) = .ok o ↔ ∀ key, o.get? key = none := by
  constructor
  · intro h key
    cases h
    cases key <;> rfl
  · intro unset
    refine congrArg _ (ext_get? fun key => ?_)
    rw [unset key]
    cases key <;> rfl

/-- Every choice of texts is a choice of overrides. -/
theorem exists_get? (f : SuffixKey → Option String) : ∃ o : Overrides, ∀ key, o.get? key = f key :=
  ⟨⟨f .management, f .note⟩, fun key => by cases key <;> rfl⟩

theorem get?_set (o : Overrides) (value : String) (key other : SuffixKey) :
    (o.set value key).get? other = if key = other then some value else o.get? other := by
  cases key <;> cases other <;> rfl

/-- **What is wanted of a setting**: the text it is given, or else the standard suffix. -/
def wanted (o : Overrides) (key : SuffixKey) : String := (o.get? key).getD (Suffixes.standard.get key)

theorem get_overlay (o : Overrides) (key : SuffixKey) :
    (Suffixes.standard.overlay o).get key = o.wanted key := by
  cases key <;> rfl

end Overrides

/-! ## The check -/

/-- **The first setting that is out of force**, with the management suffix before the note suffix. -/
def SuffixKey.IsFirstFault (key : SuffixKey) (value : SuffixKey → String) : Prop :=
  ¬ IsInForce (value key) ∧ (key = .note → IsInForce (value .management))

namespace Suffixes

variable {s : Suffixes}

theorem checkOne_eq_ok_iff {key : SuffixKey} {value : String} :
    checkOne key value = .ok () ↔ IsInForce value := by
  unfold checkOne
  rw [← isSuffix_iff]
  split <;> simp_all

theorem checkOne_eq_error_iff {key : SuffixKey} {value : String} {e : SuffixError} :
    checkOne key value = .error e ↔ ¬ IsInForce value ∧ e = ⟨key, value⟩ := by
  unfold checkOne
  rw [← isSuffix_iff]
  split
  · rename_i inForce
    exact ⟨nofun, fun h => absurd inForce h.1⟩
  · rename_i fault
    exact ⟨fun h => ⟨fault, (Except.error.inj h).symm⟩, fun h => congrArg _ h.2.symm⟩

theorem check_eq_ok_iff : s.check = .ok () ↔ ∀ key, IsInForce (s.get key) := by
  unfold check
  rw [bind_eq_ok, exists_unit, checkOne_eq_ok_iff, checkOne_eq_ok_iff, SuffixKey.forall_iff]
  rfl

/-- **The check names the first setting that is out of force, with what it holds.** -/
theorem check_eq_error_iff {e : SuffixError} :
    s.check = .error e ↔ ∃ key : SuffixKey, key.IsFirstFault s.get ∧ e = ⟨key, s.get key⟩ := by
  unfold check
  rw [bind_eq_error, exists_unit, checkOne_eq_ok_iff, checkOne_eq_error_iff, checkOne_eq_error_iff,
    SuffixKey.exists_iff]
  simp only [SuffixKey.IsFirstFault, get, reduceCtorEq, false_imp_iff, and_true, true_imp_iff]
  rw [and_left_comm, and_assoc]

end Suffixes

/-! ## What a document sets -/

namespace Toml

/-- The text that a value is. -/
def Value.text? : Value → Option String
  | .text s => some s
  | _ => none

/-- The text under a key. In a document a key comes once; the last entry would count. -/
def Entries.text? (es : Entries) (key : String) : Option String :=
  (Entries.get? es.reverse key).bind Value.text?

/-- **An entry that gives a suffix**: one of the two settings, and a text. -/
def GivesSuffix (e : String × Value) : Prop :=
  ∃ (key : SuffixKey) (s : String), e = (key.text, .text s)

/-- **Values that give both suffixes**: two texts, and whatever follows. -/
def GiveSuffixes (items : List Value) : Prop :=
  ∃ (management note : String) (rest : List Value), items = .text management :: .text note :: rest

/-- **A value that gives suffixes**: a table of such settings and no others, or the array of both. -/
def Value.GivesSuffixes : Value → Prop
  | .table _ entries => ∀ e ∈ entries, GivesSuffix e
  | .array items | .tables items => GiveSuffixes items
  | _ => False

/-- The suffix that a value gives for a setting. -/
def Value.suffix? (key : SuffixKey) : Value → Option String
  | .table _ entries => Entries.text? entries key.text
  | .array items | .tables items => items[key.place]?.bind Value.text?
  | _ => none

/-- **What a document sets**: there is no entry but the one table, it gives suffixes, and the overrides
have those. -/
def Entries.Sets (es : Entries) (o : Overrides) : Prop :=
  (∀ e ∈ es, e.1 = "sidecars" ∧ e.2.GivesSuffixes) ∧
    ∀ key, o.get? key = es.getLast?.bind fun e => e.2.suffix? key

end Toml

namespace Overrides

theorem readSuffix_eq_ok_iff {v : Value} {s : String} : readSuffix v = .ok s ↔ v = .text s := by
  cases v <;> simp [readSuffix]

/-- A setting is read into its own place. -/
theorem readEntry_key (o : Overrides) (key : SuffixKey) (v : Value) :
    readEntry o (key.text, v) = do return o.set (← readSuffix v) key := by
  cases key <;> rfl

theorem readEntry_unknown (o : Overrides) {e : String × Value}
    (unknown : ∀ key : SuffixKey, e.1 ≠ key.text) : readEntry o e = .error (unknownSuffix e.1) := by
  rw [readEntry, if_neg (unknown .management), if_neg (unknown .note)]

theorem readEntry_eq_ok_iff {o o' : Overrides} {e : String × Value} :
    readEntry o e = .ok o' ↔
      ∃ (key : SuffixKey) (s : String), e = (key.text, .text s) ∧ o' = o.set s key := by
  constructor
  · intro h
    by_cases known : ∃ key : SuffixKey, e.1 = key.text
    · obtain ⟨key, named⟩ := known
      rw [show e = (key.text, e.2) from Prod.ext named rfl, readEntry_key] at h
      obtain ⟨s, read, h⟩ := bind_eq_ok.mp h
      exact ⟨key, s, Prod.ext named (readSuffix_eq_ok_iff.mp read), (Except.ok.inj h).symm⟩
    · rw [readEntry_unknown o (not_exists.mp known)] at h
      cases h
  · rintro ⟨key, s, rfl, rfl⟩
    rw [readEntry_key]
    rfl

/-- **A setting at the end of a table** is what the table says of it, and nothing else changes. -/
theorem text?_append (es : Entries) (s : String) (key other : SuffixKey) :
    Entries.text? (es ++ [(key.text, .text s)]) other.text =
      if key = other then some s else Entries.text? es other.text := by
  unfold Entries.text? Entries.get?
  rw [List.reverse_append, List.reverse_singleton, List.singleton_append, List.find?_cons]
  by_cases same : key = other
  · simp [same, Value.text?]
  · simp [same, mt SuffixKey.text_injective same]

/-- **The table of suffixes**, read entry by entry. -/
theorem readEntries_eq_ok_iff {es : Entries} {o : Overrides} :
    es.foldlM readEntry {} = .ok o ↔
      (∀ e ∈ es, GivesSuffix e) ∧ ∀ key : SuffixKey, o.get? key = Entries.text? es key.text := by
  induction es using List.reverseRecOn generalizing o with
  | nil => exact pure_eq_ok_iff.trans (and_iff_right (List.forall_mem_nil _)).symm
  | append_singleton es e ih =>
    simp only [List.foldlM_append, List.foldlM_cons, List.foldlM_nil, bind_pure, bind_eq_ok, ih,
      readEntry_eq_ok_iff, List.forall_mem_append, List.forall_mem_singleton]
    constructor
    · rintro ⟨before, ⟨given, same⟩, key, s, rfl, rfl⟩
      refine ⟨⟨given, key, s, rfl⟩, fun other => ?_⟩
      rw [get?_set, same other, text?_append]
    · rintro ⟨⟨given, key, s, rfl⟩, same⟩
      obtain ⟨before, here⟩ := exists_get? fun key => Entries.text? es key.text
      refine ⟨before, ⟨given, here⟩, key, s, rfl, ext_get? fun other => ?_⟩
      rw [same other, get?_set, here other, text?_append]

/-- **The array of both suffixes.** -/
theorem readSequence_eq_ok_iff {items : List Value} {o : Overrides} :
    readSequence items = .ok o ↔
      GiveSuffixes items ∧ ∀ key, o.get? key = items[key.place]?.bind Value.text? := by
  constructor
  · intro h
    match items, h with
    | [first], h =>
      obtain ⟨_, -, h⟩ := bind_eq_ok.mp h
      cases h
    | first :: second :: rest, h =>
      obtain ⟨management, one, h⟩ := bind_eq_ok.mp h
      obtain ⟨note, two, h⟩ := bind_eq_ok.mp h
      obtain rfl := readSuffix_eq_ok_iff.mp one
      obtain rfl := readSuffix_eq_ok_iff.mp two
      cases h
      exact ⟨⟨management, note, rest, rfl⟩, fun key => by cases key <;> rfl⟩
  · rintro ⟨⟨management, note, rest, rfl⟩, same⟩
    refine congrArg _ (ext_get? fun key => ?_)
    rw [same key]
    cases key <;> rfl

theorem readSidecars_eq_ok_iff {v : Value} {o : Overrides} :
    readSidecars v = .ok o ↔ v.GivesSuffixes ∧ ∀ key, o.get? key = v.suffix? key := by
  cases v with
  | table _ entries => exact readEntries_eq_ok_iff
  | array items => exact readSequence_eq_ok_iff
  | tables items => exact readSequence_eq_ok_iff
  | text | integer | float | boolean | moment => exact ⟨nofun, fun h => h.1.elim⟩

theorem readTop_eq_ok_iff {o o' : Overrides} {e : String × Value} :
    readTop o e = .ok o' ↔
      (e.1 = "sidecars" ∧ e.2.GivesSuffixes) ∧ ∀ key, o'.get? key = e.2.suffix? key := by
  unfold readTop
  split
  · rename_i named
    rw [readSidecars_eq_ok_iff, and_iff_right named]
  · rename_i other
    exact ⟨nofun, fun h => absurd h.1.1 other⟩

/-- **The reading of a document gives what the document sets.** -/
theorem ofEntries_eq_ok_iff {es : Entries} {o : Overrides} : ofEntries es = .ok o ↔ es.Sets o := by
  unfold ofEntries Entries.Sets
  induction es using List.reverseRecOn generalizing o with
  | nil => exact pure_eq_ok_iff.trans (and_iff_right (List.forall_mem_nil _)).symm
  | append_singleton es e ih =>
    simp only [List.foldlM_append, List.foldlM_cons, List.foldlM_nil, bind_pure, bind_eq_ok, ih,
      readTop_eq_ok_iff, List.forall_mem_append, List.forall_mem_singleton, List.getLast?_append,
      List.getLast?_singleton, Option.some_or, Option.bind_some]
    constructor
    · rintro ⟨_, ⟨before, -⟩, here, same⟩
      exact ⟨⟨before, here⟩, same⟩
    · rintro ⟨⟨before, here⟩, same⟩
      obtain ⟨passed, set⟩ := exists_get? fun key => es.getLast?.bind fun e => e.2.suffix? key
      exact ⟨passed, ⟨before, set⟩, here, same⟩

theorem ofText_eq_ok_iff {text : String} {o : Overrides} :
    ofText text = .ok o ↔ ∃ entries, Document.read text = some entries ∧ entries.Sets o := by
  unfold ofText
  cases Document.read text with
  | none => simp
  | some entries => simp [mapError_eq_ok, ofEntries_eq_ok_iff]

/-- **What a file sets**: its bytes are a text, the text is a document, and the document sets it. -/
def AreIn (o : Overrides) (contents : Except String (List UInt8)) : Prop :=
  ∃ bytes text entries, contents = .ok bytes ∧ Text.decode? bytes = some text ∧
    Document.read text = some entries ∧ entries.Sets o

end Overrides

/-! ## Loading -/

/-- A text that was not had, or sets nothing that could be taken. -/
def RulesError.IsRefusal : RulesError → Prop
  | .unreadable .. | .refused .. => True
  | .suffix _ => False

namespace Suffixes

variable {s : Suffixes} {file : Path} {contents : Except String (List UInt8)} {o : Overrides}

theorem overridesOf_eq_ok_iff : overridesOf file contents = .ok o ↔ o.AreIn contents := by
  unfold overridesOf Overrides.AreIn
  cases contents with
  | error reason => simp
  | ok bytes =>
    cases read : Text.decode? bytes with
    | none => simp [read]
    | some text => simp [read, mapError_eq_ok, Overrides.ofText_eq_ok_iff]

theorem isRefusal_of_overridesOf {e : RulesError} (h : overridesOf file contents = .error e) :
    e.IsRefusal := by
  unfold overridesOf at h
  split at h
  · cases h
    trivial
  split at h
  · cases h
    trivial
  · obtain ⟨cause, -, rfl⟩ := mapError_eq_error.mp h
    trivial

/-- Suffixes, if they may be in force. -/
def checked (s : Suffixes) : Except RulesError Suffixes := do
  s.check.mapError .suffix
  return s

theorem checked_eq_ok_iff {t : Suffixes} :
    s.checked = .ok t ↔ (∀ key, IsInForce (s.get key)) ∧ ∀ key, t.get key = s.get key := by
  unfold checked
  rw [bind_eq_ok, exists_unit, mapError_eq_ok, check_eq_ok_iff]
  refine and_congr_right fun _ => ⟨fun same key => ?_, fun same => congrArg _ (ext_get fun key => ?_)⟩
  · rw [Except.ok.inj same]
  · exact (same key).symm

theorem checked_eq_error_iff {e : RulesError} :
    s.checked = .error e ↔
      ∃ key : SuffixKey, key.IsFirstFault s.get ∧ e = .suffix ⟨key, s.get key⟩ := by
  unfold checked
  rw [bind_eq_error, mapError_eq_error]
  simp only [check_eq_error_iff]
  constructor
  · rintro (⟨_, ⟨key, first, rfl⟩, rfl⟩ | ⟨_, -, h⟩)
    · exact ⟨key, first, rfl⟩
    · cases h
  · rintro ⟨key, first, rfl⟩
    exact .inl ⟨_, ⟨key, first, rfl⟩, rfl⟩

theorem load_none : load none = .ok standard := rfl

theorem load_some :
    load (some (file, contents)) = overridesOf file contents >>= fun o => (standard.overlay o).checked :=
  rfl

/-- **A file that sets something** is loaded by a check of what is wanted. -/
theorem load_of_areIn (h : o.AreIn contents) :
    load (some (file, contents)) = (standard.overlay o).checked := by
  rw [load_some, overridesOf_eq_ok_iff.mpr h]
  rfl

end Suffixes

/-- Suffixes that are loaded are in force. -/
theorem check_of_load {source : Option (Path × Except String (List UInt8))} {suffixes : Suffixes}
    (h : Suffixes.load source = .ok suffixes) : suffixes.check = .ok () := by
  cases source with
  | none =>
    obtain rfl := Except.ok.inj h
    rfl
  | some source =>
    obtain ⟨o, -, h⟩ := bind_eq_ok.mp h
    obtain ⟨inForce, same⟩ := Suffixes.checked_eq_ok_iff.mp h
    exact Suffixes.check_eq_ok_iff.mpr fun key => (same key).symm ▸ inForce key

/-- The reading of a document, from the characters of its text. -/
def Toml.Document.readChars (cs : List Char) : Option Entries := do
  let cs := unifyLines (dropMark cs)
  (← readLines (cs.length + 1) {} cs).finish

theorem Overrides.toOption_ofText (text : String) :
    (ofText text).toOption =
      (Document.readChars text.toList).bind fun entries => (ofEntries entries).toOption := by
  show _ = (Document.read text).bind _
  unfold ofText
  cases Document.read text with
  | none => rfl
  | some entries =>
    show ((ofEntries entries).mapError _).toOption = (ofEntries entries).toOption
    cases ofEntries entries <;> rfl

/-- **The shipped rules set the standard suffixes, both of them.** -/
theorem Overrides.ofText_shipped :
    ofText Suffixes.shipped =
      .ok ⟨some Suffixes.standard.management, some Suffixes.standard.note⟩ := by
  apply toOption_eq_some.mp
  apply (toOption_ofText _).trans
  -- The characters of a long text are slow to find: they are found line by line.
  unfold Suffixes.shipped
  simp only [String.toList_append, -String.reduceAppend, -String.reduceToList]
  decide +kernel

/-- **Rules are laid over the standard ones, and then checked.** A file is refused exactly where it sets
nothing that could be taken. Where it sets overrides, loading gives what is wanted of both settings if
both may be in force, and else names the first that may not with the text wanted of it; a setting left
out keeps the standard suffix. What was loaded passes the check, and without a file it is the standard,
which the shipped rules spell. -/
theorem rules_overlaid_then_checked (file : Path) (contents : Except String (List UInt8)) :
    ((∃ e : RulesError, e.IsRefusal ∧ Suffixes.load (some (file, contents)) = .error e) ↔
        ∀ o : Overrides, ¬ o.AreIn contents) ∧
      (∀ o : Overrides, o.AreIn contents →
        (∀ s, Suffixes.load (some (file, contents)) = .ok s ↔
            (∀ key, IsInForce (o.wanted key)) ∧ ∀ key, s.get key = o.wanted key) ∧
          (∀ e, Suffixes.load (some (file, contents)) = .error e ↔
            ∃ key : SuffixKey, key.IsFirstFault o.wanted ∧ e = .suffix ⟨key, o.wanted key⟩) ∧
          ∀ s key, Suffixes.load (some (file, contents)) = .ok s → o.get? key = none →
            s.get key = Suffixes.standard.get key) ∧
      (∀ source s, Suffixes.load source = .ok s → s.check = .ok ()) ∧
      Suffixes.load none = .ok .standard ∧
      Overrides.ofText Suffixes.shipped =
        .ok ⟨some Suffixes.standard.management, some Suffixes.standard.note⟩ := by
  have wanted : ∀ o : Overrides, (Suffixes.standard.overlay o).get = o.wanted :=
    fun o => funext o.get_overlay
  have accepted : ∀ o : Overrides, o.AreIn contents → ∀ s,
      Suffixes.load (some (file, contents)) = .ok s ↔
        (∀ key, IsInForce (o.wanted key)) ∧ ∀ key, s.get key = o.wanted key := by
    intro o h s
    rw [Suffixes.load_of_areIn h, Suffixes.checked_eq_ok_iff, wanted o]
  have faulty : ∀ o : Overrides, o.AreIn contents → ∀ e,
      Suffixes.load (some (file, contents)) = .error e ↔
        ∃ key : SuffixKey, key.IsFirstFault o.wanted ∧ e = .suffix ⟨key, o.wanted key⟩ := by
    intro o h e
    rw [Suffixes.load_of_areIn h, Suffixes.checked_eq_error_iff, wanted o]
  refine ⟨⟨?_, ?_⟩, fun o h => ⟨accepted o h, faulty o h, ?_⟩, fun source s => check_of_load,
    Suffixes.load_none, Overrides.ofText_shipped⟩
  · intro ⟨e, refusal, failed⟩ o h
    obtain ⟨key, -, rfl⟩ := (faulty o h e).mp failed
    exact refusal
  · intro nothing
    cases read : Suffixes.overridesOf file contents with
    | ok o => exact absurd (Suffixes.overridesOf_eq_ok_iff.mp read) (nothing o)
    | error e =>
      have failed : Suffixes.load (some (file, contents)) = .error e := by
        rw [Suffixes.load_some, read]
        rfl
      exact ⟨e, Suffixes.isRefusal_of_overridesOf read, failed⟩
  · intro s key loaded unset
    rw [((accepted o h s).mp loaded).2 key, Overrides.wanted, unset]
    rfl

theorem rules_overlaid_then_checked_sample :
    let file := Path.ofString "rules"
    let one := .ok (Text.encode "[sidecars]\nnote_suffix = '.fifo'\n")
    let both := .ok (Text.encode "sidecars = ['mgmt', './note']")
    let other := .ok (Text.encode "[sidecars]\nlock_suffix = '.lock'\n")
    (Overrides.AreIn ⟨none, ".fifo"⟩ one ∧
      Suffixes.load (some (file, one)) = .ok ⟨".management", ".fifo"⟩) ∧
    (Overrides.AreIn ⟨"mgmt", "./note"⟩ both ∧
      Suffixes.load (some (file, both)) = .error (.suffix ⟨.management, "mgmt"⟩)) ∧
    (∀ o : Overrides, ¬ o.AreIn other) ∧
    ∃ e : RulesError, e.IsRefusal ∧ Suffixes.load (some (file, other)) = .error e := by
  intro file one both other
  have inOne : Overrides.AreIn ⟨none, ".fifo"⟩ one :=
    (@Suffixes.overridesOf_eq_ok_iff file _ _).mp (toOption_eq_some.mp (by decide +kernel))
  have inBoth : Overrides.AreIn ⟨"mgmt", "./note"⟩ both :=
    (@Suffixes.overridesOf_eq_ok_iff file _ _).mp (toOption_eq_some.mp (by decide +kernel))
  have inOther : ∀ o : Overrides, ¬ o.AreIn other := by
    intro o h
    have none : (Suffixes.overridesOf file other).toOption = none := by decide +kernel
    rw [Suffixes.overridesOf_eq_ok_iff.mpr h] at none
    cases none
  refine ⟨⟨inOne, ?_⟩, ⟨inBoth, ?_⟩, inOther, ?_⟩
  · refine (((rules_overlaid_then_checked file one).2.1 _ inOne).1 _).mpr ⟨?_, ?_⟩
    · exact SuffixKey.forall_iff.mpr ⟨by decide +kernel, by decide +kernel⟩
    · exact SuffixKey.forall_iff.mpr ⟨rfl, rfl⟩
  · refine (((rules_overlaid_then_checked file both).2.1 _ inBoth).2.1 _).mpr ?_
    exact ⟨.management, ⟨by decide +kernel, nofun⟩, rfl⟩
  · exact (rules_overlaid_then_checked file other).1.mpr inOther

end Reclaim
