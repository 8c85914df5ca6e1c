import Reclaim.Text.Quoted

/-!
# Suffixes

What is put behind a name to get the names of its sidecars: one **suffix** for the management
directory, one for the notification file. A suffix in force begins with a dot, goes on after it, and
holds no separator, so that what it makes is a sibling's name and not another path.

**Overrides** replace the suffixes they set and keep the others. The check comes after the
replacement and looks at the management suffix first.
-/

namespace Reclaim

/-- **The suffixes** of the two sidecars. -/
structure Suffixes where
  management : String
  note : String
  deriving DecidableEq, Repr

/-- The two settings, by name. -/
inductive SuffixKey where
  | management
  | note
  deriving DecidableEq, Repr

/-- How a setting is spelled. -/
def SuffixKey.text : SuffixKey → String
  | .management => "management_suffix"
  | .note => "note_suffix"

/-- **A suffix that may not be in force**, with the setting that holds it. -/
structure SuffixError where
  key : SuffixKey
  value : String
  deriving DecidableEq, Repr

/-- How a bad suffix is reported. -/
def SuffixError.message (e : SuffixError) : String :=
  "Invalid " ++ e.key.text ++ " " ++ Text.quoted e.value ++
    ": a suffix must start with '.' and contain no path separator"

/-- Whether a text may be a suffix: a dot, at least one more character, and no separator. -/
def isSuffix (value : String) : Bool :=
  match value.toList with
  | '.' :: rest => !rest.isEmpty && !rest.contains '/'
  | _ => false

/-- Suffixes to put in place of others, where set. -/
structure Overrides where
  management : Option String := none
  note : Option String := none
  deriving DecidableEq, Repr

namespace Suffixes

/-- **The suffixes in force where nothing else is said.** -/
def standard : Suffixes := ⟨".management", ".note"⟩

/-- Suffixes with overrides laid over them. -/
def overlay (s : Suffixes) (o : Overrides) : Suffixes :=
  ⟨o.management.getD s.management, o.note.getD s.note⟩

/-- Refuses a text that may not be a suffix. -/
def checkOne (key : SuffixKey) (value : String) : Except SuffixError Unit :=
  if isSuffix value then .ok () else .error ⟨key, value⟩

/-- **The check**: the management suffix, then the note suffix. -/
def check (s : Suffixes) : Except SuffixError Unit := do
  checkOne .management s.management
  checkOne .note s.note

end Suffixes

end Reclaim
