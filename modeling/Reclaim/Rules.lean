import Reclaim.Report
import Reclaim.Suffixes
import Reclaim.Path.Basic
import Reclaim.Toml.Document

/-!
# Rules files

A **rules file** is a document that overrides suffixes. It may hold one table, `sidecars`, with the
two settings, each a text; any other key is refused, and so is a value of another type. An array
stands for the table as well: its first two items are the two settings in order, both required, and
what follows them is not looked at.

Faults are found in the order of the document, after the document as a whole was found to be one.

**Loading** takes the standard suffixes, lays the overrides of a file over them, if there is a file,
and checks the result.
-/

namespace Reclaim

open Toml

/-- **Why the settings of a document are refused.** -/
inductive SettingError where
  | unknownField (name : String) (known : List String)
  | invalidType (found wanted : String)
  | invalidLength (length : Nat)
  deriving DecidableEq, Repr

/-- A name between the quotes that messages use. -/
def ticked (s : String) : String := "`" ++ s ++ "`"

/-- What the table of suffixes is called in messages. -/
def sidecarsTable : String := "struct SidecarsConfig"

/-- How a refused setting is reported. -/
def SettingError.message : SettingError → String
  | .unknownField name known =>
    "unknown field " ++ ticked name ++ ", expected " ++ " or ".intercalate (known.map ticked)
  | .invalidType found wanted => "invalid type: " ++ found ++ ", expected " ++ wanted
  | .invalidLength length =>
    "invalid length " ++ toString length ++ ", expected " ++ sidecarsTable ++ " with 2 elements"

/-- How a value of the wrong type is named. -/
def describe : Value → String
  | .text s => "string " ++ Text.quoted s
  | .integer n => "integer " ++ ticked (toString n)
  | .float x => "floating point " ++ ticked x.text
  | .boolean b => "boolean " ++ ticked (toString b)
  | .moment | .table .. => "map"
  | .array _ | .tables _ => "sequence"

namespace Overrides

/-- A suffix that a document sets. -/
def readSuffix : Value → Except SettingError String
  | .text s => .ok s
  | other => .error (.invalidType (describe other) "a string")

/-- The refusal of a key beside the two settings. -/
def unknownSuffix (name : String) : SettingError :=
  .unknownField name [SuffixKey.management.text, SuffixKey.note.text]

/-- One setting of the table. -/
def readEntry (o : Overrides) (e : String × Value) : Except SettingError Overrides :=
  if e.1 = SuffixKey.management.text then do return { o with management := ← readSuffix e.2 }
  else if e.1 = SuffixKey.note.text then do return { o with note := ← readSuffix e.2 }
  else .error (unknownSuffix e.1)

/-- The two settings in an array. -/
def readSequence : List Value → Except SettingError Overrides
  | [] => .error (.invalidLength 0)
  | [first] => do
    let _ ← readSuffix first
    .error (.invalidLength 1)
  | first :: second :: _ => do
    return ⟨some (← readSuffix first), some (← readSuffix second)⟩

/-- The key under which a date or a time counts as a table. -/
def momentKey : String := "$__toml_private_datetime"

/-- The value of the one key that a rules file may have. -/
def readSidecars : Value → Except SettingError Overrides
  | .table _ entries => entries.foldlM readEntry {}
  | .array items | .tables items => readSequence items
  | .moment => .error (unknownSuffix momentKey)
  | other => .error (.invalidType (describe other) sidecarsTable)

/-- One setting of the document. -/
def readTop (_ : Overrides) (e : String × Value) : Except SettingError Overrides :=
  if e.1 = "sidecars" then readSidecars e.2 else .error (.unknownField e.1 ["sidecars"])

/-- **The overrides of a document.** -/
def ofEntries (entries : Entries) : Except SettingError Overrides := entries.foldlM readTop {}

end Overrides

/-- **Why a text gives no overrides**: it is no document, or its settings are refused. -/
inductive Refused where
  | malformed
  | setting (cause : SettingError)
  deriving DecidableEq, Repr

namespace Refused

/-- What is wrong, in short. -/
def summary : Refused → String
  | .malformed => "syntax"
  | .setting cause => cause.message

/-- How a refused text is reported. -/
def message (r : Refused) : String := "TOML parse error: " ++ r.summary

end Refused

/-- **The overrides of a text.** -/
def Overrides.ofText (text : String) : Except Refused Overrides :=
  match Document.read text with
  | none => .error .malformed
  | some entries => (ofEntries entries).mapError .setting

/-- **Why no suffixes could be loaded.** -/
inductive RulesError where
  | unreadable (file : Path) (reason : String)
  | refused (file : Path) (cause : Refused)
  | suffix (cause : SuffixError)
  deriving DecidableEq, Repr

/-- How failed loading is reported, with `shown` for the text of a refused document. -/
def RulesError.report (shown : Refused → String) : RulesError → Report
  | .unreadable file reason => ⟨"Failed to read config file " ++ file.text, [reason]⟩
  | .refused file cause =>
    ⟨"Invalid config file " ++ file.text, ["Failed to parse reclaim TOML", shown cause]⟩
  | .suffix cause => .ofCause cause.message

/-- The reason why bytes are no text. -/
def notText : String := "stream did not contain valid UTF-8"

namespace Suffixes

/-- **The rules file that is shipped.** It sets both suffixes, to the standard ones. -/
def shipped : String :=
  "# Sidecar naming rules for a database footprint.\n" ++
  "#\n" ++
  "# The management directory lives next to the primary file and is named\n" ++
  "# `<logical name><management_suffix>`. The notification file is named\n" ++
  "# `<primary path><note_suffix>`.\n" ++
  "\n" ++
  "[sidecars]\n" ++
  "management_suffix = \".management\"\n" ++
  "note_suffix = \".note\"\n"

/-- Overrides from what a file was found to hold. -/
def overridesOf (file : Path) (contents : Except String (List UInt8)) :
    Except RulesError Overrides :=
  match contents with
  | .error reason => .error (.unreadable file reason)
  | .ok bytes =>
    match Text.decode? bytes with
    | none => .error (.unreadable file notText)
    | some text => (Overrides.ofText text).mapError (.refused file)

/-- **Loads the suffixes**: the standard ones, overridden by a file if there is one, and checked. -/
def load (source : Option (Path × Except String (List UInt8))) : Except RulesError Suffixes := do
  let overrides ←
    match source with
    | none => .ok {}
    | some (file, contents) => overridesOf file contents
  let suffixes := standard.overlay overrides
  suffixes.check.mapError .suffix
  return suffixes

end Suffixes

end Reclaim
