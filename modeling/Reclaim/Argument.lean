/-!
# Required arguments

Two checks that come before any work is done: a text that must not be empty, and a value that must
be there. Either failure names the parameter, not the value.
-/

namespace Reclaim

/-- **A rejected argument**, by the name of its parameter. -/
inductive ArgumentError where
  | empty (parameter : String)
  | missing (parameter : String)
  deriving DecidableEq, Repr

namespace ArgumentError

/-- How a rejected argument is reported. -/
def message : ArgumentError → String
  | .empty parameter => "Non-empty '" ++ parameter ++ "' required."
  | .missing parameter => "Nonnull '" ++ parameter ++ "' required."

end ArgumentError

/-- Refuses an empty text. Blanks count as content. -/
def requireNonempty (value parameter : String) : Except ArgumentError Unit :=
  if value.isEmpty then .error (.empty parameter) else .ok ()

/-- Refuses a value that is not there. -/
def requirePresent {α : Type} (value : Option α) (parameter : String) : Except ArgumentError α :=
  match value with
  | some v => .ok v
  | none => .error (.missing parameter)

end Reclaim
