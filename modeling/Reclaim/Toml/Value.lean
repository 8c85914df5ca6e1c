import Reclaim.Number.Binary64

/-!
# Values of a document

What the right-hand side of a setting can be, and what a document is made of. A table remembers how
it came to be, since that decides what may still be added to it.

The keys of a table keep the order in which they were first written. A date or a time is kept only
as the fact that there is one: nothing here asks which.
-/

namespace Reclaim.Toml

/-- **How a table came to be.** -/
inductive TableStyle where
  /-- Named in a header of its own, or the document itself. -/
  | headed
  /-- On the way to a table named in a header. -/
  | implied
  /-- On the way to a setting whose key has dots. -/
  | dotted
  /-- Written in braces. -/
  | inline
  deriving DecidableEq, Repr

/-- **A value.** -/
inductive Value where
  | text (s : String)
  | integer (n : Int)
  | float (x : Number.Binary64)
  | boolean (b : Bool)
  | moment
  | array (items : List Value)
  | table (style : TableStyle) (entries : List (String × Value))
  /-- Tables named one after the other in double-bracketed headers. -/
  | tables (items : List Value)
  deriving Repr

/-- The settings of a table, in order. -/
abbrev Entries := List (String × Value)

namespace Entries

/-- The value of a key. -/
def get? (es : Entries) (key : String) : Option Value :=
  (es.find? fun e => e.1 = key).map Prod.snd

/-- The settings with another value for a key that is there. -/
def replace (es : Entries) (key : String) (value : Value) : Entries :=
  es.map fun e => if e.1 = key then (key, value) else e

/-- The settings with one more at the end. -/
def append (es : Entries) (key : String) (value : Value) : Entries := es ++ [(key, value)]

/-- The settings without a key. -/
def erase (es : Entries) (key : String) : Entries := es.filter fun e => e.1 ≠ key

end Entries

end Reclaim.Toml
