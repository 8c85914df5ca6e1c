import Reclaim.Text.Quoted

/-!
# Log lines

An **event** has a level, a message and named fields. A **filter** lets events through down to a
level, or none at all. An event that passes becomes one line: the level in a column of five
characters, the message, and each field as a name, a sign and a value.

In colour, the level is painted by its own colour, names are slanted and signs are dim. A message is
shown without the characters that a terminal would obey: they are spelled out.
-/

namespace Reclaim.Log

/-- **The levels**, from the gravest. -/
inductive Level where
  | error
  | warn
  | info
  | debug
  | trace
  deriving DecidableEq, Repr

namespace Level

/-- How far down a level is. -/
def depth : Level → Nat
  | .error => 1
  | .warn => 2
  | .info => 3
  | .debug => 4
  | .trace => 5

/-- A level in its column. -/
def column : Level → String
  | .error => "ERROR"
  | .warn => " WARN"
  | .info => " INFO"
  | .debug => "DEBUG"
  | .trace => "TRACE"

/-- The colour of a level. -/
def paint : Level → String
  | .error => "31"
  | .warn => "33"
  | .info => "32"
  | .debug => "34"
  | .trace => "35"

/-- The level of a name, in letters of either case. -/
def ofName? (name : String) : Option Level :=
  [("error", error), ("warn", warn), ("info", info), ("debug", debug), ("trace", trace)].lookup
    name.toLower

end Level

/-- **A filter**: the lowest level that passes, if any does. -/
structure Filter where
  lowest : Option Level
  deriving DecidableEq, Repr

namespace Filter

/-- Whether an event of a level passes. -/
def passes (f : Filter) (level : Level) : Bool :=
  match f.lowest with
  | none => false
  | some lowest => level.depth ≤ lowest.depth

/-- The filter of a level's name, or of the name for none. -/
def ofLevel? (name : String) : Option Filter :=
  if name.toLower = "off" then some ⟨none⟩ else (Level.ofName? name).map fun l => ⟨some l⟩

/-- **The filter that a text asks for**: a level for all, or a level for one program, which for any
other lets nothing pass. An empty text asks for errors alone. -/
def ofText? (program text : String) : Option Filter :=
  if text.isEmpty then some ⟨some .error⟩
  else match text.splitOn "=" with
    | [level] => ofLevel? level
    | [target, level] => (ofLevel? level).map fun f => if target = program then f else ⟨none⟩
    | _ => none

end Filter

/-- **An event.** -/
structure Event where
  level : Level
  message : String
  fields : List (String × String) := []
  deriving DecidableEq, Repr

/-- A text between a terminal's code and the code that ends it. -/
def painted (colored : Bool) (code s : String) : String :=
  if colored then "\x1b[" ++ code ++ "m" ++ s ++ "\x1b[0m" else s

/-- The code points that a terminal may obey. -/
def obeyed (c : Char) : Bool :=
  c = '\x1b' || c = '\x07' || c = '\x08' || c = '\x0c' || (0x7f ≤ c.toNat && c.toNat ≤ 0x9f)

/-- A character that a terminal may obey, spelled out. -/
def spelledOut (c : Char) : List Char :=
  let digits := Nat.toDigits 16 c.toNat
  if c.toNat < 0x80 then ['\\', 'x'] ++ List.replicate (2 - digits.length) '0' ++ digits
  else Text.numbered c

/-- A message as it is shown. -/
def shown (message : String) : String :=
  String.ofList (message.toList.flatMap fun c => if obeyed c then spelledOut c else [c])

/-- A field behind a message. -/
def field (colored : Bool) (f : String × String) : String :=
  " " ++ painted colored "3" f.1 ++ painted colored "2" "=" ++ f.2

/-- **The line of an event.** -/
def Event.line (colored : Bool) (e : Event) : String :=
  painted colored e.level.paint e.level.column ++ " " ++ shown e.message ++
    String.join (e.fields.map (field colored)) ++ "\n"

end Reclaim.Log
