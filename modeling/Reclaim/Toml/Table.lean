import Reclaim.Toml.Value

/-!
# How settings make tables

A key with dots leads through tables to the one that takes the setting, and makes those that are
missing. What stands on the way decides whether it may go through.

* A table in braces is closed: nothing is added to it from outside.
* A key with dots goes through tables that were only implied, and ends in one that keys with dots
  made. It never adds to a table that has a header.
* A header goes through any table that is not in braces, and through the last of several tables.
* No setting is made twice, and no table is headed twice. A header may still be put over a table
  that other headers implied: that table then moves behind all others, with what it holds.

`Builder` is a document under construction: the finished tables, and the one under the last header.
-/

namespace Reclaim.Toml

/-- The style of a table made on the way. -/
def TableStyle.onTheWay (byDots : Bool) : TableStyle := if byDots then .dotted else .implied

/-- Whether a key with dots, or else a header, may go through a table of a style. -/
def TableStyle.admits (byDots : Bool) : TableStyle → Bool
  | .inline => false
  | .headed => !byDots
  | .implied | .dotted => true

/-- **Goes down a path of keys** and changes the table at its end, making the tables that are
missing. Answers the changed settings with what the change gives. -/
def descend {α : Type} (byDots : Bool) (change : TableStyle → Entries → Option (α × Entries)) :
    List String → TableStyle → Entries → Option (α × Entries)
  | [], style, es => change style es
  | key :: path, _, es =>
    let made := TableStyle.onTheWay byDots
    match es.get? key with
    | none => do
      let (a, inner) ← descend byDots change path made []
      return (a, es.append key (.table made inner))
    | some (.table style inner) =>
      if style.admits byDots then do
        let (a, inner) ← descend byDots change path style inner
        return (a, es.replace key (.table style inner))
      else none
    | some (.tables items) =>
      match items.getLast? with
      | some (.table style inner) => do
        let (a, inner) ← descend byDots change path style inner
        return (a, es.replace key (.tables (items.dropLast ++ [.table style inner])))
      | _ => none
    | some _ => none

/-- **Makes a setting** in a table, under a key of one part or more. -/
def addSetting (es : Entries) (key : List String) (value : Value) : Option Entries := do
  let name ← key.getLast?
  let path := key.dropLast
  let change (style : TableStyle) (es : Entries) : Option (Unit × Entries) :=
    if !path.isEmpty && style ≠ .dotted then none
    else if (es.get? name).isSome then none
    else some ((), es.append name value)
  return (← descend true change path .headed es).2

/-- Makes several settings, in order. -/
def addSettings (es : Entries) (settings : List (List String × Value)) : Option Entries :=
  settings.foldlM (fun es s => addSetting es s.1 s.2) es

/-- **A document under construction.** -/
structure Builder where
  /-- The finished tables. -/
  finished : Entries := []
  /-- The settings under the last header. -/
  current : Entries := []
  /-- The key of the last header; none before the first. -/
  header : List String := []
  /-- Whether the last header had double brackets. -/
  repeated : Bool := false

namespace Builder

/-- Makes a setting under the last header. -/
def add (b : Builder) (key : List String) (value : Value) : Option Builder := do
  return { b with current := ← addSetting b.current key value }

/-- **Finishes the table under the last header**: puts it where its key says. -/
def finish (b : Builder) : Option Entries :=
  match b.header.getLast? with
  | none => some b.current
  | some name => do
    let table := Value.table .headed b.current
    let change (_ : TableStyle) (es : Entries) : Option (Unit × Entries) :=
      if b.repeated then
        match es.get? name with
        | none => some ((), es.append name (.tables [table]))
        | some (.tables items) => some ((), es.replace name (.tables (items ++ [table])))
        | some _ => none
      else some ((), es.append name table)
    return (← descend false change b.header.dropLast .headed b.finished).2

/-- **Opens the table of a header.** One that other headers implied is taken out of its place and
goes on; any other must not be there yet. -/
def openTable (b : Builder) (header : List String) : Option Builder := do
  let name ← header.getLast?
  let change (_ : TableStyle) (es : Entries) : Option (Entries × Entries) :=
    match es.get? name with
    | none => some ([], es)
    | some (.table .implied inner) => some (inner, es.erase name)
    | some _ => none
  let (inner, finished) ← descend false change header.dropLast .headed (← b.finish)
  return { finished, current := inner, header, repeated := false }

/-- **Opens one more of several tables** under the same header. -/
def openRepeated (b : Builder) (header : List String) : Option Builder := do
  let name ← header.getLast?
  let change (_ : TableStyle) (es : Entries) : Option (Unit × Entries) :=
    match es.get? name with
    | none | some (.tables _) => some ((), es)
    | some _ => none
  let (_, finished) ← descend false change header.dropLast .headed (← b.finish)
  return { finished, current := [], header, repeated := true }

end Builder

end Reclaim.Toml
