import Reclaim.Filesystem
import Reclaim.Store

/-!
# A store with a script

A store that answers the five calls, and a **script** of what goes wrong meanwhile.

* A **failure** makes every call of a kind on a path fail with a reason, until it is forgotten.
* A **listing** is answered for a directory in place of its children.
* A **hook** changes the store once, when a call of a kind is made on a path: it takes nodes away,
  then puts nodes in. Several hooks on one call act in the order in which they were set.

On each call the hooks act first; then a failure decides; then the listing, or the store itself.
-/

namespace Reclaim

/-- **A hook**: a change to the store that waits for a call. -/
structure Hook where
  call : CallKind
  path : Path
  drops : List Path
  puts : List (Path × Node)
  deriving Repr

/-- Whether a hook waits for this call. -/
def Hook.awaits (h : Hook) (call : CallKind) (path : Path) : Bool := h.call = call && h.path = path

/-- What a hook makes of a store. -/
def Hook.apply (h : Hook) (s : Store) : Store := (s.eraseAll h.drops).insertAll h.puts

/-- **A script.** -/
structure Script where
  failures : Keyed (CallKind × Path) String
  listings : Keyed Path (List Path)
  hooks : List Hook

/-- The script in which nothing goes wrong. -/
def Script.empty : Script := ⟨.empty, .empty, []⟩

/-- **A store with its script.** -/
structure ScriptedStore where
  store : Store
  script : Script

namespace ScriptedStore

/-- A store in which nothing goes wrong. -/
def ofStore (s : Store) : ScriptedStore := ⟨s, .empty⟩

/-- Changes the store. -/
def change (s : ScriptedStore) (f : Store → Store) : ScriptedStore := { s with store := f s.store }

/-- Sets a failure, in place of any for the same call on the same path. -/
def setFailure (s : ScriptedStore) (call : CallKind) (path : Path) (reason : String) :
    ScriptedStore :=
  { s with script := { s.script with failures := s.script.failures.insert (call, path) reason } }

/-- Sets the listing of a directory. -/
def setListing (s : ScriptedStore) (path : Path) (children : List Path) : ScriptedStore :=
  { s with script := { s.script with listings := s.script.listings.insert path children } }

/-- Sets one more hook. -/
def setHook (s : ScriptedStore) (h : Hook) : ScriptedStore :=
  { s with script := { s.script with hooks := s.script.hooks ++ [h] } }

/-- Forgets the script. -/
def clear (s : ScriptedStore) : ScriptedStore := { s with script := .empty }

/-- **The hooks of a call act**, in order, and are gone. -/
def fire (s : ScriptedStore) (call : CallKind) (path : Path) : ScriptedStore :=
  let due := s.script.hooks.filter fun h => h.awaits call path
  let later := s.script.hooks.filter fun h => !h.awaits call path
  ⟨due.foldl (fun store h => h.apply store) s.store, { s.script with hooks := later }⟩

/-- The reason for which a call is to fail. -/
def failure? (s : ScriptedStore) (call : CallKind) (path : Path) : Option String :=
  s.script.failures.get? (call, path)

/-- A call that changes the store unless it is refused. -/
def changing (s : ScriptedStore) (answer : Except Store.Refusal Store) :
    Except String Unit × ScriptedStore :=
  match answer with
  | .ok store => (.ok (), { s with store := store })
  | .error refusal => (.error refusal.message, s)

/-- **A scripted store as a filesystem.** -/
def filesystem : Filesystem (StateM ScriptedStore) where
  present path := fun before =>
    let s := before.fire .present path
    match s.failure? .present path with
    | some _ => (false, s)
    | none => (s.store.contains path, s)
  children path := fun before =>
    let s := before.fire .children path
    match s.failure? .children path with
    | some reason => (.error reason, s)
    | none =>
      match s.script.listings.get? path with
      | some children => (.ok children, s)
      | none => ((s.store.list path).mapError Store.Refusal.message, s)
  removeFile path := fun before =>
    let s := before.fire .removeFile path
    match s.failure? .removeFile path with
    | some reason => (.error reason, s)
    | none => s.changing (s.store.deleteFile path)
  removeEmptyDirectory path := fun before =>
    let s := before.fire .removeEmptyDirectory path
    match s.failure? .removeEmptyDirectory path with
    | some reason => (.error reason, s)
    | none => s.changing (s.store.deleteEmpty path)
  fileSize path := fun before =>
    let s := before.fire .fileSize path
    match s.failure? .fileSize path with
    | some _ => (none, s)
    | none => (s.store.sizeOf? path, s)

end ScriptedStore

end Reclaim
