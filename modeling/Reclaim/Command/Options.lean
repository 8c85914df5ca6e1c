import Reclaim.Path.Basic

/-!
# Options of the command

What the arguments of the command ask for. They are read from left to right, and the first that
settles the matter does: a request for the version or for help, or a misuse. Otherwise there has to
be a path at the end.

An option with a value takes it from the same argument, after a sign or, for a short option,
directly, or else from the next one, which then must not look like an option. Short options without
a value may share a hyphen. After `--` all arguments are paths. No option is given twice.

Arguments are byte strings, and a path may be any that is not empty. Only a logical name has to be a text.
-/

namespace Reclaim

/-- Arguments that are given as texts. -/
def words (texts : List String) : List (List UInt8) := texts.map Text.encode

/-- **The options.** -/
structure Options where
  /-- The primary files to reclaim, in the order given. -/
  paths : List Path := []
  /-- Where the management directory stands. -/
  root : Option Path := none
  /-- What the management directory is named after. -/
  name : Option String := none
  /-- A rules file. -/
  config : Option Path := none
  dryRun : Bool := false
  verbose : Bool := false
  deriving DecidableEq, Repr

/-- The options with a value. -/
inductive Setting where
  | root
  | name
  | config
  deriving DecidableEq, Repr

/-- The options without one. -/
inductive Flag where
  | dryRun
  | verbose
  deriving DecidableEq, Repr

/-- What an option's name stands for. -/
inductive Switch where
  | setting (s : Setting)
  | flag (f : Flag)
  | version
  | help
  deriving DecidableEq, Repr

/-- **How arguments are misused.** -/
inductive Misuse where
  | unknown (argument : String)
  | repeated (option : String)
  | missingValue (option : String)
  | unwantedValue (option value : String)
  | emptyValue (option : String)
  | notText
  | noPath
  deriving DecidableEq, Repr

/-- How a misuse is reported. -/
def Misuse.message : Misuse → String
  | .unknown argument => "unexpected argument '" ++ argument ++ "' found"
  | .repeated option => "the argument '" ++ option ++ "' cannot be used multiple times"
  | .missingValue option => "a value is required for '" ++ option ++ "' but none was supplied"
  | .unwantedValue option value => "unexpected value '" ++ value ++ "' for '" ++ option ++ "' found"
  | .emptyValue option => "a value is required for '" ++ option ++ "' but none was supplied"
  | .notText => "invalid UTF-8 was detected in one or more arguments"
  | .noPath => "the following required arguments were not provided: <PATHS>..."

/-- **What ends the reading of arguments early.** -/
inductive Ending where
  | version
  | help
  | misuse (m : Misuse)
  deriving DecidableEq, Repr

/-- The name of an option with a value, for messages. -/
def Setting.text : Setting → String
  | .root => "--root"
  | .name => "--name"
  | .config => "--config"

/-- The name of an option without one. -/
def Flag.text : Flag → String
  | .dryRun => "--dry-run"
  | .verbose => "--verbose"

/-- The options by their long names. -/
def longSwitch? (name : List UInt8) : Option Switch :=
  [(Text.encode "root", Switch.setting .root), (Text.encode "name", .setting .name),
    (Text.encode "config", .setting .config), (Text.encode "dry-run", .flag .dryRun),
    (Text.encode "verbose", .flag .verbose), (Text.encode "version", .version),
    (Text.encode "help", .help)].lookup name

/-- The options by their short names. -/
def shortSwitch? (letter : UInt8) : Option Switch :=
  [('c'.toUInt8, Switch.setting .config), ('v'.toUInt8, .flag .verbose), ('V'.toUInt8, .version),
    ('h'.toUInt8, .help)].lookup letter

/-- The byte that options begin with. -/
def hyphen : UInt8 := 0x2D

/-- The byte between an option and its value. -/
def equals : UInt8 := 0x3D

/-- **What an argument looks like**, by the hyphens it begins with. -/
inductive Shape where
  /-- Two hyphens alone: only paths come behind. -/
  | separator
  | long (argument : List UInt8)
  | short (letters : List UInt8)
  /-- No option. A lone hyphen is none either. -/
  | plain
  deriving DecidableEq, Repr

/-- What is behind a hyphen. -/
def afterHyphen? : List UInt8 → Option (List UInt8)
  | [] => none
  | b :: rest => if b = hyphen then some rest else none

/-- The shape of an argument. -/
def shape (argument : List UInt8) : Shape :=
  match afterHyphen? argument with
  | none => .plain
  | some rest =>
    match afterHyphen? rest with
    | none => if rest.isEmpty then .plain else .short rest
    | some long => if long.isEmpty then .separator else .long long

/-- The character that short options go on with, for messages. Bytes that are none are shown with all behind
them. -/
def shownLetter (letters : List UInt8) : String :=
  match (Text.lossy letters).toList with
  | [] => ""
  | c :: others => String.ofList (if c = Text.replacement then c :: others else [c])

namespace Options

/-- A path that an argument gives. -/
def pathOf (option : String) (value : List UInt8) : Except Ending Path :=
  if value.isEmpty then .error (.misuse (.emptyValue option)) else .ok ⟨value⟩

/-- A text that an argument gives. -/
def textOf (value : List UInt8) : Except Ending String :=
  match Text.decode? value with
  | some text => .ok text
  | none => .error (.misuse .notText)

/-- One more path to reclaim. -/
def addPath (o : Options) (argument : List UInt8) : Except Ending Options := do
  return { o with paths := o.paths ++ [← pathOf "<PATHS>..." argument] }

/-- Sets an option with a value. -/
def set (o : Options) (s : Setting) (value : List UInt8) : Except Ending Options := do
  let taken := match s with
    | .root => o.root.isSome
    | .name => o.name.isSome
    | .config => o.config.isSome
  if taken then .error (.misuse (.repeated s.text))
  else match s with
    | .root => return { o with root := some (← pathOf s.text value) }
    | .name => return { o with name := some (← textOf value) }
    | .config => return { o with config := some (← pathOf s.text value) }

/-- Sets an option without a value. -/
def raise (o : Options) (f : Flag) : Except Ending Options :=
  let taken := match f with
    | .dryRun => o.dryRun
    | .verbose => o.verbose
  if taken then .error (.misuse (.repeated f.text))
  else match f with
    | .dryRun => .ok { o with dryRun := true }
    | .verbose => .ok { o with verbose := true }

/-- The options so far, and the option that still waits for its value. -/
abbrev Reading := Options × Option Setting

/-- A long option, without its hyphens. -/
def readLong (o : Options) (argument : List UInt8) : Except Ending Reading :=
  let name := argument.takeWhile (· ≠ equals)
  let shown := "--" ++ Text.lossy name
  match longSwitch? name, (argument.dropWhile (· ≠ equals)).tail? with
  | none, _ => .error (.misuse (.unknown shown))
  | some (.setting s), some value => do return (← o.set s value, none)
  | some (.setting s), none => .ok (o, some s)
  | some (.flag f), none => do return (← o.raise f, none)
  | some .version, none => .error .version
  | some .help, none => .error .help
  | some (.flag _), some value | some .version, some value | some .help, some value =>
    .error (.misuse (.unwantedValue shown (Text.lossy value)))

/-- Short options that share a hyphen. -/
def readShort (o : Options) : List UInt8 → Except Ending Reading
  | [] => .ok (o, none)
  | letter :: rest =>
    match shortSwitch? letter with
    | none => .error (.misuse (.unknown ("-" ++ shownLetter (letter :: rest))))
    | some .version => .error .version
    | some .help => .error .help
    | some (.flag f) => do readShort (← o.raise f) rest
    | some (.setting s) =>
      match rest with
      | [] => .ok (o, some s)
      | sign :: value => do return (← o.set s (if sign = equals then value else rest), none)

/-- At the end of the arguments there has to be a path. -/
def closed (o : Options) : Except Ending Options :=
  if o.paths.isEmpty then .error (.misuse .noPath) else .ok o

/-- Reads the arguments after some options; one of these may wait for its value. -/
def readFrom (o : Options) : Option Setting → List (List UInt8) → Except Ending Options
  | none, [] => o.closed
  | some s, [] => .error (.misuse (.missingValue s.text))
  | some s, argument :: rest =>
    if shape argument = .plain then do readFrom (← o.set s argument) none rest
    else .error (.misuse (.missingValue s.text))
  | none, argument :: rest =>
    match shape argument with
    | .separator => do (← rest.foldlM addPath o).closed
    | .long long => do
      let (o, waiting) ← o.readLong long
      readFrom o waiting rest
    | .short letters => do
      let (o, waiting) ← o.readShort letters
      readFrom o waiting rest
    | .plain => do readFrom (← o.addPath argument) none rest

/-- **The options that arguments give.** -/
def read (arguments : List (List UInt8)) : Except Ending Options := readFrom {} none arguments

end Options

end Reclaim
