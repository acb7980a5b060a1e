import SandboxImage.Text.Utf8
import SandboxImage.Text.Numeral

/-!
# Arguments

The arguments of the program name what to do, with settings in front of it and behind it. A setting
takes a value, as the next argument or joined to it; it may be given once in front and once behind,
and the one behind wins. Requests for help and for the version are answered where they are met.
-/

namespace SandboxImage.CommandLine

/-- What the program can be asked for. -/
inductive Command where
  | build
  | verify
  | render
  deriving DecidableEq, Repr

/-- The name of a command. -/
def Command.name : Command → String
  | .build => "build"
  | .verify => "verify"
  | .render => "render"

/-- All commands. -/
def Command.all : List Command := [.build, .verify, .render]

/-- The command with a name. -/
def Command.named? (argument : Bytes) : Option Command :=
  Command.all.find? fun c => Text.encode c.name == argument

/-- A setting that takes a value. -/
inductive Setting where
  | file
  | url
  | imageName
  | cpus
  | memoryMb
  deriving DecidableEq, Repr

/-- The name of a setting. -/
def Setting.name : Setting → String
  | .file => "file"
  | .url => "url"
  | .imageName => "alias"
  | .cpus => "cpus"
  | .memoryMb => "memory-mb"

/-- Where an argument stands: in front of the command, or behind it. -/
abbrev Section := Option Command

/-- The settings that a section knows. -/
def settings : Section → List Setting
  | some .build => [.file, .url, .imageName, .cpus, .memoryMb]
  | some .verify => [.file, .url, .imageName]
  | some .render | none => [.file, .url]

/-- The name of the program. -/
def programName : String := "sandbox-template"

/-- The version of the program. -/
def versionNumber : String := "0.1.0"

/-- The line that names the version, as a section gives it. -/
def versionLine : Section → String
  | none => programName ++ " " ++ versionNumber
  | some c => programName ++ "-" ++ c.name ++ " " ++ versionNumber

/-- Why nothing is run. -/
inductive Refusal where
  | usage
  | help
  | version (line : String)
  deriving DecidableEq, Repr

/-- What a section has been given so far. -/
structure Given where
  /-- The settings, the latest first; a value may be missing. -/
  values : List (Setting × Option Bytes) := []
  /-- The latest setting takes the next argument. -/
  waiting : Bool := false
  /-- How often failed checks are asked to fail a run. -/
  strict : Nat := 0
  /-- No settings can follow. -/
  closed : Bool := false

namespace Given

/-- Notes a setting; an empty value that is joined to it is a value. -/
def set (g : Given) (s : Setting) (value : Option Bytes) : Given :=
  { g with values := (s, value) :: g.values, waiting := value.isNone }

/-- Gives a value to the latest setting. -/
def supply (g : Given) (value : Bytes) : Given :=
  match g.values with
  | (s, _) :: rest => { g with values := (s, some value) :: rest, waiting := false }
  | [] => g

/-- The value of a setting. -/
def value? (g : Given) (s : Setting) : Option Bytes := (g.values.lookup s).join

/-- Nothing is given twice, and every setting has its value. -/
def isComplete (g : Given) : Bool :=
  (g.values.map Prod.fst).eraseDups.length == g.values.length &&
    g.values.all (·.2.isSome) && g.strict ≤ 1

end Given

/-- The byte of a hyphen. -/
def hyphen : UInt8 := 0x2D

/-- The byte of an equals sign. -/
def equalsSign : UInt8 := 0x3D

/-- Reads a name behind hyphens, with the value that an equals sign joins to it. A flag takes no
heed of a value. -/
def readLong (s : Section) (g : Given) (argument : Bytes) : Except Refusal Given :=
  let body := argument.dropWhile (· == hyphen)
  let name := body.takeWhile (· != equalsSign)
  let value := if argument.contains equalsSign
    then some ((body.dropWhile (· != equalsSign)).dropWhile (· == equalsSign)) else none
  match (settings s).find? fun x => Text.encode x.name == name with
  | some x => .ok (g.set x value)
  | none =>
    if name == Text.encode "help" then .error .help
    else if name == Text.encode "version" then .error (.version (versionLine s))
    else if s == some .verify && name == Text.encode "strict" then
      .ok { g with strict := g.strict + 1, waiting := false }
    else .error .usage

/-- Reads a letter behind a hyphen, with the value that follows in the same argument. -/
def readShort (s : Section) (g : Given) (argument : Bytes) : Except Refusal Given :=
  match argument.dropWhile (· == hyphen) with
  | 0x66 :: value =>
    .ok (g.set .file (if value.isEmpty then none else some (value.dropWhile (· == equalsSign))))
  | 0x68 :: _ => .error .help
  | 0x56 :: _ => .error (.version (versionLine s))
  | _ => .error .usage

/-- What is asked for by the word for help, given what follows it. -/
def readHelp (rest : List Bytes) : Refusal :=
  match rest with
  | [] => .help
  | [a] => if a == Text.encode "help" || (Command.named? a).isSome then .help else .usage
  | _ => .usage

/-- Reads the arguments of a section: what it was given, and the command with what follows it. -/
def readSection (s : Section) (g : Given) :
    List Bytes → Except Refusal (Given × Option (Command × List Bytes))
  | [] => .ok (g, none)
  | argument :: rest =>
    if g.closed then .error .usage
    else if argument == [hyphen, hyphen] then readSection s { g with closed := true } rest
    else if s.isNone && !g.waiting && argument == Text.encode "help" then .error (readHelp rest)
    else
      match if s.isNone && !g.waiting then Command.named? argument else none with
      | some c => .ok (g, some (c, rest))
      | none =>
        if argument.take 2 == [hyphen, hyphen] then do
          readSection s (← readLong s g argument) rest
        else if argument.head? == some hyphen && argument != [hyphen] then do
          readSection s (← readShort s g argument) rest
        else if g.waiting then readSection s (g.supply argument) rest
        else .error .usage

/-- What the program is to do. -/
inductive Task where
  | build (name : Option String) (cpus : Option UInt32) (memoryMb : Option UInt64)
  | verify (name : Option String) (strict : Bool)
  | render
  deriving DecidableEq

/-- What the arguments ask for. -/
structure Request where
  file : Option Bytes := none
  url : Option String := none
  task : Task
  deriving DecidableEq

/-- A value that is read if it is given; one that cannot be read is refused. -/
def readValue {α : Type} (read? : Bytes → Option α) : Option Bytes → Except Refusal (Option α)
  | none => .ok none
  | some v =>
    match read? v with
    | some a => .ok (some a)
    | none => .error .usage

/-- A number without sign up to a limit. -/
def number? (limit : Nat) (v : Bytes) : Option Nat :=
  (Text.decode? v).bind fun t => Text.readUnsigned? 10 limit t.toList

/-- What a command is to do, with the settings behind it. -/
def taskOf (c : Command) (g : Given) : Except Refusal Task := do
  let name ← readValue Text.decode? (g.value? .imageName)
  match c with
  | .build =>
    let cpus ← readValue (number? (Text.maxUnsigned 32)) (g.value? .cpus)
    let memoryMb ← readValue (number? (Text.maxUnsigned 64)) (g.value? .memoryMb)
    return .build name (cpus.map Nat.toUInt32) (memoryMb.map Nat.toUInt64)
  | .verify => return .verify name (0 < g.strict)
  | .render => return .render

/-- Reads all arguments. -/
def Request.ofArguments (arguments : List Bytes) : Except Refusal Request := do
  match ← readSection none {} arguments with
  | (_, none) => .error .usage
  | (front, some (c, rest)) =>
    let (behind, _) ← readSection (some c) {} rest
    if !front.isComplete || !behind.isComplete then .error .usage
    else
      let task ← taskOf c behind
      let url ← readValue Text.decode? ((behind.value? .url).or (front.value? .url))
      return { file := (behind.value? .file).or (front.value? .file), url, task }

end SandboxImage.CommandLine
