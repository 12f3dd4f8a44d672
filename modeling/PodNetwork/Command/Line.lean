import PodNetwork.Command.Usage
import PodNetwork.Text.Blank

/-! Reading command lines.

Options of the program come before the command, options of the command after it. An option that
takes a value has it attached or in the next argument, which then is no option itself. Faults are
told in the order in which they are come across, and what follows a command is read before the
last option in front of it is looked at. -/
namespace PodNetwork

abbrev Environment := String → Option String

structure HostOptions where
  projectRoot : String := "."
  engine : EnginePreference := .auto
  deriving DecidableEq, Repr, Inhabited

inductive Command where
  | install (cluster ovnGitRef apiServer : Option String)
  | redeploy (cluster : Option String)
  | build (image ovnGitRef : Option String) (push : Bool)
  deriving DecidableEq, Repr, Inhabited

structure CommandLine where
  config : String := "config.yaml"
  command : Command
  host : HostOptions := {}
  deriving DecidableEq, Repr, Inhabited

namespace Usage

/-- The options read so far: those that are set, and one that still waits for its value or is not
yet looked at. -/
structure Reading where
  given : List (Field × String) := []
  pending : Option (Field × Option String) := none
  deriving DecidableEq, Repr, Inhabited

namespace Reading

def has (r : Reading) (field : Field) : Bool := r.given.any fun g => g.1 = field

def assign (r : Reading) (field : Field) (value : String) : Except UsageError Reading :=
  if r.has field then .error .conflict
  else (field.check value).map fun _ => { r with given := r.given ++ [(field, value)] }

def settle (r : Reading) : Except UsageError Reading :=
  match r.pending with
  | none => .ok r
  | some (_, none) => .error .invalidValue
  | some (field, some value) => assign { r with pending := none } field value

def awaits (r : Reading) : Bool := r.pending.any fun p => p.2.isNone

/-- Takes an option, with the value attached to it if there is one. -/
def takeOption (r : Reading) (field : Field) (value : Option String) :
    Except UsageError Reading :=
  if field.takesValue then
    r.settle.bind fun r =>
      match value with
      | some value => r.assign field value
      | none => .ok { r with pending := some (field, none) }
  else if value.isSome then .error .tooManyValues
  else r.settle.bind fun r =>
    match field with
    | .help => .error .help
    | .version => .error .version
    | field => r.assign field "true"

def takeLong (r : Reading) (verb : Option Verb) (body : List Char) : Except UsageError Reading :=
  let (name, value) := match Text.cutAt? '=' body with
    | some (name, value) => (name, some (String.ofList value))
    | none => (body, none)
  match (fields verb).find? fun f => f.long.toList = name with
  | none => .error .unknownArgument
  | some field => r.takeOption field value

/-- Takes options by their letters. The value of an option may follow its letter. -/
def takeShort (verb : Option Verb) : List Char → Reading → Except UsageError Reading
  | [], r => .ok r
  | c :: rest, r =>
    match (fields verb).find? fun f => f.short? = some c with
    | none => .error .unknownArgument
    | some field =>
      if field.takesValue then
        r.takeOption field <| match rest with
          | [] => none
          | '=' :: value => some (.ofList value)
          | value => some (.ofList value)
      else (r.takeOption field none).bind (takeShort verb rest)

end Reading

def helpWord : String := "help"

def helpOn : List String → UsageError
  | [] => .help
  | [s] => if s = helpWord || (Verb.ofName? s).isSome then .help else .unknownCommand
  | _ => .unknownCommand

def misplaced : Option Verb → UsageError
  | none => .unknownCommand
  | some _ => .unknownArgument

/-- Reads what follows the mark after which there are no options. -/
def readTrailing (verb : Option Verb) : List String → Except UsageError Unit
  | [] => .ok ()
  | s :: _ =>
    if s = helpWord || (Verb.ofName? s).isSome then .error .unknownArgument
    else .error (misplaced verb)

/-- Reads the arguments of the program up to a command, or those of a command. -/
def read (verb : Option Verb) : List String → Reading →
    Except UsageError (Reading × Option (Verb × List String))
  | [], r => .ok (r, none)
  | arg :: rest, r =>
    let command := if verb.isNone && !r.awaits then Verb.ofName? arg else none
    match command with
    | some command => .ok (r, some (command, rest))
    | none =>
      if verb.isNone && !r.awaits && arg = helpWord then .error (helpOn rest)
      else match arg.toList with
        | ['-', '-'] => (readTrailing verb rest).map fun _ => (r, none)
        | '-' :: '-' :: body => (r.takeLong verb body).bind (read verb rest)
        | '-' :: c :: body => (Reading.takeShort verb (c :: body) r).bind (read verb rest)
        | _ =>
          match r.pending with
          | some (field, none) => read verb rest { r with pending := some (field, some arg) }
          | _ => .error (misplaced verb)

def fromEnvironment (env : Environment) (verb : Option Verb) (r : Reading) :
    Except UsageError (List (Field × String)) := do
  let free := (fields verb).filter fun f => !r.has f
  let found := free.filterMap fun f => (f.setBy?.bind env).map (f, ·)
  found.forM fun (f, value) => f.check value
  return found

def value? (settings : List (Field × String)) (field : Field) : Option String :=
  (settings.find? fun s => s.1 = field).map Prod.snd

def commandOf (settings : List (Field × String)) : Verb → Command
  | .install => .install (value? settings .cluster) (value? settings .ovnGitRef)
      (value? settings .apiServer)
  | .redeploy => .redeploy (value? settings .cluster)
  | .build => .build (value? settings .image) (value? settings .ovnGitRef)
      (value? settings .push).isSome

def hostOf (settings : List (Field × String)) : HostOptions :=
  let engine := (value? settings .engine).bind fun s => (EnginePreference.parse s).toOption
  ⟨(value? settings .projectRoot).getD ({} : HostOptions).projectRoot, engine.getD .auto⟩

end Usage

namespace CommandLine

open Usage

/-- Reads a command line whose first argument is the name of the program. A setting that comes
after the command counts more than one before it, and both more than the environment. -/
def parse (env : Environment) (args : List String) : Except UsageError CommandLine := do
  let (outer, command) ← read none (args.drop 1) {}
  match command with
  | none =>
    let outer ← outer.settle
    let found ← fromEnvironment env none outer
    throw (if outer.given.isEmpty && found.isEmpty then .nothingAsked else .missingCommand)
  | some (verb, rest) =>
    let (inner, _) ← read (some verb) rest {}
    let inner ← inner.settle
    let found ← fromEnvironment env (some verb) inner
    let outer ← outer.settle
    let _ ← fromEnvironment env none outer
    let settings := inner.given ++ outer.given ++ found
    return {
      config := (value? settings .config).getD "config.yaml"
      command := commandOf settings verb
      host := hostOf settings }

end CommandLine
end PodNetwork
