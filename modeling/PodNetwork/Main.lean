import PodNetwork.Command.Workstation

/-! The program: what the command line asks for, carried out on this machine.

Files, the environment and the clock are those of the machine. Programs and the network are not
reached from here, so commands that need them end with an error. -/
namespace PodNetwork.Main

def faultOf (e : IO.Error) : SystemFault :=
  match e with
  | .noFileOrDirectory .. => .notFound
  | .permissionDenied .. => .denied
  | .alreadyExists .. => .alreadyThere
  | .inappropriateType _ code _ => if code = 21 then .isADirectory else .notADirectory
  | e => .other (toString e)

def guarded {α : Type} (action : IO α) : IO (Except SystemFault α) := do
  match ← action.toBaseIO with
  | .ok a => return .ok a
  | .error e => return .error (faultOf e)

/-- What is at a path. A path that leads somewhere else than its own last name is a link. -/
def kindOf (path : String) : IO EntryKind := do
  let real ← IO.FS.realPath path
  let parent ← IO.FS.realPath ((Path.parent? path).getD "." ++ "/.")
  let name := ((Path.components path).getLast?).getD path
  if real.toString ≠ Path.join parent.toString name && name ≠ "/" then return .link
  let inner ← guarded (IO.FS.realPath (path ++ "/."))
  return if inner.isOk then .directory else .file

/-- Answers a request to the system. -/
def answer : (call : SystemCall) → IO call.Answer
  | .spawn .. => return .error (.other "programs cannot be run from here")
  | .isThere path => do return (← guarded (IO.FS.realPath path)).isOk
  | .kindOf path => guarded (kindOf path)
  | .readFile path => do
    return (← guarded (IO.FS.readBinFile path)).map fun content => content.data.toList
  | .writeFile path content => guarded (IO.FS.writeBinFile path ⟨content.toArray⟩)
  | .makeDirectories path => guarded (IO.FS.createDirAll path)
  | .removeFile path => guarded (IO.FS.removeFile path)
  | .removeTree path => guarded (IO.FS.removeDirAll path)
  | .print text => IO.print text
  | .pause duration => IO.sleep duration.toUInt32
  | .setting name => IO.getEnv name
  | .wire _ call => do
    if let .pause delay := call then IO.sleep delay.toUInt32
    return call.unreached

def settings : IO (List (String × String)) := do
  let fields : List Usage.Field := [.config, .ovnGitRef, .projectRoot, .engine]
  let found ← (fields.filterMap Usage.Field.setBy?).mapM fun name => do
    return (← IO.getEnv name).map (name, ·)
  return found.filterMap id

end PodNetwork.Main

def main (args : List String) : IO UInt32 := do
  let found ← PodNetwork.Main.settings
  let env (name : String) := (found.find? fun s => s.1 = name).map Prod.snd
  match PodNetwork.CommandLine.parse env ("dpu-sim" :: args) with
  | .error e => do
    IO.eprintln e.text
    return e.exitCode.toUInt32
  | .ok line =>
    match ← line.procedure.interpret (I := PodNetwork.System) PodNetwork.Main.answer with
    | .ok () => return 0
    | .error failure => do
      IO.eprintln ("Error: " ++ failure.text)
      return 1
