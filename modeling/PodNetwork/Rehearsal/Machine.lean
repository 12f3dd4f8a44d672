import PodNetwork.Rehearsal.ApiServer
import PodNetwork.Rehearsal.HostScript
import PodNetwork.Rehearsal.Shell.Run

/-! A machine to rehearse on: an operating system with its own files, without a network, and either
with a small shell or with programs that follow a script. -/
namespace PodNetwork.Rehearsal

inductive Toolset where
  /-- The shell and the small programs that scripts use. -/
  | shell
  /-- Programs of some names that do what rules say. -/
  | scripted (names : List String) (rules : List (Scripted CommandRule))
  deriving Repr, Inhabited

structure Machine where
  files : FileSystem := {}
  /-- The directory that programs run in unless another one is given. -/
  dir : Place := []
  tools : Toolset := .shell
  /-- The variables of the environment. -/
  settings : List (String × String) := []
  /-- What was printed, latest first. -/
  printed : List String := []
  /-- The directories and command lines of scripted programs, latest first. -/
  log : List (Option String × String) := []
  /-- The time in milliseconds. -/
  clock : Nat := 0
  deriving Repr, Inhabited

namespace Machine

def stepLimit : Nat := 2000000

/-- What is told of a program or an argument that holds the character that ends texts. -/
def embeddedNul : SystemFault := .other "nul byte found in provided data"

/-- The directory that a program is to run in. -/
def directory (m : Machine) : Option String → Except SystemFault Place
  | none => .ok m.dir
  | some path => do
    let found ← m.files.resolve m.dir true path
    match found.entry with
    | some .directory => return found.place
    | some _ => throw .notADirectory
    | none => throw .notFound

def notRunnable (m : Machine) (dir : Place) (path : String) : SystemFault :=
  match m.files.resolve dir true path with
  | .error fault => fault
  | .ok found => if found.entry.isSome then .denied else .notFound

/-- Runs the shell or a small program. -/
def runTool (m : Machine) (dir : Place) (program : String) (args : List String)
    (limit : Option Nat) : Except SystemFault (Option Ending) × Machine :=
  let start : Shell.Process := { name := program, files := m.files, dir, deadline := limit }
  let result :=
    if program = "sh" then some (start.runShell stepLimit args) else start.tool? program args
  match result with
  | none => (.error .notFound, m)
  | some (flow, p) =>
    let ended (status : ExitStatus) : Option Ending :=
      if limit = some 0 then none
      else some ⟨Shell.Process.all p.stdout, Shell.Process.all p.stderr, status⟩
    let ending := match flow with
      | .late => none
      | .killed signal => ended (.signaled signal)
      | _ => ended (.exited p.status)
    (.ok ending, { m with files := p.files, clock := m.clock + p.clock })

/-- Changes files one after the other, as far as that is possible. -/
def change (m : Machine) (rule : CommandRule) : Machine :=
  let created := rule.creates.foldl (fun fs (path, content) =>
    ((fs.provide m.dir path content).toOption).getD fs) m.files
  let left := rule.removes.foldl (fun fs path =>
    match fs.removeFile m.dir path with
    | .ok fs => fs
    | .error _ => (fs.removeTree m.dir path).2) created
  { m with files := left }

/-- Runs a scripted program. A failing one changes no files. -/
def runScripted (m : Machine) (names : List String) (rules : List (Scripted CommandRule))
    (dir : Option String) (line : String) : Ending × Machine :=
  let m := { m with log := (dir, line) :: m.log }
  let (rule, rules) := take (fun r : CommandRule => Text.startsWith line r.start) rules
  let m := { m with tools := .scripted names rules }
  match rule with
  | none => ({}, m)
  | some rule =>
    let stdout := Bytes.ofString rule.output.stdout
    match rule.failure with
    | some output => (⟨stdout, Bytes.ofString output, .exited rule.code⟩, m)
    | none => (⟨stdout, Bytes.ofString rule.output.stderr, .exited 0⟩, m.change rule)

/-- Runs a program. -/
def spawn (m : Machine) (program : String) (args : List String) (dir : Option String)
    (limit : Option Nat) : Except SystemFault (Option Ending) × Machine :=
  if (program :: args).any (·.contains '\x00') then (.error embeddedNul, m)
  else match m.directory dir with
    | .error fault => (.error fault, m)
    | .ok place =>
      if program.contains '/' then (.error (m.notRunnable place program), m)
      else match m.tools with
        | .shell => m.runTool place program args limit
        | .scripted names rules =>
          if names.contains program then
            let (ending, m) := m.runScripted names rules dir (commandLine program args)
            (.ok (some ending), m)
          else (.error .notFound, m)

def changed (m : Machine) : Except SystemFault FileSystem → Except SystemFault Unit × Machine
  | .ok files => (.ok (), { m with files })
  | .error fault => (.error fault, m)

/-- Answers a request to the system. -/
def answer : (call : SystemCall) → Machine → call.Answer × Machine
  | .spawn program args dir limit, m => m.spawn program args dir limit
  | .isThere path, m => (m.files.isThere m.dir path, m)
  | .kindOf path, m => (m.files.kindOf m.dir path, m)
  | .readFile path, m => (m.files.read m.dir path, m)
  | .writeFile path content, m => m.changed (m.files.write m.dir path content)
  | .makeDirectories path, m => m.changed (m.files.makeDirectories m.dir path)
  | .removeFile path, m => m.changed (m.files.removeFile m.dir path)
  | .removeTree path, m =>
    let (result, files) := m.files.removeTree m.dir path
    (result, { m with files })
  | .print text, m => ((), { m with printed := text :: m.printed })
  | .pause duration, m => ((), { m with clock := m.clock + duration })
  | .setting name, m => ((m.settings.find? fun s => s.1 = name).map Prod.snd, m)
  | .wire _ call, m => (call.unreached, m)

def perform {α : Type} (m : Machine) (procedure : Procedure System α) : α × Machine :=
  procedure.run (I := System) answer m

end Machine
end PodNetwork.Rehearsal
