import PodNetwork.Rehearsal.FileSystem
import PodNetwork.Rehearsal.Shell.Format

/-! A running program: its variables and arguments, the files that it sees, and what it has written
so far. -/
namespace PodNetwork.Rehearsal.Shell

inductive Sink where
  | stdout
  | stderr
  | file (place : Place)
  | nowhere
  deriving DecidableEq, Repr, Inhabited

structure Process where
  /-- The name that the program tells its errors under. -/
  name : String
  arguments : List String := []
  /-- The values of its variables. -/
  values : List (String × String) := []
  files : FileSystem
  dir : Place
  /-- The exit code of the last command. -/
  status : Nat := 0
  out : Sink := .stdout
  err : Sink := .stderr
  /-- What was written, latest first. -/
  stdout : List Bytes := []
  stderr : List Bytes := []
  /-- The time in milliseconds, and when there is none left. -/
  clock : Nat := 0
  deadline : Option Nat := none
  deriving Repr, Inhabited

/-- How it goes on after a command. -/
inductive Flow where
  | next
  | exit
  | killed (signal : Nat)
  /-- The time is up. -/
  | late
  /-- Loops are left: the innermost one, and so many more. -/
  | leave (outer : Nat)
  /-- A loop is continued, after so many inner ones are left. -/
  | again (outer : Nat)
  deriving DecidableEq, Repr, Inhabited

namespace Process

def number : String := "1000"

def finish (p : Process) (status : Nat) : Process := { p with status }

/-- Writes to a place that streams go to. -/
def send (p : Process) (sink : Sink) (bs : Bytes) : Process :=
  match sink with
  | .stdout => { p with stdout := bs :: p.stdout }
  | .stderr => { p with stderr := bs :: p.stderr }
  | .file place =>
    let old := match p.files.entry? place with
      | some (.file content) => content
      | _ => []
    { p with files := p.files.put place (.file (old ++ bs)) }
  | .nowhere => p

def write (p : Process) (bs : Bytes) : Process := p.send p.out bs

def say (p : Process) (line : String) : Process := p.write (Bytes.ofString (line ++ "\n"))

def fail (p : Process) (line : String) (status : Nat) : Process :=
  (p.send p.err (Bytes.ofString (line ++ "\n"))).finish status

def complain (p : Process) (text : String) (status : Nat) : Process :=
  p.fail (p.name ++ ": 1: " ++ text) status

/-- The value of a variable or of one of the shell's own parameters. -/
def lookUp (p : Process) (name : String) : String :=
  match name with
  | "?" => toString p.status
  | "#" => toString p.arguments.length
  | "$" => number
  | "0" => p.name
  | name =>
    match name.toNat? with
    | some n => (p.arguments[n - 1]?).getD ""
    | none => ((p.values.find? fun v => v.1 = name).map Prod.snd).getD ""

def assign (p : Process) (name value : String) : Process :=
  { p with values := (name, value) :: p.values.filter fun v => v.1 ≠ name }

def all (chunks : List Bytes) : Bytes := chunks.reverse.flatten

end Process

/-- Words under way: those that are complete, latest first, and one that is begun. -/
structure Fields where
  done : List String := []
  current : Option String := none
  deriving DecidableEq, Repr, Inhabited

namespace Fields

def add (f : Fields) (s : String) : Fields :=
  { f with current := some (f.current.getD "" ++ s) }

def cut (f : Fields) : Fields :=
  match f.current with
  | some s => ⟨s :: f.done, none⟩
  | none => f

def addCut (f : Fields) (s : String) : Fields :=
  s.toList.foldl (fun f c => if " \t\n".toList.contains c then f.cut else f.add c.toString) f

def addEach (f : Fields) : List String → Fields
  | [] => f
  | [s] => f.add s
  | s :: rest => (f.add s).cut.addEach rest

def toList (f : Fields) : List String := f.cut.done.reverse

end Fields

namespace Process

/-- Puts in what a piece of a word stands for, unless it is an expression without a value. -/
def expandPiece (p : Process) (f : Fields) : Piece → Option Fields
  | .text s _ => some (f.add s)
  | .parameter name quoted =>
    some (if quoted then f.add (p.lookUp name) else f.addCut (p.lookUp name))
  | .arguments true => some (f.addEach p.arguments)
  | .arguments false => some (f.addCut (Text.joinStrings " " p.arguments))
  | .value expression _ =>
    (Arithmetic.evaluate p.lookUp expression).map fun n => f.add (toString n)

def expand (p : Process) (word : Word) : Option (List String) :=
  (word.foldlM p.expandPiece {}).map Fields.toList

def expandAll (p : Process) (words : List Word) : Option (List String) :=
  (words.mapM p.expand).map List.flatten

def expandWhole (p : Process) (word : Word) : Option String :=
  (p.expand (word.map fun
    | .parameter name _ => .parameter name true
    | piece => piece)).map (Text.joinStrings " ")

def route (p : Process) (descriptor : Nat) (sink : Sink) : Process :=
  match descriptor with
  | 1 => { p with out := sink }
  | 2 => { p with err := sink }
  | _ => p

/-- Opens a file for a stream. -/
def openFile (p : Process) (descriptor : Nat) (path : String) (extend : Bool) :
    Except String Process :=
  if path = "/dev/null" then .ok (p.route descriptor .nowhere)
  else if path = "/dev/stdout" then .ok (p.route descriptor .stdout)
  else if path = "/dev/stderr" then .ok (p.route descriptor .stderr)
  else match p.files.target p.dir path with
    | .ok place =>
      let kept := extend && (p.files.entry? place).isSome
      let files := if kept then p.files else p.files.put place (.file [])
      .ok ({ p with files }.route descriptor (.file place))
    | .error .notFound => .error ("cannot create " ++ path ++ ": Directory nonexistent")
    | .error .isADirectory => .error ("cannot create " ++ path ++ ": Is a directory")
    | .error .notADirectory => .error ("cannot create " ++ path ++ ": Not a directory")
    | .error fault => .error ("cannot create " ++ path ++ ": " ++ fault.text)

/-- Carries out a redirection. -/
def redirect (p : Process) (r : Redirect) : Except String Process :=
  match r.target with
  | .file word extend =>
    match p.expandWhole word with
    | some path => p.openFile r.descriptor path extend
    | none => .error "arithmetic expression"
  | .stream 1 => .ok (p.route r.descriptor p.out)
  | .stream 2 => .ok (p.route r.descriptor p.err)
  | .stream n => .error (toString n ++ ": Bad file descriptor")
  | .source word =>
    match p.expandWhole word with
    | some path =>
      if path = "/dev/null" || p.files.isThere p.dir path then .ok p
      else .error ("cannot open " ++ path ++ ": No such file")
    | none => .error "arithmetic expression"

def restore (p old : Process) : Process := { p with out := old.out, err := old.err }

end Process
end PodNetwork.Rehearsal.Shell
