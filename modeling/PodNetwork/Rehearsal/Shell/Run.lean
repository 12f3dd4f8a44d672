import PodNetwork.Rehearsal.Shell.Tools

/-! Running shell commands.

Commands are run for a number of steps at most. A script that is not done by then counts as one
that takes longer than there is time. -/
namespace PodNetwork.Rehearsal.Shell

namespace Process

/-- The commands that change the shell itself. -/
def ownCommand? (p : Process) (name : String) (args : List String) : Option (Flow × Process) :=
  let loops (make : Nat → Flow) : Option (Flow × Process) :=
    some (make ((args.head?.bind String.toNat?).getD 1 - 1), p.finish 0)
  match name with
  | ":" => some (.next, p.finish 0)
  | "exit" =>
    match args with
    | [] => some (.exit, p)
    | s :: _ =>
      match s.toNat? with
      | some n => some (.exit, p.finish (n % 256))
      | none => some (.exit, p.complain ("exit: Illegal number: " ++ s) 2)
  | "cd" => some (.next, p.changeDir (args.head?.getD "/"))
  | "shift" =>
    let n := (args.head?.bind String.toNat?).getD 1
    if p.arguments.length < n then some (.exit, p.complain "shift: can't shift that many" 2)
    else some (.next, { p with arguments := p.arguments.drop n, status := 0 })
  | "break" => loops .leave
  | "continue" => loops .again
  | "unset" =>
    some (.next, { p with
      values := p.values.filter fun v => !args.contains v.1, status := 0 })
  | "export" =>
    some (.next, (args.foldl (fun p arg =>
      match Text.cutAt? '=' arg.toList with
      | some (name, value) => p.assign (.ofList name) (.ofList value)
      | none => p) p).finish 0)
  | _ => none

def assignAll (p : Process) : List (String × Word) → Option Process
  | [] => some p
  | (name, word) :: rest => do (p.assign name (← p.expandWhole word)).assignAll rest

def adopt (p inner : Process) : Process :=
  { p with
    files := inner.files, stdout := inner.stdout, stderr := inner.stderr
    clock := inner.clock, status := inner.status }

def afterInner : Flow → Flow
  | .killed signal => .killed signal
  | .late => .late
  | _ => .next

def redirected (p : Process) (redirects : List Redirect) (act : Process → Flow × Process) :
    Flow × Process :=
  match redirects.foldlM redirect p with
  | .error text => (.next, p.complain text 2)
  | .ok inner =>
    let (flow, inner) := act inner
    (flow, inner.restore p)

def malformed : String := "Syntax error"

mutual

def run : Nat → Command → Process → Flow × Process
  | 0, _, p => (.late, p)
  | fuel + 1, command, p =>
    match command with
    | .skip => (.next, p)
    | .simple assignments words redirects =>
      match p.expandAll words with
      | none => (.exit, p.complain "arithmetic expression" 2)
      | some [] =>
        p.redirected redirects fun p =>
          match p.assignAll assignments with
          | some p => (.next, p.finish 0)
          | none => (.exit, p.complain "arithmetic expression" 2)
      | some (name :: args) => p.redirected redirects (runNamed fuel name args)
    | .chain first second =>
      match run fuel first p with
      | (.next, p) => run fuel second p
      | other => other
    | .both first second =>
      match run fuel first p with
      | (.next, p) => if p.status = 0 then run fuel second p else (.next, p)
      | other => other
    | .either first second =>
      match run fuel first p with
      | (.next, p) => if p.status = 0 then (.next, p) else run fuel second p
      | other => other
    | .negation command =>
      let (flow, p) := run fuel command p
      (flow, p.finish (if p.status = 0 then 1 else 0))
    | .branch condition yes no =>
      match run fuel condition p with
      | (.next, p) => if p.status = 0 then run fuel yes p else run fuel no (p.finish 0)
      | other => other
    | .loop expected condition body => runLoop fuel expected condition body 0 p
    | .each name words body =>
      match p.expandAll words with
      | none => (.exit, p.complain "arithmetic expression" 2)
      | some values => runEach fuel name body values (p.finish 0)
    | .group body redirects => p.redirected redirects (run fuel body)
    | .apart body redirects =>
      p.redirected redirects fun p =>
        let (flow, inner) := run fuel body p
        (afterInner flow, p.adopt inner)

/-- Runs a command by its name. -/
def runNamed : Nat → String → List String → Process → Flow × Process
  | 0, _, _, p => (.late, p)
  | fuel + 1, name, args, p =>
    match p.ownCommand? name args with
    | some result => result
    | none =>
      match p.tool? name args with
      | some result => result
      | none =>
        if name = "sh" then
          match runShell fuel args { p with name := "sh", values := [] } with
          | (.killed signal, inner) => (.next, (p.adopt inner).finish (128 + signal))
          | (flow, inner) => (afterInner flow, p.adopt inner)
        else if name.contains '/' && p.files.isThere p.dir name then
          (.next, p.complain (name ++ ": Permission denied") 126)
        else (.next, p.complain (name ++ ": not found") 127)

/-- Runs a loop. The code is that of the last run of the body. -/
def runLoop : Nat → Bool → Command → Command → Nat → Process → Flow × Process
  | 0, _, _, _, _, p => (.late, p)
  | fuel + 1, expected, condition, body, status, p =>
    match run fuel condition p with
    | (.next, p) =>
      if (p.status = 0) = expected then
        match run fuel body p with
        | (.next, p) | (.again 0, p) => runLoop fuel expected condition body p.status p
        | (.leave 0, p) => (.next, p)
        | (.leave (n + 1), p) => (.leave n, p)
        | (.again (n + 1), p) => (.again n, p)
        | other => other
      else (.next, p.finish status)
    | other => other

/-- Runs a body once for each value. -/
def runEach : Nat → String → Command → List String → Process → Flow × Process
  | 0, _, _, _, p => (.late, p)
  | _, _, _, [], p => (.next, p)
  | fuel + 1, name, body, value :: values, p =>
    match run fuel body (p.assign name value) with
    | (.next, p) | (.again 0, p) => runEach fuel name body values p
    | (.leave 0, p) => (.next, p)
    | (.leave (n + 1), p) => (.leave n, p)
    | (.again (n + 1), p) => (.again n, p)
    | other => other

/-- Runs a shell with its arguments: a script and the parameters for it, or the path of one. -/
def runShell : Nat → List String → Process → Flow × Process
  | 0, _, p => (.late, p)
  | fuel + 1, args, p =>
    let script (text : String) (p : Process) : Flow × Process :=
      match Command.ofScript? text with
      | some command => run fuel command p
      | none => (.exit, p.complain malformed 2)
    match args with
    | [] => (.next, p.finish 0)
    | ["-c"] => (.exit, p.fail (p.name ++ ": 0: -c requires an argument") 2)
    | "-c" :: text :: rest =>
      let name := rest.head?.getD p.name
      script text { p with name, arguments := rest.drop 1, status := 0 }
    | path :: rest =>
      match p.files.read p.dir path with
      | .ok content => script content.decodeLossy { p with name := path, arguments := rest }
      | .error _ => (.exit, p.fail (p.name ++ ": 0: cannot open " ++ path ++ ": No such file") 2)

end

end Process
end PodNetwork.Rehearsal.Shell
