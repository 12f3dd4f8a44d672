import PodNetwork.Rehearsal.Script
import PodNetwork.Site

/-! A host that answers from a script. -/
namespace PodNetwork.Rehearsal

/-- What a command whose line starts with a text does. -/
structure CommandRule where
  start : String
  output : CommandOutput := {}
  /-- The output of a failing command. -/
  failure : Option String := none
  /-- The exit code of a failing command, where there are such codes. -/
  code : Nat := 1
  creates : List (String × Bytes) := []
  removes : List String := []
  deriving DecidableEq, Repr, Inhabited

inductive FileAccess where
  | read
  | write
  | remove
  deriving DecidableEq, Repr, Inhabited

structure FileFault where
  access : FileAccess
  start : String
  message : String
  deriving DecidableEq, Repr, Inhabited

structure HostScript where
  name : String := "fake-host"
  tree : Tree := {}
  info : Attempt HostInfo := .ok ⟨"fedora", "41", [], .x86_64⟩
  rules : List (Scripted CommandRule) := []
  faults : List (Scripted FileFault) := []

namespace HostScript

/-- Runs a command. A failing one changes nothing. -/
def runCommand (host : HostScript) (program : String) (args : List String) :
    Attempt CommandOutput × HostScript :=
  let line := commandLine program args
  match take (fun rule => Text.startsWith line rule.start) host.rules with
  | (none, _) => (.ok {}, host)
  | (some rule, rules) =>
    match rule.failure with
    | some output => (.error (.command line "exited with status 1" output), { host with rules })
    | none =>
      let tree := rule.creates.foldl (fun tree (path, content) => tree.write path content) host.tree
      let tree := rule.removes.foldl Tree.remove tree
      (.ok rule.output, { host with rules, tree })

def access {α : Type} (host : HostScript) (kind : FileAccess) (path : String)
    (go : HostScript → Attempt α × HostScript) : Attempt α × HostScript :=
  match take (fun f : FileFault => f.access = kind ∧ Text.startsWith path f.start) host.faults with
  | (some fault, faults) => (.error (.io path fault.message), { host with faults })
  | (none, _) => go host

def answer : (call : HostCall) → HostScript → call.Answer × HostScript
  | .execute program args, host => host.runCommand program args
  | .executeWithin _ program args, host => host.runCommand program args
  | .run program args, host =>
    let (result, host) := host.runCommand program args
    (result.map fun _ => (), host)
  | .runIn _ program args, host =>
    let (result, host) := host.runCommand program args
    (result.map fun _ => (), host)
  | .fileExists path, host => (host.tree.has path, host)
  | .readFile path, host =>
    host.access .read path fun host =>
      match host.tree.read? path with
      | some content => (.ok content, host)
      | none => (.error (.io path "no such file"), host)
  | .writeFile path content, host =>
    host.access .write path fun host => (.ok (), { host with tree := host.tree.write path content })
  | .removeAll path, host =>
    host.access .remove path fun host => (.ok (), { host with tree := host.tree.remove path })
  | .hostInfo, host => (host.info, host)
  | .describe, host => (host.name, host)

end HostScript
end PodNetwork.Rehearsal
