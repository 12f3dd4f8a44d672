import PodNetwork.Json.Member
import PodNetwork.Install.OvnKubernetes
import PodNetwork.Manifest.Phase
import PodNetwork.Rehearsal.Machine
import PodNetwork.Rehearsal.Stage

/-! Scripts for rehearsals, written in JSON. -/
namespace PodNetwork.Rehearsal.Reader

open Json.Member

/-- An error by the name of its cause. -/
def error (j : Json) : Option Error := do
  match ← str j "variant" with
  | "SourceUnavailable" => return .sourceUnavailable (← str j "path") (← str j "message")
  | "BuildSpecMissing" => return .buildSpecMissing (← str j "path")
  | "BuildFailed" =>
    return .buildFailed (← str j "image") (← str j "message") (← strD j "output" "")
  | "GitRefResolutionFailed" =>
    return .refUnresolved (← str j "repo") (← str j "git_ref") (← str j "message")
  | "ManifestRead" =>
    return .manifestUnreadable (← str j "file") (← str j "phase") (← str j "message")
  | "ManifestApply" =>
    return .manifestRejected (← str j "manifest") (← str j "phase") (← str j "cluster")
      (← str j "message")
  | "NodeLabel" => return .nodeUnlabeled (← str j "node") (← str j "cluster") (← str j "message")
  | "CoreDnsPatch" => return .dnsUnpatched (← str j "message")
  | "ReadinessTimeout" =>
    return .notReady (← str j "namespace") (← str j "selector") (← nat j "timeout_ms")
  | "RedeployFailed" => return .redeployFailed (← str j "cluster") (← str j "message")
  | "Unsupported" => return .unsupported (← str j "operation") (← str j "target")
  | "Command" =>
    return .command (← str j "command") (← str j "message") (← strD j "output" "")
  | "Config" => return .config (← str j "message")
  | "Io" => return .io (← str j "context") (← str j "message")
  | "Serialization" => return .serialization (← str j "message") (← str? j "kind")
  | "Internal" => return .internal (← str j "context") (← str j "message")
  | _ => none

def plainFailure : String := "injected failure"

def scripted {α : Type} (read : Json → Option α) (j : Json) : Option (Scripted α) := do
  return ⟨← read j, ← nat? j "times"⟩

def commandRule (j : Json) : Option CommandRule := do
  return {
    start := ← strD j "prefix" ""
    output := ⟨← strD j "stdout" "", ← strD j "stderr" ""⟩
    failure := ← str? j "fail"
    code := ← natD j "code" 1
    creates := (← files j "creates").filterMap fun (p, c) => c.map fun c => (p, c)
    removes := ← strings j "removes" }

def fileFault (j : Json) : Option FileFault := do
  let access ← match ← str j "call" with
    | "read" => some .read
    | "write" => some .write
    | "remove" => some .remove
    | _ => none
  return ⟨access, ← strD j "match" "", ← strD j "message" plainFailure⟩

def provisioned (root : String) : List (String × Bytes) :=
  let plan := Manifest.Plan.ovnKubernetes true
  let names := ["dist/images/daemonset.sh", "dist/images/Dockerfile.fedora"] ++
    (plan.crds ++ plan.setup ++ plan.deployments).map ("dist/yaml/" ++ ·)
  names.map fun name => (Path.join root name, Bytes.ofString ("# " ++ name ++ "\n"))

/-- A tree of files: those of a provisioned source tree, if one is asked for, with some changes. -/
def tree (j : Json) : Option Tree := do
  let base : Tree := (((← str? j "fixture").map provisioned).getD []).foldl
    (fun t (p, c) => t.write p c) {}
  let changed := (← files j "files").foldl (fun (t : Tree) (p, c) =>
    match c with
    | some c => t.write p c
    | none => { t with files := t.files.filter fun f => !Path.same f.1 p }) base
  return (← strings j "dirs").foldl Tree.addDir changed

def host (j : Json) : Option HostScript := do
  let machine ← strD j "machine" "x86_64"
  let info : Attempt HostInfo ← match fieldD j "host_error" with
    | .null => some (.ok ⟨"", "", [], .ofMachine machine⟩)
    | e => pure (.error (← error e))
  return {
    tree := ← tree j, info
    rules := ← (← list j "rules").mapM (scripted commandRule)
    faults := ← (← list j "file_fail").mapM (scripted fileFault) }

def callFault (j : Json) : Option CallFault := do
  let method ← str j "call"
  let e ← match fieldD j "error" with
    | .null => some (.internal method (← strD j "message" plainFailure))
    | e => error e
  return ⟨method, ← strD j "match" "", e⟩

def pods (j : Json) (key : String) : Option (List (String × List (Option (List Bool)))) := do
  (← entries j key).mapM fun (ns, polls) => do
    return (ns, ← (← asList polls).mapM (optional fun p => do (← asList p).mapM asBool))

def cluster (j : Json) : Option ClusterScript := do
  return {
    configMaps := ← (← entries j "config_maps").mapM fun (k, v) => do return (k, ← asLabels v)
    nodes := ← (← list j "nodes").mapM fun n => do
      return ⟨← str n "name", ← withDefault [] asLabels (fieldD n "labels")⟩
    pods := ← pods j "pods"
    faults := ← (← list j "fail").mapM (scripted callFault) }

def engineFault (j : Json) : Option EngineFault := do
  let action ← match ← str j "call" with
    | "build" => some .build
    | "tag" => some .tag
    | "push" => some .push
    | _ => none
  return ⟨action, ← strD j "match" "", ← strD j "output" ""⟩

def engine (j : Json) : Option EngineScript := do
  return {
    engine := ← EngineName.ofName? (← strD j "name" "docker")
    images := ← strings j "images"
    faults := ← (← list j "fail").mapM (scripted engineFault) }

def offer (j : Json) : Option Offer := do
  match ← asList j with
  | [.string group, .string version, .string plural, .string kind, .bool namespaced] =>
    return ⟨group, version, plural, kind, namespaced⟩
  | _ => none

def prepared (j : Json) : Option Prepared := do
  if ← boolD j "broken" false then return .broken
  match ← nat? j "status" with
  | none => return .usual
  | some code =>
    match ← str? j "text", field j "body" with
    | some text, _ => return .reply (.ofText code text)
    | none, some body => return .reply ⟨code, body.text, some body⟩
    | none, none =>
      return .reply (ApiServer.failure code (← strD j "reason" "") (← strD j "message" ""))

def exception (j : Json) : Option Exception := do
  return { method := ← str? j "method", path := ← str? j "path"
           delay := ← natD j "delay_ms" 0, answer := ← prepared j }

def server (j : Json) : Option ApiServer := do
  return {
    offers := ← (← list j "resources").mapM offer
    objects := ← entries j "objects"
    exceptions := ← (← list j "overrides").mapM (scripted exception) }

/-- The settings of an install; those left out have their usual values. -/
def ovnOptions (j : Json) : Option Install.OvnOptions := do
  let d : Install.OvnOptions := {}
  return {
    daemonsetImage := ← strD j "daemonset_image" d.daemonsetImage
    buildImage := ← strD j "build_image" d.buildImage
    ovnGitRef := ← str? j "ovn_git_ref"
    ovsNode := ← boolD j "ovs_node" d.ovsNode
    pushDaemonsetImage := ← boolD j "push" d.pushDaemonsetImage
    dnsServer := ← strD j "dns_server" d.dnsServer
    extraTld := ← strD j "extra_tld" d.extraTld
    readinessTimeout := 1000 * (← natD j "readiness_timeout_s" (d.readinessTimeout / 1000))
    pollInterval := 1000 * (← natD j "poll_interval_s" (d.pollInterval / 1000)) }

def roles (j : Json) : Option RoleAssignment := do
  (← withDefault [] asList j).foldlM (fun roles row => do
    match ← asList row with
    | [.string cluster, .string role, .string node] =>
      return roles.assign cluster (← NodeRole.ofName? role) node
    | _ => none) {}

def plan (j : Json) : Option Manifest.Plan := do
  return ⟨← strings j "crds", ← strings j "external_crds", ← strings j "setup",
    ← strings j "deployments"⟩

def machine (root : String) (j : Json) : Option Machine := do
  let base := (({} : FileSystem).makeDirectories [] root).toOption.getD {}
  let provided := (← files j "files").foldl (fun fs (path, content) =>
    ((fs.provide [] (Path.join root path) (content.getD [])).toOption).getD fs) base
  return { files := provided }

def scriptedMachine (root : String) (j : Json) : Option Machine := do
  let rules ← (← list j "rules").mapM (scripted commandRule)
  let settings ← (← entries j "env").mapM fun (k, v) => do return (k, ← asString v)
  return { ← machine root j with tools := .scripted (← strings j "programs") rules, settings }

/-- A request made of a host whose paths lie below a directory. -/
def hostCall (root : String) (j : Json) : Option HostCall := do
  let path : Option String := (strD j "path" "").map (Path.join root)
  match ← str j "do" with
  | "execute" => return .execute (← str j "program") (← strings j "args")
  | "execute_timeout" =>
    return .executeWithin (← nat j "timeout_ms") (← str j "program") (← strings j "args")
  | "run" => return .run (← str j "program") (← strings j "args")
  | "run_in" => return .runIn (← path) (← str j "program") (← strings j "args")
  | "exists" => return .fileExists (← path)
  | "read" => return .readFile (← path)
  | "write" => return .writeFile (← path) (← bytes j "content")
  | "remove" => return .removeAll (← path)
  | _ => none

end PodNetwork.Rehearsal.Reader
