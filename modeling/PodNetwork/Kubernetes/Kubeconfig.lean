import PodNetwork.Kubernetes.Document
import PodNetwork.Kubernetes.Shape
import PodNetwork.Error
import PodNetwork.Text.Utf8
import PodNetwork.Yaml.Value

/-! Credentials files: which API server a client is to talk to, and as whom.

A file names clusters, users and contexts, and the context in use joins a cluster and a user. -/
namespace PodNetwork.Kubernetes

structure Kubeconfig.Context where
  cluster : String
  user : Option String
  deriving DecidableEq, Repr, Inhabited

structure Kubeconfig.Server where
  url : Option String
  /-- Whether the certificate of the authority, if one is given, can be read. -/
  trusted : Bool
  deriving DecidableEq, Repr, Inhabited

/-- A name may be given without an entry. -/
structure Kubeconfig where
  clusters : List (String × Option Kubeconfig.Server) := []
  users : List (String × Option Unit) := []
  contexts : List (String × Option Kubeconfig.Context) := []
  current : Option String := none
  kind : Option String := none
  apiVersion : Option String := none
  deriving DecidableEq, Repr, Inhabited

namespace Kubeconfig

def extension : Shape := .record [("name", .text)]

def serverShape : Shape := .record [
  ("server", .text), ("insecure-skip-tls-verify", .truth), ("certificate-authority", .text),
  ("certificate-authority-data", .text), ("proxy-url", .text), ("disable-compression", .truth),
  ("tls-server-name", .text), ("extensions", .list extension)]

def userShape : Shape := .record [
  ("username", .text), ("password", .text), ("token", .text), ("tokenFile", .text),
  ("client-certificate", .text), ("client-certificate-data", .text), ("client-key", .text),
  ("client-key-data", .text), ("as", .text), ("as-groups", .list .text),
  ("auth-provider", .record [("name", .text), ("config", .map .text)]),
  ("exec", .record [("apiVersion", .text), ("command", .text), ("args", .list .text)])]

def contextShape : Shape := .record [
  ("cluster", .text), ("user", .text), ("namespace", .text), ("extensions", .list extension)]

def shape : Shape := .record [
  ("preferences", .record [("colors", .truth), ("extensions", .list extension)]),
  ("current-context", .text), ("extensions", .list extension), ("kind", .text),
  ("apiVersion", .text)]

/-- Reads entries with their names. -/
def entries? {α : Type} (v : Json) (key entry : String) (read : Json → Option α) :
    Option (List (String × Option α)) :=
  match v.get? key with
  | none | some .null => some []
  | some (.array items) => items.mapM fun item => do
    let name ← text? item ["name"]
    match item.get? entry with
    | none | some .null => return (name, none)
    | some e => return (name, some (← read e))
  | some _ => none

def server? (v : Json) : Option Server :=
  if serverShape.accepts v then
    let data := text? v ["certificate-authority-data"]
    let file := text? v ["certificate-authority"]
    some ⟨text? v ["server"], data.all (Shape.isBase64 ·.toList) && (data.isSome || file.isNone)⟩
  else none

def context? (v : Json) : Option Context :=
  if contextShape.accepts v then do some ⟨← text? v ["cluster"], text? v ["user"]⟩ else none

/-- Reads one document. An empty one gives nothing. -/
def ofJson? : Json → Option Kubeconfig
  | .null => some {}
  | v =>
    if shape.accepts v then do
      return {
        clusters := ← entries? v "clusters" "cluster" server?
        users := ← entries? v "users" "user" fun u =>
          if userShape.accepts u then some () else none
        contexts := ← entries? v "contexts" "context" context?
        current := text? v ["current-context"]
        kind := text? v ["kind"]
        apiVersion := text? v ["apiVersion"] }
    else none

def agree (a b : Option String) : Bool := a.isNone || b.isNone || a = b

def addEntries {α : Type} (old new : List (String × Option α)) : List (String × Option α) :=
  new.foldl (fun es e => if es.any fun f => f.1 = e.1 then es else es ++ [e]) old

/-- Adds what a further document gives. Kind and version may not differ. -/
def merge? (a b : Kubeconfig) : Option Kubeconfig :=
  if agree a.kind b.kind && agree a.apiVersion b.apiVersion then some {
    clusters := addEntries a.clusters b.clusters
    users := addEntries a.users b.users
    contexts := addEntries a.contexts b.contexts
    current := a.current.or b.current
    kind := a.kind.or b.kind
    apiVersion := a.apiVersion.or b.apiVersion }
  else none

def ofBytes? (content : Bytes) : Option Kubeconfig := do
  let documents ← (← Yaml.values? (← content.decode?)).mapM ofJson?
  match documents with
  | [] => return {}
  | first :: rest => rest.foldlM merge? first

def entry? {α : Type} (es : List (String × Option α)) (name : String) : Option α :=
  (es.find? fun e => e.1 = name).bind Prod.snd

def isAddress (s : String) : Bool :=
  let cs := s.toList
  let host := match cs.dropWhile (· != ':') with
    | ':' :: '/' :: '/' :: rest => rest.takeWhile fun c => c != '/'
    | _ => cs
  !host.isEmpty && cs.all fun c => 0x20 < c.toNat && !"<>\\^\x60".toList.contains c

/-- The address of the server that the context in use leads to. -/
def server (config : Kubeconfig) : Option String := do
  let context ← entry? config.contexts (← config.current)
  let cluster ← entry? config.clusters context.cluster
  match context.user with
  | some user => entry? config.users user
  | none => some ()
  let url ← cluster.url
  if isAddress url && cluster.trusted then some url else none

/-- The server that the credentials at a path lead to, given what the file holds. -/
def connect (path : String) (content : Option Bytes) : Attempt String :=
  match content.bind ofBytes? with
  | none => .error (.config ("failed to read kubeconfig " ++ path))
  | some config =>
    match config.server with
    | none => .error (.config "failed to load kubeconfig")
    | some url => .ok url

def infer (content : Option Bytes) : Attempt String :=
  match (content.bind ofBytes?).bind server with
  | none => .error (.config "failed to infer kube config")
  | some url => .ok url

end Kubeconfig
end PodNetwork.Kubernetes
