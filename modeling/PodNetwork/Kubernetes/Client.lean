import PodNetwork.Kubernetes.Discovery
import PodNetwork.Yaml.Value

/-! A cluster reached through its API server.

Every call of a cluster turns into requests on the wire. What the server offers is asked for once
and then remembered until it is said to be out of date. -/
namespace PodNetwork.Kubernetes

structure Client where
  known : Option Discovery := none
  deriving DecidableEq, Repr, Inhabited

namespace Client

/-- The time a single call may take, in milliseconds. -/
def callLimit : Nat := 30000

/-- The time the applying of a manifest may take, in milliseconds. -/
def applyLimit : Nat := 120000

def fieldManager : String := "dpu-sim"

/-- The annotation of a pod template whose change restarts the pods. -/
def restartedAt : String := "kubectl.kubernetes.io/restartedAt"

def defaultNamespace : String := "default"

def configMaps : Resource := ⟨"", "v1", "configmaps", "ConfigMap", true⟩
def pods : Resource := ⟨"", "v1", "pods", "Pod", true⟩
def nodes : Resource := ⟨"", "v1", "nodes", "Node", false⟩
def daemonSets : Resource := ⟨"apps", "apps/v1", "daemonsets", "DaemonSet", true⟩

/-- A request for the object of a name, of which there is none for the empty name. -/
def named? (resource : Resource) (ns : Option String) (name : String) (method : Method)
    (query : Option (List (String × String))) (payload : Option Payload) : Option Request :=
  if name.isEmpty then none
  else Request.at? method (resource.path ns ++ "/" ++ name) query payload

def read {α : Type} (resource : Resource) (ns : Option String) (name : String)
    (decode : Json → Option α) : Bounded α :=
  .request (named? resource ns name .get none none) decode

def list {α : Type} (resource : Resource) (ns : Option String) (selector : String)
    (decode : Json → Option α) : Bounded (List α) :=
  let query := if selector.isEmpty then [] else [("labelSelector", selector)]
  .request (Request.at? .get (resource.path ns) (some query) none) (list? decode)

def merge {α : Type} (resource : Resource) (ns : Option String) (name : String) (patch : Json)
    (decode : Json → Option α) : Bounded α :=
  .request (named? resource ns name .patch (some []) (some (.merge patch))) decode

/-- A value that has some shape, or the status that stands in for it. -/
def shapeOrStatus (shape : Json → Bool) (v : Json) : Option Unit :=
  if if isStatus v then Shape.status.accepts v else shape v then some () else none

def nested : List String → Json → Json
  | [], v => v
  | key :: keys, v => .object [(key, nested keys v)]

def labelsJson (labels : Labels) : Json := .object (labels.map fun (k, v) => (k, .string v))

def missing (what part : String) : Error := .serialization s!"{what}: missing {part}" none

/-- Applies one document of a manifest. -/
def applyDocument (discovery : Discovery) (document : Json) : Bounded Unit := do
  let what := describe document
  let some kind := kind? document | Bounded.fail (missing what "kind")
  let some apiVersion := apiVersion? document | Bounded.fail (missing what "apiVersion")
  let some name := name? document | Bounded.fail (missing what "metadata.name")
  let (group, version) := parseApiVersion apiVersion
  match discovery.resolve? group version kind with
  | none =>
    Bounded.fail (.internal "apply_manifest"
      s!"unknown resource type {apiVersion}/{kind} (is its CRD installed?)")
  | some resource =>
    let ns :=
      if resource.namespaced then some ((namespace? document).getD defaultNamespace) else none
    let query := [("force", "true"), ("fieldManager", fieldManager)]
    .request (named? resource ns name .patch (some query) (some (.apply document))) fun v =>
      if isObject v then some () else none

def documents (content : Bytes) : Attempt (List Json) :=
  match Bytes.decode? content with
  | none => .error (.serialization "manifest is not UTF-8" none)
  | some text =>
    match Yaml.objects? text with
    | none => .error .yaml
    | some documents => .ok documents

/-- What the server offers, as far as that is known or can be found out. -/
def discover (client : Client) : Bounded Discovery :=
  match client.known with
  | some discovery => return discovery
  | none => Discovery.fetch

/-- Applies the documents of a manifest one after the other, up to the first that fails. What the
server offers is remembered even if a document fails. -/
def applyDocuments (client : Client) (documents : List Json) :
    Procedure Wire (Attempt Unit × Client) := do
  let (found, took) ← Bounded.within "apply_manifest" applyLimit client.discover
  match found with
  | .error e => return (.error e, client)
  | .ok discovery =>
    let work : Bounded Unit := do
      Bounded.spend took
      documents.forM (applyDocument discovery)
    let (result, _) ← Bounded.within "apply_manifest" applyLimit work
    return (result, ⟨some discovery⟩)

def applyManifest (client : Client) (content : Bytes) : Procedure Wire (Attempt Unit × Client) :=
  match documents content with
  | .error e => return (.error e, client)
  | .ok documents => client.applyDocuments documents

/-- Fetches a page. -/
def fetchPage (url : String) : Bounded Bytes := do
  match ← Bounded.ask (.fetch url (← get)) with
  | .page result took => do
    Bounded.spend took
    match result with
    | .ok content => return content
    | .error message => Bounded.fail (.internal "fetch_manifest" message)
  | .late => throw .timeUp

def applyManifestFromUrl (client : Client) (url : String) :
    Procedure Wire (Attempt Unit × Client) := do
  match (← Bounded.within "fetch_manifest" callLimit (fetchPage url)).1 with
  | .error e => return (.error e, client)
  | .ok content => client.applyManifest content

/-- Removes the taints of a key and an effect from a node, asking for a change only if there are
any. -/
def removeTaint (node key effect : String) : Bounded Unit := do
  let taints ← read nodes none node taints?
  let rest := taints.filter fun t => !(t.key = key ∧ t.effect = effect)
  if rest.length ≠ taints.length then
    let patch := nested ["spec", "taints"] (.array (rest.map Taint.json))
    let _ ← merge nodes none node patch node?

/-- Deletes a daemon set; that there is none is no error. -/
def deleteDaemonSet (ns name : String) : Bounded Unit :=
  tryCatch
    (.request (named? daemonSets (some ns) name .delete (some []) (some (.options (.object []))))
      (shapeOrStatus Shape.daemonSet.accepts))
    fun
      | .failed (.api (.status 404 _ _)) => return
      | halt => throw halt

/-- Deletes pods at once, without a grace period. -/
def deletePods (ns selector : String) : Bounded Unit :=
  let options := Json.object [("gracePeriodSeconds", .ofNat 0)]
  .request (Request.at? .delete (pods.path (some ns)) (some [("labelSelector", selector)])
    (some (.options options))) (shapeOrStatus fun v => (list? pod? v).isSome)

/-- Restarts the pods of a daemon set by writing the time into their template. -/
def restart (ns name : String) : Bounded Unit := do
  let time ← Bounded.ask .now
  let path := ["spec", "template", "metadata", "annotations", restartedAt]
  merge daemonSets (some ns) name (nested path (.string time)) fun v =>
    if Shape.daemonSet.accepts v then some () else none

def perform {α : Type} (client : Client) (operation : String) (work : Bounded α) :
    Procedure Wire (Attempt α × Client) := do
  return ((← Bounded.within operation callLimit work).1, client)

/-- Carries out a call of a cluster. -/
def answer (client : Client) : (call : ClusterCall) → Procedure Wire (call.Answer × Client)
  | .applyManifest content => client.applyManifest content
  | .applyManifestFromUrl url => client.applyManifestFromUrl url
  | .invalidateDiscovery => return ((), {})
  | .getConfigMap ns name =>
    client.perform "get_config_map" (read configMaps (some ns) name configData?)
  | .updateConfigMap ns name data =>
    client.perform "update_config_map" do
      let _ ← merge configMaps (some ns) name (nested ["data"] (labelsJson data)) configData?
  | .listPods ns selector => do
    let (result, took) ← Bounded.within "list_pods" callLimit (list pods (some ns) selector pod?)
    return (⟨result, took⟩, client)
  | .getNodes => client.perform "get_nodes" (list nodes none "" node?)
  | .labelNode node labels =>
    client.perform "label_node" do
      let _ ← merge nodes none node (nested ["metadata", "labels"] (labelsJson labels)) node?
  | .removeNodeTaint node key effect =>
    client.perform "remove_node_taint" (removeTaint node key effect)
  | .deleteDaemonset ns name => client.perform "delete_daemonset" (deleteDaemonSet ns name)
  | .deletePodsByLabel ns selector =>
    client.perform "delete_pods_by_label" (deletePods ns selector)
  | .rolloutRestart ns name => client.perform "rollout_restart_daemonset" (restart ns name)

end Client
end PodNetwork.Kubernetes
