import PodNetwork.Rehearsal.Script
import PodNetwork.Site

/-! A cluster that answers from a script. -/
namespace PodNetwork

/-- The name of a request. -/
def ClusterCall.method : ClusterCall → String
  | .applyManifest _ => "apply_manifest"
  | .applyManifestFromUrl _ => "apply_manifest_from_url"
  | .invalidateDiscovery => "invalidate_discovery_cache"
  | .getConfigMap .. => "get_config_map"
  | .updateConfigMap .. => "update_config_map"
  | .listPods .. => "list_pods"
  | .getNodes => "get_nodes"
  | .labelNode .. => "label_node"
  | .removeNodeTaint .. => "remove_node_taint"
  | .deleteDaemonset .. => "delete_daemonset"
  | .deletePodsByLabel .. => "delete_pods_by_label"
  | .rolloutRestart .. => "rollout_restart_daemonset"

/-- What a request is about, in one text. -/
def ClusterCall.subject : ClusterCall → String
  | .applyManifest content => Bytes.decodeLossy content
  | .applyManifestFromUrl url => url
  | .getConfigMap ns name | .updateConfigMap ns name _ | .deleteDaemonset ns name
  | .rolloutRestart ns name => ns ++ "/" ++ name
  | .listPods ns selector | .deletePodsByLabel ns selector => ns ++ "/" ++ selector
  | .labelNode node _ => node
  | .removeNodeTaint node key _ => node ++ " " ++ key
  | .invalidateDiscovery | .getNodes => ""

namespace Rehearsal

structure CallFault where
  method : String
  start : String
  error : Error
  deriving DecidableEq, Repr, Inhabited

structure ClusterScript where
  /-- Data of config maps, by namespace and name. -/
  configMaps : List (String × Labels) := []
  nodes : List Node := []
  /-- What successive listings of a namespace show; the last one stays. No list at all is a
  listing that fails. -/
  pods : List (String × List (Option (List Bool))) := []
  faults : List (Scripted CallFault) := []

namespace ClusterScript

def guarded {α : Type} (cluster : ClusterScript) (call : ClusterCall)
    (go : ClusterScript → Attempt α × ClusterScript) : Attempt α × ClusterScript :=
  match take (fun f : CallFault => f.method = call.method ∧ Text.startsWith call.subject f.start)
      cluster.faults with
  | (some fault, faults) => (.error fault.error, { cluster with faults })
  | (none, _) => go cluster

def configMap? (cluster : ClusterScript) (key : String) : Option Labels :=
  (cluster.configMaps.find? fun entry => entry.1 = key).map Prod.snd

def putConfigMap (key : String) (data : Labels) : List (String × Labels) → List (String × Labels)
  | [] => [(key, data)]
  | (k, d) :: rest =>
    if key = k then (key, data) :: rest
    else if key < k then (key, data) :: (k, d) :: rest
    else (k, d) :: putConfigMap key data rest

def label (cluster : ClusterScript) (node : String) (labels : Labels) :
    Attempt Unit × ClusterScript :=
  if cluster.nodes.any fun n => n.name = node then
    (.ok (), { cluster with nodes := cluster.nodes.map fun n =>
      if n.name = node then { n with labels := n.labels.merge labels } else n })
  else (.error (.internal "label_node" s!"node {node} not found"), cluster)

def listing : Option (List Bool) → Attempt (List Pod)
  | none => .error (.internal "list_pods" "unavailable")
  | some ready => .ok (ready.map fun r => { name := "", ready := r })

def poll (cluster : ClusterScript) (ns : String) : Attempt (List Pod) × ClusterScript :=
  match (cluster.pods.find? fun entry => entry.1 = ns).map Prod.snd with
  | none | some [] => (.ok [], cluster)
  | some [last] => (listing last, cluster)
  | some (next :: rest) =>
    (listing next, { cluster with pods := cluster.pods.map fun entry =>
      if entry.1 = ns then (ns, rest) else entry })

def answer (call : ClusterCall) (cluster : ClusterScript) : call.Answer × ClusterScript :=
  match call with
  | .invalidateDiscovery => ((), cluster)
  | .getConfigMap ns name =>
    cluster.guarded (.getConfigMap ns name) fun cluster =>
      let key := ns ++ "/" ++ name
      match cluster.configMap? key with
      | some data => (.ok data, cluster)
      | none => (.error (.internal "get_config_map" (key ++ " not found")), cluster)
  | .updateConfigMap ns name data =>
    cluster.guarded (.updateConfigMap ns name data) fun cluster =>
      let key := ns ++ "/" ++ name
      let data := ((cluster.configMap? key).getD []).merge data
      (.ok (), { cluster with configMaps := putConfigMap key data cluster.configMaps })
  | .listPods ns selector =>
    let (pods, cluster) := cluster.guarded (.listPods ns selector) fun cluster => cluster.poll ns
    ({ pods }, cluster)
  | .getNodes => cluster.guarded .getNodes fun cluster => (.ok cluster.nodes, cluster)
  | .labelNode node labels =>
    cluster.guarded (.labelNode node labels) fun cluster => cluster.label node labels
  | .applyManifest content =>
    cluster.guarded (.applyManifest content) fun cluster => (.ok (), cluster)
  | .applyManifestFromUrl url =>
    cluster.guarded (.applyManifestFromUrl url) fun cluster => (.ok (), cluster)
  | .removeNodeTaint node key effect =>
    cluster.guarded (.removeNodeTaint node key effect) fun cluster => (.ok (), cluster)
  | .deleteDaemonset ns name =>
    cluster.guarded (.deleteDaemonset ns name) fun cluster => (.ok (), cluster)
  | .deletePodsByLabel ns selector =>
    cluster.guarded (.deletePodsByLabel ns selector) fun cluster => (.ok (), cluster)
  | .rolloutRestart ns name =>
    cluster.guarded (.rolloutRestart ns name) fun cluster => (.ok (), cluster)

end ClusterScript
end Rehearsal
end PodNetwork
