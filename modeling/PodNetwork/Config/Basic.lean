import PodNetwork.Cluster
import PodNetwork.Install.OvnKubernetes

/-! What is deployed where: clusters with their networks and plugins, the virtual machines or
containers that are their nodes, and the images kept in the local registry. -/
namespace PodNetwork

namespace Config

/-- A virtual machine and its place in a cluster. -/
structure Vm where
  name : String
  type : String
  cluster : String
  role : NodeRole
  /-- The address of the machine on the cluster's network. -/
  nodeIp : Option String := none
  deriving DecidableEq, Repr, Inhabited

structure Cluster where
  name : String
  podCidr : String := "10.244.0.0/16"
  serviceCidr : String := "10.245.0.0/16"
  cni : Cni
  deriving DecidableEq, Repr, Inhabited

structure Kubernetes where
  version : Option String := none
  /-- Where the credentials of the clusters are kept. -/
  kubeconfigDir : String := "kubeconfig"
  clusters : List Cluster
  deriving DecidableEq, Repr, Inhabited

/-- An image built at the site and kept in the local registry. -/
structure Container where
  name : String
  cni : Cni
  /-- The local name of the image, and its name in the registry. -/
  tag : String
  deriving DecidableEq, Repr, Inhabited

end Config

structure Config where
  vms : List Config.Vm := []
  /-- The roles of the nodes that are containers, if the site has a section for such nodes. -/
  containerNodes : Option (List String) := none
  kubernetes : Config.Kubernetes
  /-- The images of the registry, if the site has a section for them. -/
  registry : Option (List Config.Container) := none
  deriving DecidableEq, Repr, Inhabited

namespace Config

/-- What makes a configuration unusable, or usable only with other options. -/
inductive Fault where
  | noClusters
  | unnamedCluster
  | duplicateCluster (name : String)
  | machinesAndContainers
  | severalContainerClusters
  | unknownCluster (vm cluster : String)
  | untaggedContainer (name : String)
  | noApiServer (cluster : String)
  | ambiguousApiServer
  deriving DecidableEq, Repr, Inhabited

def Fault.text : Fault → String
  | .noClusters => "kubernetes.clusters must not be empty"
  | .unnamedCluster => "cluster name must not be empty"
  | .duplicateCluster name => s!"duplicate cluster name '{name}'"
  | .machinesAndContainers => "config defines both vms and kind; pick one deployment mode"
  | .severalContainerClusters => "kind mode supports exactly one cluster"
  | .unknownCluster vm cluster => s!"vm '{vm}' references unknown cluster '{cluster}'"
  | .untaggedContainer name => s!"registry container '{name}' has an empty tag"
  | .noApiServer cluster => s!"cluster '{cluster}' has no master VM with a k8s_node_ip"
  | .ambiguousApiServer => "--api-server needs --cluster when the config has several clusters"

def clusters (config : Config) : List Cluster := config.kubernetes.clusters

def hasContainerNodes (config : Config) : Bool := config.containerNodes.any fun ns => !ns.isEmpty

def isContainerized (config : Config) : Bool := config.vms.isEmpty && config.hasContainerNodes

def containers (config : Config) : List Container := config.registry.getD []

def cluster? (config : Config) (name : String) : Option Cluster :=
  config.clusters.find? fun c => c.name = name

def roles (config : Config) : RoleAssignment :=
  config.vms.foldl (fun roles vm => roles.assign vm.cluster vm.role vm.name) {}

/-- The roles are assigned in the order of the machines. -/
theorem entries_roles (config : Config) :
    config.roles.entries = config.vms.map fun vm => (vm.cluster, vm.role, vm.name) := by
  have assigned (vms : List Vm) (roles : RoleAssignment) :
      (vms.foldl (fun roles vm => roles.assign vm.cluster vm.role vm.name) roles).entries =
        roles.entries ++ vms.map fun vm => (vm.cluster, vm.role, vm.name) := by
    induction vms generalizing roles with
    | nil => simp
    | cons vm vms ih =>
      rw [List.foldl_cons, ih, RoleAssignment.assign, List.append_assoc]
      rfl
  exact assigned config.vms {}

theorem nodes_roles (config : Config) (cluster : String) (role : NodeRole) :
    config.roles.nodes cluster role =
      (config.vms.filter fun vm => vm.cluster = cluster ∧ vm.role = role).map Vm.name := by
  rw [RoleAssignment.nodes, entries_roles, List.filter_map, List.map_map]
  rfl

def kubeconfigPath (config : Config) (cluster : String) : String :=
  Path.join config.kubernetes.kubeconfigDir (cluster ++ ".yaml")

/-- The host at which the nodes of a cluster reach its API server: the container of the control
plane, or the first master that has an address. -/
def apiServerHost (config : Config) (cluster : String) : Except Fault String :=
  if config.isContainerized then .ok (cluster ++ "-control-plane")
  else
    let masters := config.vms.filter fun vm => vm.cluster = cluster ∧ vm.role = .master
    match masters.findSome? Vm.nodeIp with
    | some ip => .ok ip
    | none => .error (.noApiServer cluster)

/-- The target of installing on a cluster, with the host of the API server if one is asked for. -/
def target (config : Config) (cluster : Cluster) (apiServer : Option String) :
    Except Fault ClusterTarget := do
  let host ← match apiServer with
    | some host => pure host
    | none => config.apiServerHost cluster.name
  return .ofHost cluster.name cluster.podCidr cluster.serviceCidr host

def container? (config : Config) (cni : Cni) : Option Container :=
  config.containers.find? fun c => c.cni = cni

def registryEndpoint : String := "localhost:5000"

def registryImage (tag : String) : String := registryEndpoint ++ "/" ++ tag

def buildImage (config : Config) : String :=
  match config.container? .ovnKubernetes with
  | some container => container.tag
  | none => ({} : Install.OvnOptions).buildImage

def daemonsetImage (config : Config) : String :=
  match config.container? .ovnKubernetes with
  | some container => registryImage container.tag
  | none => ({} : Install.OvnOptions).daemonsetImage

/-- The settings of an install of OVN-Kubernetes. An image of the registry is pushed there. -/
def ovnOptions (config : Config) (ref : Option String) : Install.OvnOptions where
  daemonsetImage := config.daemonsetImage
  buildImage := config.buildImage
  ovnGitRef := ref
  pushDaemonsetImage := (config.container? .ovnKubernetes).isSome

end Config
end PodNetwork
