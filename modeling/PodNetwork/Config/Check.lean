import PodNetwork.Config.Basic

/-! Finding the faults of a configuration.

Clusters are looked at one by one, then the nodes, then the machines, then the images; the first
fault found is the one that is told. -/
namespace PodNetwork.Config

/-- Looks for clusters without a name, and for names that were given before. -/
def checkNames : (before : List String) → List Cluster → Except Fault Unit
  | _, [] => .ok ()
  | before, cluster :: rest =>
    if cluster.name = "" then .error .unnamedCluster
    else if cluster.name ∈ before then .error (.duplicateCluster cluster.name)
    else checkNames (cluster.name :: before) rest

/-- Nodes are either machines or containers, and containers make up a single cluster. -/
def checkNodes (config : Config) : Except Fault Unit :=
  if !config.hasContainerNodes then .ok ()
  else if !config.vms.isEmpty then .error .machinesAndContainers
  else if config.clusters.length ≠ 1 then .error .severalContainerClusters
  else .ok ()

def checkVm (config : Config) (vm : Vm) : Except Fault Unit :=
  if (config.cluster? vm.cluster).isSome then .ok ()
  else .error (.unknownCluster vm.name vm.cluster)

def checkContainer (container : Container) : Except Fault Unit :=
  if container.tag = "" then .error (.untaggedContainer container.name) else .ok ()

def check (config : Config) : Except Fault Unit := do
  if config.clusters.isEmpty then throw .noClusters
  checkNames [] config.clusters
  config.checkNodes
  config.vms.forM config.checkVm
  config.containers.forM checkContainer

end PodNetwork.Config
