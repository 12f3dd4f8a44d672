import PodNetwork.Error

/-! The manifests of an install, and the phases in which they are applied. -/
namespace PodNetwork.Manifest

/-- A group of manifests that are applied together. -/
inductive Phase where
  /-- Definitions of the kinds that the source tree brings along. -/
  | crds
  /-- Definitions of kinds that are fetched by URL. -/
  | externalCrds
  /-- The namespace, its configuration and its permissions. -/
  | setup
  /-- The control plane and the agents of the nodes. -/
  | deployment
  deriving DecidableEq, Repr, Inhabited

namespace Phase

def name : Phase → String
  | .crds => "crds"
  | .externalCrds => "external-crds"
  | .setup => "setup"
  | .deployment => "deployment"

def ofName? : String → Option Phase
  | "crds" => some .crds
  | "external-crds" => some .externalCrds
  | "setup" => some .setup
  | "deployment" => some .deployment
  | _ => none

def rank : Phase → Nat
  | .crds => 0
  | .externalCrds => 1
  | .setup => 2
  | .deployment => 3

def sort (phases : List Phase) : List Phase := phases.mergeSort fun a b => a.rank ≤ b.rank

end Phase

/-- The manifests of each phase, in the order in which they are applied. All but the external
ones are names of files. -/
structure Plan where
  crds : List String
  externalCrds : List String
  setup : List String
  deployments : List String
  deriving DecidableEq, Repr, Inhabited

def ovsNode : String := "ovs-node.yaml"

def deploymentFiles (withOvsNode : Bool) : List String :=
  "ovnkube-identity.yaml" :: (if withOvsNode then [ovsNode] else []) ++
    ["ovnkube-db.yaml", "ovnkube-master.yaml", "ovnkube-node.yaml"]

def networkPolicyBase : String :=
  "https://raw.githubusercontent.com/kubernetes-sigs/network-policy-api/v0.1.5/config/crd/" ++
    "experimental/policy.networking.k8s.io_"

/-- The manifests of a whole install. -/
def Plan.ovnKubernetes (withOvsNode : Bool) : Plan where
  crds := [
    "k8s.ovn.org_egressfirewalls.yaml",
    "k8s.ovn.org_egressips.yaml",
    "k8s.ovn.org_egressqoses.yaml",
    "k8s.ovn.org_egressservices.yaml",
    "k8s.ovn.org_adminpolicybasedexternalroutes.yaml",
    "k8s.ovn.org_networkqoses.yaml",
    "k8s.ovn.org_userdefinednetworks.yaml",
    "k8s.ovn.org_clusteruserdefinednetworks.yaml",
    "k8s.ovn.org_routeadvertisements.yaml",
    "k8s.ovn.org_clusternetworkconnects.yaml"]
  externalCrds := [
    networkPolicyBase ++ "adminnetworkpolicies.yaml",
    networkPolicyBase ++ "baselineadminnetworkpolicies.yaml"]
  setup := [
    "ovn-setup.yaml",
    "rbac-ovnkube-identity.yaml",
    "rbac-ovnkube-cluster-manager.yaml",
    "rbac-ovnkube-master.yaml",
    "rbac-ovnkube-node.yaml",
    "rbac-ovnkube-db.yaml"]
  deployments := deploymentFiles withOvsNode

end PodNetwork.Manifest
