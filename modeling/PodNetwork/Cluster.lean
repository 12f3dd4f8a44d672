import PodNetwork.Error

/-! Clusters to install on, and the roles of their nodes. -/
namespace PodNetwork

structure ClusterTarget where
  name : String
  podCidr : String
  serviceCidr : String
  apiServerUrl : String
  deriving DecidableEq, Repr, Inhabited

namespace ClusterTarget

def apiServerPort : Nat := 6443

def urlOf (host : String) : String := s!"https://{host}:{apiServerPort}"

def ofHost (name podCidr serviceCidr host : String) : ClusterTarget :=
  ⟨name, podCidr, serviceCidr, urlOf host⟩

end ClusterTarget

structure Access where
  cluster : String := ""
  server : String := ""
  deriving DecidableEq, Repr, Inhabited

inductive NodeRole where
  | master
  | worker
  deriving DecidableEq, Repr, Inhabited

namespace NodeRole

def name : NodeRole → String
  | .master => "master"
  | .worker => "worker"

def ofName? : String → Option NodeRole
  | "master" => some .master
  | "worker" => some .worker
  | _ => none

def parse (s : String) : Attempt NodeRole :=
  match ofName? s with
  | some role => .ok role
  | none => .error (.config s!"invalid k8s role '{s}', expected master or worker")

end NodeRole

/-- Which nodes have which role in which cluster, in the order they were assigned. -/
structure RoleAssignment where
  entries : List (String × NodeRole × String) := []
  deriving DecidableEq, Repr, Inhabited

namespace RoleAssignment

def assign (roles : RoleAssignment) (cluster : String) (role : NodeRole) (node : String) :
    RoleAssignment := ⟨roles.entries ++ [(cluster, role, node)]⟩

def nodes (roles : RoleAssignment) (cluster : String) (role : NodeRole) : List String :=
  (roles.entries.filter fun e => e.1 = cluster ∧ e.2.1 = role).map fun e => e.2.2

def hasCluster (roles : RoleAssignment) (cluster : String) : Bool :=
  roles.entries.any fun e => e.1 = cluster

@[simp] theorem nodes_assign (roles : RoleAssignment) (cluster c : String) (role r : NodeRole)
    (node : String) :
    (roles.assign c r node).nodes cluster role =
      roles.nodes cluster role ++ if c = cluster ∧ r = role then [node] else [] := by
  by_cases h : c = cluster ∧ r = role <;> simp [assign, nodes, List.filter_append, h]

end RoleAssignment
end PodNetwork
