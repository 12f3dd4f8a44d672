import PodNetwork.Install.Flannel
import PodNetwork.Install.OvnKubernetes

/-! The installer of each plugin. -/
namespace PodNetwork.Install

/-- What can be installed. Kindnet comes with clusters whose nodes are containers, so there is
nothing to install there, and it cannot be installed anywhere else. -/
inductive Installer where
  | flannel
  | ovnKubernetes (installer : OvnInstaller)
  | kindnet (containerNodes : Bool)
  deriving DecidableEq, Repr, Inhabited

/-- Everything an installer needs besides the cluster. -/
structure Context where
  /-- The engine for building images, if there is one. -/
  engine : Option EngineName
  source : SourceTree
  roles : RoleAssignment
  /-- Whether the nodes of the clusters are containers, and not virtual machines. -/
  containerNodes : Bool
  ovn : OvnOptions
  deriving DecidableEq, Repr, Inhabited

namespace Installer

/-- The installer of a plugin. Nodes that are containers do not run a switch of their own, so
OVN-Kubernetes brings one along for them. -/
def ofCni (context : Context) : Cni → Attempt Installer
  | .flannel => .ok .flannel
  | .ovnKubernetes =>
    match context.engine with
    | none => .error (.config "installing OVN-Kubernetes needs a container engine")
    | some engine => .ok (.ovnKubernetes (.offline engine context.source context.roles
        { context.ovn with ovsNode := context.containerNodes }))
  | .kindnet => .ok (.kindnet context.containerNodes)

def cni : Installer → Cni
  | .flannel => .flannel
  | .ovnKubernetes _ => .ovnKubernetes
  | .kindnet _ => .kindnet

def install (cluster : ClusterTarget) : Installer → Routine Report
  | .flannel => Flannel.install cluster
  | .ovnKubernetes installer => installer.install cluster
  | .kindnet true => return { cluster := cluster.name, cni := .kindnet }
  | .kindnet false => throw (.unsupported "kindnet install" ("VM cluster " ++ cluster.name))

def redeploy (cluster : ClusterTarget) : Installer → Routine Redeployment
  | .ovnKubernetes installer => installer.redeploy cluster
  | installer => return .unsupported installer.cni

theorem cni_ofCni {context : Context} {cni : Cni} {installer : Installer}
    (h : ofCni context cni = .ok installer) : installer.cni = cni := by
  cases cni with
  | flannel => cases h; rfl
  | kindnet => cases h; rfl
  | ovnKubernetes =>
    simp only [ofCni] at h
    split at h
    · cases h
    · cases h; rfl

end Installer
end PodNetwork.Install
