import PodNetwork.Site
import PodNetwork.Cluster
import PodNetwork.Text.Path
import PodNetwork.Manifest.Phase

/-! Applying the manifests of a plan, phase by phase.

The definitions of kinds come first, then discovery is refreshed so that the new kinds are known,
then the setup, the labels of the control plane, and last the deployments, whose database pods
need a labelled node to run on. -/
namespace PodNetwork.Manifest

def databaseLabel : String := "k8s.ovn.org/ovnkube-db"

def controlPlaneLabel : String := "node-role.kubernetes.io/control-plane"

def masterTaint : String := "node-role.kubernetes.io/master"

def noSchedule : String := "NoSchedule"

def applyFile (phase : Phase) (dir cluster file : String) : Routine Unit := do
  let path := Path.join dir file
  let content ← (Site.readFile path).mapError fun e =>
    .manifestUnreadable path phase.name e.text
  (Site.applyManifest content).mapError fun e =>
    .manifestRejected file phase.name cluster e.text

def applyFiles (phase : Phase) (dir cluster : String) (files : List String) : Routine Unit :=
  files.forM (applyFile phase dir cluster)

def applyUrl (phase : Phase) (cluster url : String) : Routine Unit :=
  (Site.applyManifestFromUrl url).mapError fun e =>
    .manifestRejected url phase.name cluster e.text

def applyUrls (phase : Phase) (cluster : String) (urls : List String) : Routine Unit :=
  urls.forM (applyUrl phase cluster)

/-- The control-plane nodes of a cluster: those assigned as masters, and when there are none,
those that carry the label already. -/
def controlPlaneNodes (cluster : String) (roles : RoleAssignment) : Routine (List String) := do
  match roles.nodes cluster .master with
  | [] =>
    let nodes ← Site.getNodes
    return (nodes.filter fun n => n.labels.has controlPlaneLabel).map Node.name
  | assigned => return assigned

def controlPlaneLabels : Labels :=
  Labels.ofEntries [(databaseLabel, "true"), (controlPlaneLabel, "")]

/-- Labels a node and removes the taints that keep workloads off it. The taints are often not
there, so failing to remove them does not matter. -/
def prepareNode (cluster node : String) : Routine Unit := do
  (Site.labelNode node controlPlaneLabels).mapError fun e => .nodeUnlabeled node cluster e.text
  [masterTaint, controlPlaneLabel].forM fun key =>
    discard (Site.removeNodeTaint node key noSchedule).outcome

def prepareNodes (cluster : String) (nodes : List String) : Routine Unit :=
  nodes.forM (prepareNode cluster)

/-- Applies every phase of a plan. -/
def applyAll (dir : String) (plan : Plan) (cluster : String) (roles : RoleAssignment) :
    Routine Unit := do
  applyFiles .crds dir cluster plan.crds
  applyUrls .externalCrds cluster plan.externalCrds
  Site.invalidateDiscovery
  applyFiles .setup dir cluster plan.setup
  prepareNodes cluster (← controlPlaneNodes cluster roles)
  applyFiles .deployment dir cluster plan.deployments

end PodNetwork.Manifest
