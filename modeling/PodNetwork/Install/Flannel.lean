import PodNetwork.Install.Report
import PodNetwork.Readiness
import PodNetwork.Json.Printer

/-! Installing Flannel from its published manifest. -/
namespace PodNetwork.Install.Flannel

def manifestUrl : String :=
  "https://github.com/flannel-io/flannel/releases/latest/download/kube-flannel.yml"

def ns : String := "kube-flannel"

def configMap : String := "kube-flannel-cfg"

def netConfKey : String := "net-conf.json"

def daemonset : String := "kube-flannel-ds"

/-- How long to wait for the pods, in milliseconds. -/
def readinessTimeout : Nat := 180000

def netConfJson (podCidr : String) : Json :=
  .object [("Backend", .object [("Type", .string "vxlan")]), ("Network", .string podCidr)]

def netConf (podCidr : String) : String := (netConfJson podCidr).text

/-- Applies the manifest, gives the network its addresses, and waits for the pods. Only the
manifest has to succeed. -/
def install (cluster : ClusterTarget) (interval : Nat := Readiness.defaultInterval) :
    Routine Report := do
  (Site.applyManifestFromUrl manifestUrl).mapError fun e =>
    .manifestRejected manifestUrl "flannel" cluster.name e.text
  let report : Report := { cluster := cluster.name, cni := .flannel }
  let report ← anyway report "flannel-config" <|
    Site.updateConfigMap ns configMap [(netConfKey, netConf cluster.podCidr)]
  let report ← anyway report "flannel-restart" <| Site.rolloutRestart ns daemonset
  softly report "readiness" <| Readiness.wait ns "" readinessTimeout interval

end PodNetwork.Install.Flannel
