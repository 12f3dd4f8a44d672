import PodNetwork.Corefile.Patch
import PodNetwork.Image.Build
import PodNetwork.Install.Report
import PodNetwork.Manifest.Deploy
import PodNetwork.Readiness

/-! Installing and redeploying OVN-Kubernetes from an image built at the site.

An install patches the cluster's DNS, provides the source tree and the image, renders the
manifests and applies them phase by phase, waits for the pods, and at last removes the proxy that
OVN-Kubernetes replaces. A redeploy applies the deployments that were rendered last and lets the
pods be created anew. -/
namespace PodNetwork.Install

/-- The settings of an install. -/
structure OvnOptions where
  /-- The image that the rendered daemonsets refer to. -/
  daemonsetImage : String := "ghcr.io/ovn-kubernetes/ovn-kubernetes/ovn-kube-fedora:master"
  /-- The local name of the image that is built. -/
  buildImage : String := "ovn-kube-fedora:dpu-sim"
  /-- The ref to compile from, instead of using prebuilt packages. -/
  ovnGitRef : Option String := none
  /-- Whether to deploy a separate switch on every node. -/
  ovsNode : Bool := false
  /-- Whether to push the built image under the name of the daemonset image. -/
  pushDaemonsetImage : Bool := false
  dnsServer : String := Corefile.defaultServer
  extraTld : String := Corefile.defaultTopLevelDomain
  /-- How long to wait for the pods, in milliseconds. -/
  readinessTimeout : Nat := 300000
  /-- The time between two listings of pods, in milliseconds. -/
  pollInterval : Nat := Readiness.defaultInterval
  deriving DecidableEq, Repr, Inhabited

namespace OvnKubernetes

def ns : String := "ovn-kubernetes"

def componentLabels : List String :=
  ["ovnkube-db", "ovnkube-master", "ovnkube-node", "ovnkube-identity"]

def kubeProxy : String := "kube-proxy"

def renderScript : String := "daemonset.sh"

/-- The settings with which every cluster is rendered. -/
def fixedArguments : List String := [
    "--gateway-mode=shared",
    "--dummy-gateway-bridge=false",
    "--gateway-options=",
    "--enable-ipsec=false",
    "--hybrid-enabled=false",
    "--disable-snat-multiple-gws=false",
    "--disable-forwarding=false",
    "--ovn-encap-port=",
    "--disable-pkt-mtu-check=false",
    "--ovn-empty-lb-events=false",
    "--multicast-enabled=false",
    "--ovn-master-count=1",
    "--ovn-unprivileged-mode=no",
    "--master-loglevel=5",
    "--node-loglevel=5",
    "--dbchecker-loglevel=5",
    "--ovn-loglevel-northd=-vconsole:info -vfile:info",
    "--ovn-loglevel-nb=-vconsole:info -vfile:info",
    "--ovn-loglevel-sb=-vconsole:info -vfile:info",
    "--ovn-loglevel-controller=-vconsole:info",
    "--ovnkube-libovsdb-client-logfile=",
    "--ovnkube-config-duration-enable=true",
    "--admin-network-policy-enable=true",
    "--egress-ip-enable=true",
    "--egress-ip-healthcheck-port=9107",
    "--egress-firewall-enable=true",
    "--egress-qos-enable=true",
    "--egress-service-enable=true",
    "--v4-join-subnet=100.64.0.0/16",
    "--v6-join-subnet=fd98::/64",
    "--v4-masquerade-subnet=169.254.0.0/17",
    "--v6-masquerade-subnet=fd69::/112",
    "--v4-transit-subnet=100.88.0.0/16",
    "--v6-transit-subnet=fd97::/64",
    "--ex-gw-network-interface=",
    "--multi-network-enable=false",
    "--network-segmentation-enable=false",
    "--preconfigured-udn-addresses-enable=false",
    "--route-advertisements-enable=false",
    "--advertise-default-network=false",
    "--advertised-udn-isolation-mode=strict",
    "--ovnkube-metrics-scale-enable=false",
    "--compact-mode=false",
    "--enable-multi-external-gateway=true",
    "--enable-ovnkube-identity=true",
    "--enable-persistent-ips=true",
    "--network-qos-enable=false",
    "--mtu=1400",
    "--enable-dnsnameresolver=false",
    "--enable-observ=false"]

def renderArguments (image : String) (cluster : ClusterTarget) : List String :=
  ["--image=" ++ image, "--net-cidr=" ++ cluster.podCidr, "--svc-cidr=" ++ cluster.serviceCidr,
    "--k8s-apiserver=" ++ cluster.apiServerUrl] ++ fixedArguments

end OvnKubernetes

structure OvnInstaller where
  engine : EngineName
  source : SourceTree
  roles : RoleAssignment
  options : OvnOptions
  policy : Corefile.Policy
  deriving DecidableEq, Repr, Inhabited

namespace OvnInstaller

open OvnKubernetes

def offline (engine : EngineName) (source : SourceTree) (roles : RoleAssignment)
    (options : OvnOptions) : OvnInstaller :=
  ⟨engine, source, roles, options, .offline options.extraTld⟩

/-- Pushes the built image under the name that the daemonsets refer to. -/
def publish (installer : OvnInstaller) (image : String) : Routine Unit := do
  let target := installer.options.daemonsetImage
  if image ≠ target then Site.tag image target
  Site.push target true

def manifestDir (tree : String) : String := Path.join (Path.join tree "dist") "yaml"

def render (installer : OvnInstaller) (tree : String) (cluster : ClusterTarget) :
    Routine Unit := do
  let dir := Path.join (Path.join tree "dist") "images"
  let script := Path.join dir renderScript
  if !(← Site.fileExists script) then throw (.sourceUnavailable tree (script ++ " not found"))
  Site.runIn dir "bash" <|
    ("./" ++ renderScript) :: renderArguments installer.options.daemonsetImage cluster

def waitReady (installer : OvnInstaller) : Routine Unit :=
  Readiness.wait ns "" installer.options.readinessTimeout installer.options.pollInterval

def install (installer : OvnInstaller) (cluster : ClusterTarget) : Routine Report := do
  let options := installer.options
  let report : Report := { cluster := cluster.name, cni := .ovnKubernetes }
  let report ← softly report "coredns" <| Corefile.patch installer.policy options.dnsServer
  let tree ← installer.source.ensure
  let builder : Image.Builder := { engine := installer.engine, tree := installer.source }
  let built ← builder.buildOrReuse options.buildImage options.ovnGitRef
  if options.pushDaemonsetImage then installer.publish built.image
  installer.render tree cluster
  Manifest.applyAll (manifestDir tree) (.ovnKubernetes options.ovsNode) cluster.name
    installer.roles
  let report ← softly report "readiness" installer.waitReady
  Site.deleteDaemonset systemNamespace kubeProxy
  return report

def recycle (report : Report) (label : String) : Routine Report :=
  anyway report "delete-pods" <| Site.deletePodsByLabel ns ("name=" ++ label)

/-- Applies the deployments and has the pods of all components created anew. -/
def redeployComponents (installer : OvnInstaller) (cluster : ClusterTarget) : Routine Report := do
  let tree ← installer.source.ensure
  Manifest.applyFiles .deployment (manifestDir tree) cluster.name (Manifest.deploymentFiles false)
  let report ← componentLabels.foldlM recycle
    { cluster := cluster.name, cni := .ovnKubernetes }
  softly report "readiness" installer.waitReady

def redeploy (installer : OvnInstaller) (cluster : ClusterTarget) : Routine Redeployment := do
  let report ← (installer.redeployComponents cluster).mapError fun e =>
    .redeployFailed cluster.name e.text
  return .redeployed report

end OvnInstaller
end PodNetwork.Install
