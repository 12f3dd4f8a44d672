import PodNetwork.Config.Basic
import PodNetwork.Json.Value

/-! A configuration as a JSON value, with every field written out. -/
namespace PodNetwork.Config

def textOrNull (s : Option String) : Json := (s.map Json.string).getD .null

def Vm.json (vm : Vm) : Json := .ofMembers [
  ("name", .string vm.name), ("type", .string vm.type), ("k8s_cluster", .string vm.cluster),
  ("k8s_role", .string vm.role.name), ("k8s_node_ip", textOrNull vm.nodeIp)]

def Cluster.json (cluster : Cluster) : Json := .ofMembers [
  ("name", .string cluster.name), ("pod_cidr", .string cluster.podCidr),
  ("service_cidr", .string cluster.serviceCidr), ("cni", .string cluster.cni.name)]

def Container.json (container : Container) : Json := .ofMembers [
  ("name", .string container.name), ("cni", .string container.cni.name),
  ("tag", .string container.tag)]

def Kubernetes.json (kubernetes : Kubernetes) : Json := .ofMembers [
  ("version", textOrNull kubernetes.version),
  ("kubeconfig_dir", .string kubernetes.kubeconfigDir),
  ("clusters", .array (kubernetes.clusters.map Cluster.json))]

def json (config : Config) : Json :=
  let node (role : String) : Json := .ofMembers [("role", .string role)]
  let kind := config.containerNodes.map fun ns => Json.ofMembers [("nodes", .array (ns.map node))]
  let registry := config.registry.map fun cs =>
    Json.ofMembers [("containers", .array (cs.map Container.json))]
  .ofMembers [
    ("vms", .array (config.vms.map Vm.json)), ("kind", kind.getD .null),
    ("kubernetes", config.kubernetes.json), ("registry", registry.getD .null)]

end PodNetwork.Config
