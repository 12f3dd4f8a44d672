import PodNetwork.Config.Basic
import PodNetwork.Yaml.Record

/-! Reading a configuration from YAML. Sections and fields that are not listed here are left
unread. -/
namespace PodNetwork.Config

open Yaml

def Vm.ofNode? (d : Document) (node : Yaml.Node) : Option Vm := do
  let fields ← d.record? ["name", "type", "k8s_cluster", "k8s_role", "k8s_node_ip"] node
  return {
    name := ← fields.required "name" d.text?
    type := ← fields.required "type" d.text?
    cluster := ← fields.required "k8s_cluster" d.text?
    role := ← fields.required "k8s_role" fun n => (d.choice? n).bind NodeRole.ofName?
    nodeIp := ← fields.optional "k8s_node_ip" none (d.optional? d.text?) }

def containerNode? (d : Document) (node : Yaml.Node) : Option String := do
  (← d.record? ["role"] node).required "role" d.text?

def containerNodes? (d : Document) (node : Yaml.Node) : Option (List String) := do
  (← d.record? ["nodes"] node).optional "nodes" [] (d.list? (containerNode? d))

def cni? (d : Document) (node : Yaml.Node) : Option Cni := (d.choice? node).bind Cni.ofName?

def Cluster.ofNode? (d : Document) (node : Yaml.Node) : Option Cluster := do
  let fields ← d.record? ["name", "pod_cidr", "service_cidr", "cni"] node
  let plain : Cluster := { name := ← fields.required "name" d.text?
                           cni := ← fields.required "cni" (cni? d) }
  return { plain with
    podCidr := ← fields.optional "pod_cidr" plain.podCidr d.text?
    serviceCidr := ← fields.optional "service_cidr" plain.serviceCidr d.text? }

def Kubernetes.ofNode? (d : Document) (node : Yaml.Node) : Option Kubernetes := do
  let fields ← d.record? ["version", "kubeconfig_dir", "clusters"] node
  let plain : Kubernetes := {
    clusters := ← fields.required "clusters" (d.list? (Cluster.ofNode? d)) }
  return { plain with
    version := ← fields.optional "version" none (d.optional? d.text?)
    kubeconfigDir := ← fields.optional "kubeconfig_dir" plain.kubeconfigDir d.text? }

def Container.ofNode? (d : Document) (node : Yaml.Node) : Option Container := do
  let fields ← d.record? ["name", "cni", "tag"] node
  return ⟨← fields.required "name" d.text?, ← fields.required "cni" (cni? d),
    ← fields.required "tag" d.text?⟩

def registryImages? (d : Document) (node : Yaml.Node) : Option (List Container) := do
  (← d.record? ["containers"] node).optional "containers" [] (d.list? (Container.ofNode? d))

def ofDocument? (d : Document) : Option Config := do
  let fields ← d.record? ["vms", "kind", "kubernetes", "registry"] d.root
  return {
    vms := ← fields.optional "vms" [] (d.list? (Vm.ofNode? d))
    containerNodes := ← fields.optional "kind" none (d.optional? (containerNodes? d))
    kubernetes := ← fields.required "kubernetes" (Kubernetes.ofNode? d)
    registry := ← fields.optional "registry" none (d.optional? (registryImages? d)) }

def ofText? (text : String) : Option Config := (Document.only? text).bind ofDocument?

end PodNetwork.Config
