import Mathlib.Data.List.Nodup
import PodNetwork.Command.Failure

/-! Which configurations can be acted on.

The check looks for one fault after the other. What it accepts in the end is told by conditions on
the whole configuration, and the lookups of clusters and roles rely on these: a name leads to one
cluster only, and every machine is a node of a cluster that there is. -/
namespace PodNetwork.Config

/-- The conditions that a configuration has to meet. -/
structure Faultless (config : Config) : Prop where
  some_cluster : config.clusters ≠ []
  named : ∀ cluster ∈ config.clusters, cluster.name ≠ ""
  distinct : (config.clusters.map Cluster.name).Nodup
  /-- Nodes are not both machines and containers. -/
  one_kind : config.vms = [] ∨ config.containerNodes.getD [] = []
  one_cluster : config.containerNodes.getD [] ≠ [] → config.clusters.length = 1
  placed : ∀ vm ∈ config.vms, ∃ cluster ∈ config.clusters, cluster.name = vm.cluster
  tagged : ∀ container ∈ config.registry.getD [], container.tag ≠ ""

/-- What can be relied on in a configuration without faults. -/
structure Dependable (config : Config) : Prop where
  containerized_iff : config.isContainerized = true ↔ config.containerNodes.getD [] ≠ []
  single : config.isContainerized = true → ∃ cluster, config.clusters = [cluster]
  cluster_eq : ∀ cluster ∈ config.clusters, config.cluster cluster.name = .ok cluster
  select_eq : ∀ cluster ∈ config.clusters, config.select (some cluster.name) = .ok [cluster]
  /-- A cluster in which a node has a role is one that there is. -/
  assigned : ∀ name, config.roles.hasCluster name = true →
    ∃ cluster ∈ config.clusters, cluster.name = name
  /-- The nodes of a cluster are machines of the configuration. -/
  nodes_eq : ∀ name role, config.roles.nodes name role =
    (config.vms.filter fun vm => vm.cluster = name ∧ vm.role = role).map Vm.name

section

variable {config : Config}

theorem bind_ok_iff {α : Type} {step : Except Fault Unit} {rest : Unit → Except Fault α} {a : α} :
    step >>= rest = .ok a ↔ step = .ok () ∧ rest () = .ok a := by
  cases step <;> simp [bind, Except.bind]

theorem forM_ok_iff {α : Type} {items : List α} {step : α → Except Fault PUnit} :
    items.forM step = .ok () ↔ ∀ a ∈ items, step a = .ok () := by
  induction items with
  | nil => exact ⟨fun _ _ ha => absurd ha List.not_mem_nil, fun _ => rfl⟩
  | cons a rest ih =>
    have split : (a :: rest).forM step = step a >>= fun _ => rest.forM step := rfl
    rw [split, bind_ok_iff, ih, List.forall_mem_cons]

theorem hasContainerNodes_iff :
    config.hasContainerNodes = true ↔ config.containerNodes.getD [] ≠ [] := by
  unfold hasContainerNodes
  cases config.containerNodes <;> simp

theorem isContainerized_iff :
    config.isContainerized = true ↔ config.vms = [] ∧ config.containerNodes.getD [] ≠ [] := by
  rw [isContainerized, Bool.and_eq_true, hasContainerNodes_iff, List.isEmpty_iff]

/-- The names looked at before count as if they stood in front. -/
theorem checkNames_ok_iff {before : List String} {clusters : List Cluster} :
    checkNames before clusters = .ok () ↔
      (∀ cluster ∈ clusters, cluster.name ≠ "" ∧ cluster.name ∉ before) ∧
        (clusters.map Cluster.name).Nodup := by
  induction clusters generalizing before with
  | nil => simp [checkNames]
  | cons cluster rest ih =>
    rw [checkNames, List.forall_mem_cons, List.map_cons, List.nodup_cons]
    by_cases unnamed : cluster.name = ""
    · simp [unnamed]
    by_cases repeated : cluster.name ∈ before
    · simp [unnamed, repeated]
    rw [if_neg unnamed, if_neg repeated, ih]
    -- the name moves from the names seen before to the condition that it does not come again
    constructor
    · rintro ⟨later, distinct⟩
      have fresh : cluster.name ∉ rest.map Cluster.name := by
        intro again
        obtain ⟨other, hother, same⟩ := List.mem_map.mp again
        exact (later other hother).2 (same ▸ List.mem_cons_self)
      refine ⟨⟨⟨unnamed, repeated⟩, fun other hother => ?_⟩, fresh, distinct⟩
      have apart := later other hother
      exact ⟨apart.1, fun seen => apart.2 (List.mem_cons_of_mem _ seen)⟩
    · rintro ⟨⟨-, later⟩, fresh, distinct⟩
      refine ⟨fun other hother => ⟨(later other hother).1, ?_⟩, distinct⟩
      intro seen
      rcases List.mem_cons.mp seen with same | seen
      · exact fresh (same ▸ List.mem_map_of_mem hother)
      · exact (later other hother).2 seen

theorem checkNodes_ok_iff :
    config.checkNodes = .ok () ↔
      (config.vms = [] ∨ config.containerNodes.getD [] = []) ∧
        (config.containerNodes.getD [] ≠ [] → config.clusters.length = 1) := by
  unfold checkNodes
  by_cases nodes : config.containerNodes.getD [] = []
  · have none_there : config.hasContainerNodes = false :=
      Bool.eq_false_iff.mpr fun some_there => hasContainerNodes_iff.mp some_there nodes
    simp [nodes, none_there]
  · have some_there : config.hasContainerNodes = true := hasContainerNodes_iff.mpr nodes
    by_cases machines : config.vms = [] <;>
      by_cases one : config.clusters.length = 1 <;> simp [nodes, some_there, machines, one]

theorem cluster?_isSome_iff {name : String} :
    (config.cluster? name).isSome = true ↔ ∃ cluster ∈ config.clusters, cluster.name = name := by
  simp [cluster?]

theorem checkVm_ok_iff {vm : Vm} :
    config.checkVm vm = .ok () ↔ ∃ cluster ∈ config.clusters, cluster.name = vm.cluster := by
  rw [← cluster?_isSome_iff, checkVm]
  split <;> simp_all

theorem checkContainer_ok_iff {container : Container} :
    checkContainer container = .ok () ↔ container.tag ≠ "" := by
  unfold checkContainer
  split <;> simp_all

theorem faultless_of_check (accepted : config.check = .ok ()) : Faultless config := by
  unfold check at accepted
  split at accepted
  · cases accepted
  · next some_cluster =>
    simp only [bind_ok_iff, forM_ok_iff, checkNames_ok_iff, checkNodes_ok_iff, checkVm_ok_iff,
      checkContainer_ok_iff] at accepted
    obtain ⟨⟨named, distinct⟩, ⟨one_kind, one_cluster⟩, placed, tagged⟩ := accepted
    exact {
      some_cluster := by simpa using some_cluster
      named := fun cluster hcluster => (named cluster hcluster).1
      distinct, one_kind, one_cluster, placed, tagged }

theorem check_of_faultless (faultless : Faultless config) : config.check = .ok () := by
  unfold check
  have some_cluster : ¬ config.clusters.isEmpty = true := by simpa using faultless.some_cluster
  rw [if_neg some_cluster]
  simp only [bind_ok_iff, forM_ok_iff, checkNames_ok_iff, checkNodes_ok_iff, checkVm_ok_iff,
    checkContainer_ok_iff]
  have named : ∀ cluster ∈ config.clusters, cluster.name ≠ "" ∧ cluster.name ∉ ([] : List String) :=
    fun cluster hcluster => ⟨faultless.named cluster hcluster, List.not_mem_nil⟩
  exact ⟨⟨named, faultless.distinct⟩, ⟨faultless.one_kind, faultless.one_cluster⟩,
    faultless.placed, faultless.tagged⟩

theorem check_ok_iff : config.check = .ok () ↔ Faultless config :=
  ⟨faultless_of_check, check_of_faultless⟩

/-- As names are distinct, the first cluster of a name is the only one. -/
theorem Faultless.cluster?_eq (faultless : Faultless config) {cluster : Cluster}
    (listed : cluster ∈ config.clusters) : config.cluster? cluster.name = some cluster := by
  cases hfound : config.cluster? cluster.name with
  | none =>
    have missing := List.find?_eq_none.mp hfound cluster listed
    exact absurd (decide_eq_true rfl) missing
  | some found =>
    have same : found.name = cluster.name := by simpa using List.find?_some hfound
    have there : found ∈ config.clusters := List.mem_of_find?_eq_some hfound
    rw [List.inj_on_of_nodup_map faultless.distinct there listed same]

theorem hasCluster_roles_iff {name : String} :
    config.roles.hasCluster name = true ↔ ∃ vm ∈ config.vms, vm.cluster = name := by
  rw [RoleAssignment.hasCluster, entries_roles]
  simp

theorem Faultless.dependable (faultless : Faultless config) : Dependable config where
  containerized_iff := by
    rw [isContainerized_iff]
    refine ⟨And.right, fun nodes => ⟨?_, nodes⟩⟩
    exact faultless.one_kind.resolve_right nodes
  single := by
    intro containerized
    exact List.length_eq_one_iff.mp (faultless.one_cluster (isContainerized_iff.mp containerized).2)
  cluster_eq := by
    intro cluster listed
    rw [Config.cluster, faultless.cluster?_eq listed]
  select_eq := by
    intro cluster listed
    rw [select, Config.cluster, faultless.cluster?_eq listed]
    rfl
  assigned := by
    intro name has
    obtain ⟨vm, hvm, rfl⟩ := hasCluster_roles_iff.mp has
    exact faultless.placed vm hvm
  nodes_eq := nodes_roles config

/-- The check accepts the configurations without faults and no others, and what it accepts can be
relied on. -/
theorem check_accepts (config : Config) :
    (config.check = .ok () ↔ Faultless config) ∧ (config.check = .ok () → Dependable config) :=
  ⟨check_ok_iff, fun accepted => (faultless_of_check accepted).dependable⟩

/-- Three clusters of virtual machines, and an image for the registry. -/
def threeClusters : Config where
  vms := [
    { name := "host-1", type := "host", cluster := "host", role := .master,
      nodeIp := some "192.168.100.10" },
    { name := "dpu-1", type := "dpu", cluster := "dpu", role := .master,
      nodeIp := some "192.168.100.20" },
    { name := "dpu-2", type := "dpu", cluster := "dpu", role := .worker },
    { name := "edge-1", type := "host", cluster := "edge", role := .master,
      nodeIp := some "192.168.100.30" }]
  kubernetes.clusters := [
    { name := "host", cni := .flannel },
    { name := "dpu", cni := .kindnet },
    { name := "edge", cni := .flannel }]
  registry := some [{ name := "ovn-kube", cni := .ovnKubernetes, tag := "ovn-kube-fedora:dev" }]

theorem check_accepts_threeClusters :
    threeClusters.check = .ok () ∧ Dependable threeClusters :=
  ⟨by decide, (check_accepts threeClusters).2 (by decide)⟩

end

end PodNetwork.Config
