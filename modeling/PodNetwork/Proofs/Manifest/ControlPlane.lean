import PodNetwork.Config.Basic
import PodNetwork.Proofs.Kubernetes.NodeServer
import PodNetwork.Proofs.Manifest.Sequence

/-! Preparing the control plane of a cluster, down to the nodes that its server keeps.

The nodes are the masters that a configuration has for the cluster, and only if it has none, those
that carry the label already. What is done to one node keeps the names of all nodes and leaves the
others alone, so that whole runs change the chosen nodes and no more. -/
namespace PodNetwork.Manifest

open Kubernetes Routine
open Procedure (Event Moment)

/-- A client of a server of nodes, with the state of the server and what has passed on the wire. -/
structure Dealings (σ : Type) where
  client : Client
  state : σ
  log : List (Moment Wire σ)

/-- How a site answers whose cluster is a server of nodes. What is not for the cluster does not get
to the server. -/
def serves {σ : Type} (server : NodeServer σ) (d : Dealings σ) (e : Event Site)
    (d' : Dealings σ) : Prop :=
  match e with
  | ⟨.cluster call, answer⟩ => ∃ more, d'.log = d.log ++ more ∧
    Procedure.Passes server.step (d.client.answer call) d.state more d'.state (answer, d'.client)
  | _ => d' = d

/-- The machines that are masters of a cluster, in the order of the configuration. -/
def masters (config : Config) (cluster : String) : List String :=
  (config.vms.filter fun vm => vm.cluster = cluster ∧ vm.role = .master).map Config.Vm.name

theorem nodes_roles (config : Config) (cluster : String) :
    config.roles.nodes cluster .master = masters config cluster :=
  config.nodes_roles cluster .master

/-- The nodes of the control plane of a cluster, given the nodes that its server keeps. -/
def controlPlane (config : Config) (cluster : String) (nodes : List (String × Json)) :
    List String :=
  match masters config cluster with
  | [] => (nodes.filter fun n => (labelsAt n.2 labelsPath).has controlPlaneLabel).map Prod.fst
  | named => named

def controlPlaneMarks : List (String × String) :=
  [(masterTaint, noSchedule), (controlPlaneLabel, noSchedule)]

def nodeCalls (node : String) : List Site.Call :=
  [.cluster (.labelNode node controlPlaneLabels),
    .cluster (.removeNodeTaint node masterTaint noSchedule),
    .cluster (.removeNodeTaint node controlPlaneLabel noSchedule)]

def isTaintFailure : Event Site → Bool
  | ⟨.cluster (.removeNodeTaint ..), .error _⟩ => true
  | _ => false

/-- What a run does: which calls it makes, which nodes it changes and how, and that nothing is sent
to the server without a reason. -/
structure Effect {σ : Type} (server : NodeServer σ) (names : List String) (calls : List Site.Call)
    (change : Json → Json → Prop) (log : List (Moment Site (Dealings σ))) (d d' : Dealings σ) :
    Prop where
  calls : log.map (fun m => m.event.call) = calls
  nodes : Alters names change (server.nodes d.state) (server.nodes d'.state)
  sent : ∃ more, d'.log = d.log ++ more ∧
    ∀ m ∈ more, Warranted server names controlPlaneLabels controlPlaneMarks m

namespace Effect

variable {σ : Type} {server : NodeServer σ} {names more : List String}
  {calls calls' : List Site.Call}
  {change change' change'' : Json → Json → Prop} {log later : List (Moment Site (Dealings σ))}
  {d mid d' : Dealings σ}

theorem nil : Effect server [] [] change [] d d where
  calls := rfl
  nodes := .refl fun _ _ hname => absurd hname List.not_mem_nil
  sent := ⟨[], (List.append_nil _).symm, List.forall_mem_nil _⟩

theorem sent_append (h : Effect server names calls change log d mid)
    (h' : Effect server more calls' change' later mid d') :
    ∃ sent, d'.log = d.log ++ sent ∧
      ∀ m ∈ sent, Warranted server (names ++ more) controlPlaneLabels controlPlaneMarks m := by
  obtain ⟨first, hfirst, hwarranted⟩ := h.sent
  obtain ⟨last, hlast, hwarranted'⟩ := h'.sent
  refine ⟨first ++ last, by rw [hlast, hfirst, List.append_assoc], ?_⟩
  exact List.forall_mem_append.mpr
    ⟨fun m hm => (hwarranted m hm).mono (List.subset_append_left _ _),
      fun m hm => (hwarranted' m hm).mono (List.subset_append_right _ _)⟩

/-- Two changes of the same nodes, one after the other. -/
theorem trans (h : Effect server names calls change log d mid)
    (h' : Effect server names calls' change' later mid d')
    (both : ∀ a b c, change a b → change' b c → change'' a c) :
    Effect server names (calls ++ calls') change'' (log ++ later) d d' where
  calls := by rw [List.map_append, h.calls, h'.calls]
  nodes := h.nodes.trans h'.nodes both
  sent := by
    obtain ⟨sent, hsent, hwarranted⟩ := h.sent_append h'
    exact ⟨sent, hsent, fun m hm => (hwarranted m hm).mono (by simp)⟩

/-- The same change of some nodes and then of others. -/
theorem append (h : Effect server names calls change log d mid)
    (h' : Effect server more calls' change later mid d')
    (twice : ∀ a b c, change a b → change b c → change a c) :
    Effect server (names ++ more) (calls ++ calls') change (log ++ later) d d' where
  calls := by rw [List.map_append, h.calls, h'.calls]
  nodes := h.nodes.append h'.nodes twice
  sent := h.sent_append h'

end Effect

section Runs

variable {σ : Type} {server : NodeServer σ} {cluster name key : String} {names : List String}
  {log : List (Moment Site (Dealings σ))} {d d' : Dealings σ}

/-- A call of a cluster in a run. -/
theorem served_of_passes {call : ClusterCall} {answer : call.Answer}
    (h : Procedure.Passes (serves server) (.call (I := Site) (.cluster call)) d log d' answer) :
    log = [⟨d, ⟨.cluster call, answer⟩⟩] ∧ ∃ more, d'.log = d.log ++ more ∧
      Procedure.Passes server.step (d.client.answer call) d.state more d'.state
        (answer, d'.client) :=
  Procedure.passes_call_iff.mp h

theorem effect_labelNode (segment : IsSegment name)
    (h : Passes (serves server) (Site.labelNode name controlPlaneLabels) d log d' (.ok ())) :
    name ∈ (server.nodes d.state).map Prod.fst ∧
      Effect server [name] [.cluster (.labelNode name controlPlaneLabels)]
        (Changed controlPlaneLabels []) log d d' := by
  obtain ⟨rfl, more, hlog, served⟩ := served_of_passes h
  have distinct : (controlPlaneLabels.map Prod.fst).Nodup := by decide
  obtain ⟨there, alters, warranted⟩ := NodeServer.label_effect distinct segment served
  exact ⟨there, rfl, alters, more, hlog, fun m hm => warranted m hm controlPlaneMarks⟩

theorem effect_removeNodeTaint {result : Attempt Unit}
    (marked : (key, noSchedule) ∈ controlPlaneMarks) (segment : IsSegment name)
    (distinct : ((server.nodes d.state).map Prod.fst).Nodup)
    (h : Passes (serves server) (Site.removeNodeTaint name key noSchedule) d log d' result)
    (untainted : ∀ m ∈ log, isTaintFailure m.event = false) :
    Effect server [name] [.cluster (.removeNodeTaint name key noSchedule)]
      (Changed [] [(key, noSchedule)]) log d d' := by
  obtain ⟨rfl, more, hlog, served⟩ := served_of_passes h
  cases result with
  | error e => cases untainted _ (List.mem_singleton_self _)
  | ok =>
    obtain ⟨alters, warranted⟩ := NodeServer.untaint_effect segment distinct served
    exact ⟨rfl, alters, more, hlog, fun m hm => warranted m hm _ _ marked⟩

theorem effect_prepareNode (segment : IsSegment name)
    (distinct : ((server.nodes d.state).map Prod.fst).Nodup)
    (h : Passes (serves server) (prepareNode cluster name) d log d' (.ok ()))
    (untainted : ∀ m ∈ log, isTaintFailure m.event = false) :
    name ∈ (server.nodes d.state).map Prod.fst ∧
      Effect server [name] (nodeCalls name) (Changed controlPlaneLabels controlPlaneMarks)
        log d d' := by
  rcases passes_bind_iff.mp h with ⟨e, -, he⟩ | ⟨labelling, _, labelled, _, rfl, hl, ht⟩
  · cases he
  obtain ⟨first, _, mid, _, rfl, hfirst, ht⟩ := passes_discard_outcome_bind_iff.mp ht
  obtain ⟨second, _, last, _, rfl, hsecond, ht⟩ := passes_discard_outcome_bind_iff.mp ht
  obtain ⟨rfl, rfl, -⟩ := passes_pure_iff.mp ht
  rw [List.append_nil] at untainted ⊢
  obtain ⟨-, untainted⟩ := List.forall_mem_append.mp untainted
  obtain ⟨untainted, untainted'⟩ := List.forall_mem_append.mp untainted
  obtain ⟨there, labels⟩ := effect_labelNode segment (passes_mapError_ok_iff.mp hl)
  rw [← labels.nodes.names_eq] at distinct
  have master := effect_removeNodeTaint (by decide) segment distinct hfirst untainted
  rw [← master.nodes.names_eq] at distinct
  have control := effect_removeNodeTaint (by decide) segment distinct hsecond untainted'
  have taints := master.trans control fun _ _ _ => Changed.trans
  exact ⟨there, labels.trans taints fun _ _ _ => Changed.trans⟩

/-- Nodes are prepared one after the other, some of them perhaps more than once. -/
theorem effect_prepareNodes (segments : ∀ name ∈ names, IsSegment name)
    (distinct : ((server.nodes d.state).map Prod.fst).Nodup)
    (h : Passes (serves server) (prepareNodes cluster names) d log d' (.ok ()))
    (untainted : ∀ m ∈ log, isTaintFailure m.event = false) :
    (∀ name ∈ names, name ∈ (server.nodes d.state).map Prod.fst) ∧
      Effect server names (names.flatMap nodeCalls) (Changed controlPlaneLabels controlPlaneMarks)
        log d d' := by
  induction names generalizing d log with
  | nil =>
    obtain ⟨rfl, rfl, -⟩ := passes_pure_iff.mp h
    exact ⟨List.forall_mem_nil _, .nil⟩
  | cons name names ih =>
    obtain ⟨segment, segments⟩ := List.forall_mem_cons.mp segments
    rcases passes_bind_iff.mp h with ⟨e, -, he⟩ | ⟨before, _, mid, after, rfl, hfirst, hrest⟩
    · cases he
    obtain ⟨untainted, untainted'⟩ := List.forall_mem_append.mp untainted
    obtain ⟨there, first⟩ := effect_prepareNode segment distinct hfirst untainted
    have same := first.nodes.names_eq
    rw [← same] at distinct
    obtain ⟨others, rest⟩ := ih segments distinct hrest untainted'
    rw [same] at others
    exact ⟨List.forall_mem_cons.mpr ⟨there, others⟩,
      first.append rest fun _ _ _ => Changed.twice⟩

end Runs

/-- A site whose cluster is a store of nodes. -/
def storeSite : (c : SiteCall) → Dealings (List (String × Json)) →
    c.Answer × Dealings (List (String × Json))
  | .cluster call, d =>
    let passed := (d.client.answer call).passage (I := Wire) NodeStore.answer d.state
    (passed.2.2.1, ⟨passed.2.2.2, passed.2.1, d.log ++ passed.1⟩)
  | call, d => (Site.obliging call, d)

theorem serves_of_storeSite {d d' : Dealings (List (String × Json))} {e : Event Site}
    (h : storeSite e.call d = (e.answer, d')) : serves NodeStore.server d e d' := by
  obtain ⟨call, answer⟩ := e
  cases call with
  | cluster call =>
    cases h
    exact ⟨_, rfl, Procedure.passes_passage (I := Wire) NodeStore.answer _ _⟩
  | _ => exact (Prod.mk.inj h).2.symm

/-- A control plane is prepared at such a site. -/
def storeRun (config : Config) (cluster : String) (nodes : List (String × Json)) :
    List (Moment Site (Dealings (List (String × Json)))) × Dealings (List (String × Json)) ×
      Attempt Unit :=
  (ExceptT.run (prepareControlPlane cluster config.roles)).passage (I := Site) storeSite
    ⟨{}, nodes, []⟩

theorem passes_storeRun (config : Config) (cluster : String) (nodes : List (String × Json)) :
    Passes (serves NodeStore.server) (prepareControlPlane cluster config.roles) ⟨{}, nodes, []⟩
      (storeRun config cluster nodes).1 (storeRun config cluster nodes).2.1
      (storeRun config cluster nodes).2.2 :=
  (Procedure.passes_passage (I := Site) storeSite _ _).mono fun _ _ _ => serves_of_storeSite

/-- The calls by which the nodes of a control plane are found: none if there are masters. -/
def listingCalls (config : Config) (cluster : String) : List Site.Call :=
  if masters config cluster = [] then [.cluster .getNodes] else []

/-- A run that prepares the control plane of a cluster and nothing else. -/
structure Scoped {σ : Type} (server : NodeServer σ) (config : Config) (cluster : String)
    (log : List (Moment Site (Dealings σ))) (d d' : Dealings σ) : Prop where
  /-- The nodes that are meant are nodes of the server. -/
  there : ∀ name ∈ controlPlane config cluster (server.nodes d.state),
    name ∈ (server.nodes d.state).map Prod.fst
  /-- They are prepared in their order, and nothing is done to any other node. -/
  effect : Effect server (controlPlane config cluster (server.nodes d.state))
    (listingCalls config cluster ++
      (controlPlane config cluster (server.nodes d.state)).flatMap nodeCalls)
    (Changed controlPlaneLabels controlPlaneMarks) log d d'

section Scope

variable {σ : Type} {server : NodeServer σ} {config : Config} {cluster : String}
  {log : List (Moment Site (Dealings σ))} {d d' : Dealings σ}

/-- The nodes of the server are listed, and those with the label are taken. -/
theorem effect_getNodes {change : Json → Json → Prop} {listed : List Node}
    (valid : ValidNodes (server.nodes d.state))
    (h : Passes (serves server) Site.getNodes d log d' (.ok listed)) :
    server.nodes d'.state = server.nodes d.state ∧
      (listed.filter fun n => n.labels.has controlPlaneLabel).map Node.name =
        ((server.nodes d.state).filter fun n =>
          (labelsAt n.2 labelsPath).has controlPlaneLabel).map Prod.fst ∧
      Effect server [] [.cluster .getNodes] change log d d' := by
  obtain ⟨rfl, more, hlog, served⟩ := served_of_passes h
  obtain ⟨hnodes, rfl, warranted⟩ := NodeServer.list_effect valid served
  refine ⟨hnodes, ?_, rfl, ?_, more, hlog, fun m hm => warranted m hm _ _ _⟩
  · rw [List.filter_map, List.map_map]
    rfl
  · rw [hnodes]
    exact .refl fun _ _ hname => absurd hname List.not_mem_nil

/-- Preparing the control plane of a cluster changes the nodes of its masters, or those that carry
the label already where no masters are known, and no others. -/
theorem prepareControlPlane_scoped (valid : ValidNodes (server.nodes d.state))
    (segments : ∀ name ∈ masters config cluster, IsSegment name)
    (h : Passes (serves server) (prepareControlPlane cluster config.roles) d log d' (.ok ()))
    (untainted : ∀ m ∈ log, isTaintFailure m.event = false) :
    Scoped server config cluster log d d' := by
  unfold prepareControlPlane controlPlaneNodes at h
  rw [nodes_roles] at h
  cases hmasters : masters config cluster with
  | nil =>
    have targets : controlPlane config cluster (server.nodes d.state) =
        ((server.nodes d.state).filter fun n =>
          (labelsAt n.2 labelsPath).has controlPlaneLabel).map Prod.fst := by
      rw [controlPlane, hmasters]
    have calls : listingCalls config cluster = [.cluster .getNodes] := if_pos hmasters
    rw [hmasters] at h
    simp only [bind_assoc, pure_bind] at h
    rcases passes_bind_iff.mp h with ⟨e, -, he⟩ | ⟨listing, listed, mid, after, rfl, hl, hp⟩
    · cases he
    obtain ⟨-, untainted⟩ := List.forall_mem_append.mp untainted
    obtain ⟨hnodes, found, looked⟩ := effect_getNodes valid hl
    have fit : ∀ name ∈ controlPlane config cluster (server.nodes d.state), IsSegment name := by
      intro name hname
      rw [targets] at hname
      obtain ⟨n, hn, rfl⟩ := List.mem_map.mp hname
      exact valid.segments n (List.mem_filter.mp hn).1
    rw [found, ← targets] at hp
    have distinct := valid.distinct
    rw [← hnodes] at distinct
    obtain ⟨there, prepared⟩ := effect_prepareNodes fit distinct hp untainted
    rw [hnodes] at there
    refine ⟨there, ?_⟩
    rw [calls]
    exact looked.append prepared fun _ _ _ => Changed.twice
  | cons name names =>
    have targets : controlPlane config cluster (server.nodes d.state) = name :: names := by
      rw [controlPlane, hmasters]
    have calls : listingCalls config cluster = [] := if_neg (by simp [hmasters])
    rw [hmasters, pure_bind] at h
    rw [hmasters] at segments
    obtain ⟨there, prepared⟩ := effect_prepareNodes segments valid.distinct h untainted
    refine ⟨by rwa [targets], ?_⟩
    rwa [targets, calls]

end Scope

def pairConfig (master : String) : Config where
  vms := [⟨master, "vm", "alpha", .master, none⟩, ⟨"two", "vm", "alpha", .worker, none⟩]
  kubernetes := { clusters := [] }

/-- Two nodes. The second one has a taint that keeps workloads off a control plane. -/
def pairNodes : List (String × Json) :=
  let node (name : String) (effect : String) : String × Json :=
    (name, .object [("metadata", .object [("name", .string name)]),
      ("spec", .object [("taints", .array [
        .object [("effect", .string effect), ("key", .string controlPlaneLabel)],
        .object [("effect", .string noSchedule), ("key", .string masterTaint)]])])])
  [node "one" "NoExecute", node "two" noSchedule]

theorem validNodes_pairNodes : ValidNodes pairNodes :=
  ⟨by decide, by decide, by decide +kernel⟩

theorem prepareControlPlane_scoped_pair :
    let run := storeRun (pairConfig "one") "alpha" pairNodes
    run.2.1.log.length = 4 ∧
      Scoped NodeStore.server (pairConfig "one") "alpha" run.1 ⟨{}, pairNodes, []⟩ run.2.1 := by
  have ok : (storeRun (pairConfig "one") "alpha" pairNodes).2.2 = .ok () := by decide +kernel
  refine ⟨by decide +kernel, ?_⟩
  exact prepareControlPlane_scoped validNodes_pairNodes (by decide)
    (ok ▸ passes_storeRun (pairConfig "one") "alpha" pairNodes) (by decide +kernel)

/-- A name that cannot be a segment of a path may stand for another node: here it ends, for the
server, before the number sign, and a worker is prepared in the place of the master. -/
theorem not_scoped_of_number_sign :
    let run := storeRun (pairConfig "two#x") "alpha" pairNodes
    (ValidNodes pairNodes ∧
      Passes (serves NodeStore.server) (prepareControlPlane "alpha" (pairConfig "two#x").roles)
        ⟨{}, pairNodes, []⟩ run.1 run.2.1 (.ok ()) ∧
      ∀ m ∈ run.1, isTaintFailure m.event = false) ∧
    ¬Scoped NodeStore.server (pairConfig "two#x") "alpha" run.1 ⟨{}, pairNodes, []⟩ run.2.1 := by
  intro run
  have ok : run.2.2 = .ok () := by decide +kernel
  refine ⟨⟨validNodes_pairNodes, ok ▸ passes_storeRun (pairConfig "two#x") "alpha" pairNodes,
    by decide +kernel⟩, fun h => ?_⟩
  have same : run.2.1.state = pairNodes := h.effect.nodes.eq_of_notMem (by decide +kernel)
  have counts : run.2.1.state.map (fun n => (itemsAt n.2 taintsPath).length) ≠
      pairNodes.map fun n => (itemsAt n.2 taintsPath).length := by decide +kernel
  exact counts (congrArg _ same)

end PodNetwork.Manifest
