import Mathlib.Data.List.Nodup
import PodNetwork.Proofs.Kubernetes.Completing
import PodNetwork.Proofs.Kubernetes.NodeChanges

/-! Servers that keep nodes, and what the calls of a client do to the nodes.

A node is an object under a name. What is asked of a server is that its good replies tell the nodes
as they are, and that a merge patch that it takes changes the node it is for and nothing else. -/
namespace PodNetwork.Kubernetes

open Procedure (Event Moment)

def nodesPath : String := "/api/v1/nodes"

def nodePath (name : String) : String := nodesPath ++ "/" ++ name

/-- A name that can be the last segment of a path: it stands for itself there, and nothing in it
means anything else to who reads the path. -/
def IsSegment (name : String) : Prop :=
  name ≠ "." ∧ name ≠ ".." ∧ '/' ∉ name.toList ∧ '%' ∉ name.toList ∧ IsPlain name

instance (name : String) : Decidable (IsSegment name) := inferInstanceAs (Decidable (_ ∧ _))

theorem isPlain_nodePath {name : String} (h : IsSegment name) : IsPlain (nodePath name) := by
  have lead : IsPlain (nodesPath ++ "/") := by decide
  obtain ⟨-, -, -, -, mark, hash⟩ := h
  rw [nodePath, IsPlain, String.toList_append]
  exact ⟨fun hm => (List.mem_append.mp hm).elim lead.1 mark,
    fun hm => (List.mem_append.mp hm).elim lead.2 hash⟩

theorem eq_of_named? {name : String} {method : Method} {query : Option (List (String × String))}
    {payload : Option Payload} {r : Request} (segment : IsSegment name)
    (hquery : query = none ∨ query = some [])
    (h : Client.named? Client.nodes none name method query payload = some r) :
    r = ⟨method, nodePath name, [], payload⟩ := by
  have place : Client.nodes.path none = nodesPath := rfl
  have plain := isPlain_nodePath segment
  rw [nodePath, ← place] at plain ⊢
  exact Client.eq_of_named? plain hquery h

def patchRequest (name : String) (patch : Json) : Request :=
  ⟨.patch, nodePath name, [], some (.merge patch)⟩

/-- Nodes of which those with some names change in a way, and the others not at all. -/
def Alters (names : List String) (change : Json → Json → Prop)
    (before after : List (String × Json)) : Prop :=
  List.Forall₂ (fun b a => a.1 = b.1 ∧ if b.1 ∈ names then change b.2 a.2 else a.2 = b.2)
    before after

namespace Alters

variable {names more : List String} {change change' change'' : Json → Json → Prop}
  {before mid after : List (String × Json)}

theorem of_map {f : String × Json → Json}
    (h : ∀ n ∈ before, if n.1 ∈ names then change n.2 (f n) else f n = n.2) :
    Alters names change before (before.map fun n => (n.1, f n)) := by
  rw [Alters, List.forall₂_map_right_iff, List.forall₂_same]
  exact fun n hn => ⟨rfl, h n hn⟩

theorem refl (h : ∀ n ∈ before, n.1 ∈ names → change n.2 n.2) :
    Alters names change before before := by
  refine List.forall₂_same.mpr fun n hn => ⟨rfl, ?_⟩
  split
  · next hname => exact h n hn hname
  · rfl

theorem names_eq (h : Alters names change before after) :
    after.map Prod.fst = before.map Prod.fst := by
  induction h with
  | nil => rfl
  | cons hab _ ih => rw [List.map_cons, List.map_cons, hab.1, ih]

/-- Without nodes of these names nothing changes. -/
theorem eq_of_notMem (h : Alters names change before after) (hnames : ∀ n ∈ before, n.1 ∉ names) :
    after = before := by
  induction h with
  | nil => rfl
  | cons hab _ ih =>
    obtain ⟨hfirst, hrest⟩ := List.forall_mem_cons.mp hnames
    obtain ⟨hname, hnode⟩ := hab
    rw [if_neg hfirst] at hnode
    rw [Prod.ext hname hnode, ih hrest]

/-- Two changes of the same nodes. -/
theorem trans (h : Alters names change before mid) (h' : Alters names change' mid after)
    (both : ∀ a b c, change a b → change' b c → change'' a c) :
    Alters names change'' before after := by
  refine forall₂_comp ?_ h h'
  rintro a b c ⟨hab, hb⟩ ⟨hbc, hc⟩
  refine ⟨hbc.trans hab, ?_⟩
  rw [hab] at hc
  by_cases hname : a.1 ∈ names
  · rw [if_pos hname] at hb hc ⊢
    exact both _ _ _ hb hc
  · rw [if_neg hname] at hb hc ⊢
    exact hc.trans hb

/-- The same change of some nodes and then of others, where changing a node twice is the same as
changing it once. -/
theorem append (h : Alters names change before mid) (h' : Alters more change mid after)
    (twice : ∀ a b c, change a b → change b c → change a c) :
    Alters (names ++ more) change before after := by
  refine forall₂_comp ?_ h h'
  rintro a b c ⟨hab, hb⟩ ⟨hbc, hc⟩
  refine ⟨hbc.trans hab, ?_⟩
  rw [hab] at hc
  by_cases hname : a.1 ∈ names <;> by_cases hmore : a.1 ∈ more <;>
    simp only [hname, hmore, List.mem_append, or_self, or_false, false_or, if_true, if_false]
      at hb hc ⊢
  · exact twice _ _ _ hb hc
  · rwa [hc]
  · rwa [← hb]
  · exact hc.trans hb

end Alters

/-- A server by its states. -/
structure NodeServer (σ : Type) where
  step : σ → Event Wire → σ → Prop
  /-- The nodes with their names, in the order in which they are listed. -/
  nodes : σ → List (String × Json)
  read_told : ∀ {s s' : σ} {name : String} {within took : Nat} {reply : Reply}, IsSegment name →
    step s ⟨.send ⟨.get, nodePath name, [], none⟩ within, .answered reply took⟩ s' →
    ¬(400 ≤ reply.code ∧ reply.code < 600) →
    nodes s' = nodes s ∧ ∃ node, (name, node) ∈ nodes s ∧ reply.value = some node
  list_told : ∀ {s s' : σ} {within took : Nat} {reply : Reply},
    step s ⟨.send ⟨.get, nodesPath, [], none⟩ within, .answered reply took⟩ s' →
    ¬(400 ≤ reply.code ∧ reply.code < 600) →
    nodes s' = nodes s ∧ ∃ list, reply.value = some list ∧
      list.get? "items" = some (.array ((nodes s).map Prod.snd))
  patch_told : ∀ {s s' : σ} {name : String} {patch : Json} {within took : Nat} {reply : Reply},
    IsSegment name →
    step s ⟨.send (patchRequest name patch) within, .answered reply took⟩ s' →
    ¬(400 ≤ reply.code ∧ reply.code < 600) →
    name ∈ (nodes s).map Prod.fst ∧
      nodes s' = (nodes s).map fun n => (n.1, if n.1 = name then n.2.mergePatch patch else n.2)

/-- Nodes as a server keeps them: their names are distinct and fit for a path, and each node has
its name in it. -/
structure ValidNodes (nodes : List (String × Json)) : Prop where
  distinct : (nodes.map Prod.fst).Nodup
  segments : ∀ n ∈ nodes, IsSegment n.1
  named : ∀ n ∈ nodes, text? n.2 ["metadata", "name"] = some n.1

/-- Requests that only look at nodes, or that change one of some nodes for a reason: they set its
labels, or they remove the taints with some mark from it, of which it has at least one. -/
inductive Warranted {σ : Type} (server : NodeServer σ) (names : List String) (labels : Labels)
    (marks : List (String × String)) : Moment Wire σ → Prop where
  | look {s : σ} {path : String} {within : Nat} {exchange : Exchange} :
      Warranted server names labels marks
        ⟨s, ⟨.send ⟨.get, path, [], none⟩ within, exchange⟩⟩
  | label {s : σ} {name : String} {within : Nat} {exchange : Exchange} (named : name ∈ names) :
      Warranted server names labels marks
        ⟨s, ⟨.send (patchRequest name (labelsPatch labels)) within, exchange⟩⟩
  | untaint {s : σ} {name : String} {mark : String × String} {node : Json} {within : Nat}
      {exchange : Exchange} (named : name ∈ names) (marked : mark ∈ marks)
      (kept : (name, node) ∈ server.nodes s)
      (there : ∃ taint ∈ itemsAt node taintsPath, isMarked [mark] taint = true) :
      Warranted server names labels marks
        ⟨s, ⟨.send (patchRequest name (taintsPatch [mark] node)) within, exchange⟩⟩

theorem Warranted.mono {σ : Type} {server : NodeServer σ} {names more : List String}
    {labels : Labels} {marks : List (String × String)} {m : Moment Wire σ}
    (h : Warranted server names labels marks m) (hnames : names ⊆ more) :
    Warranted server more labels marks m := by
  cases h with
  | look => exact .look
  | label named => exact .label (hnames named)
  | untaint named marked kept there => exact .untaint (hnames named) marked kept there

namespace NodeServer

variable {σ : Type} {server : NodeServer σ} {client client' : Client} {name : String} {s s' : σ}
  {log : List (Moment Wire σ)}

/-- A patch of a node that gets a good reply. -/
theorem alters_of_merge {α : Type} {patch : Json} {decode : Json → Option α} {a : α}
    {change : Json → Json → Prop} (segment : IsSegment name)
    (h : Bounded.Completes server.step (Client.merge Client.nodes none name patch decode) s log s'
      a)
    (hchange : ∀ node, (name, node) ∈ server.nodes s → change node (node.mergePatch patch)) :
    name ∈ (server.nodes s).map Prod.fst ∧
      Alters [name] change (server.nodes s) (server.nodes s') ∧
      ∃ within exchange, log = [⟨s, ⟨.send (patchRequest name patch) within, exchange⟩⟩] := by
  obtain ⟨r, within, took, reply, hr, rfl, hstep, hgood, -⟩ := h.request
  obtain rfl := eq_of_named? segment (.inr rfl) hr
  obtain ⟨there, hnodes⟩ := server.patch_told segment hstep hgood
  refine ⟨there, ?_, within, _, rfl⟩
  rw [hnodes]
  refine .of_map fun n hn => ?_
  by_cases heq : n.1 = name
  · subst heq
    simpa using hchange n.2 hn
  · simp [heq]

/-- The labels of a node are set. -/
theorem label_effect {labels : Labels} (distinct : (labels.map Prod.fst).Nodup)
    (segment : IsSegment name)
    (h : Procedure.Passes server.step (client.answer (.labelNode name labels)) s log s'
      (.ok (), client')) :
    name ∈ (server.nodes s).map Prod.fst ∧
      Alters [name] (Changed labels []) (server.nodes s) (server.nodes s') ∧
      ∀ m ∈ log, ∀ marks, Warranted server [name] labels marks m := by
  obtain ⟨rfl, work⟩ := Client.completes_of_perform h
  obtain ⟨merging, _, _, _, rfl, hm, hd⟩ := work.bind
  obtain ⟨rfl, rfl, -⟩ := hd.pure
  obtain ⟨there, alters, within, exchange, rfl⟩ :=
    alters_of_merge segment hm fun node _ => changed_labels distinct node
  refine ⟨there, alters, ?_⟩
  rw [List.append_nil]
  exact List.forall_mem_singleton.mpr fun marks => .label (List.mem_singleton_self _)

/-- The node that is read, with its taints. -/
theorem taints_of_read {taints : List Taint} (segment : IsSegment name)
    (h : Bounded.Completes server.step (Client.read Client.nodes none name taints?) s log s'
      taints) :
    server.nodes s' = server.nodes s ∧
      (∃ node, (name, node) ∈ server.nodes s ∧
        taints = (itemsAt node taintsPath).map Taint.ofJson) ∧
      ∀ m ∈ log, ∀ names labels marks, Warranted server names labels marks m := by
  obtain ⟨r, within, took, reply, hr, rfl, hstep, hgood, hvalue⟩ := h.request
  obtain rfl := eq_of_named? segment (.inl rfl) hr
  obtain ⟨hnodes, node, hnode, hreply⟩ := server.read_told segment hstep hgood
  refine ⟨hnodes, ⟨node, hnode, ?_⟩, List.forall_mem_singleton.mpr fun _ _ _ => .look⟩
  rw [hreply, Option.bind_some, taints?] at hvalue
  split at hvalue
  · exact (Option.some.inj hvalue).symm
  · cases hvalue

/-- The taints of a node that have some mark are removed. If there are none, nothing is sent. -/
theorem untaint_effect {key effect : String} (segment : IsSegment name)
    (distinct : ((server.nodes s).map Prod.fst).Nodup)
    (h : Procedure.Passes server.step (client.answer (.removeNodeTaint name key effect)) s log s'
      (.ok (), client')) :
    Alters [name] (Changed [] [(key, effect)]) (server.nodes s) (server.nodes s') ∧
      ∀ m ∈ log, ∀ labels marks, (key, effect) ∈ marks →
        Warranted server [name] labels marks m := by
  obtain ⟨rfl, work⟩ := Client.completes_of_perform h
  obtain ⟨reading, taints, mid, after, rfl, hr, ha⟩ := work.bind
  obtain ⟨hmid, ⟨node, hnode, rfl⟩, hreading⟩ := taints_of_read segment hr
  have only : ∀ other, (name, other) ∈ server.nodes s → other = node := fun other hother =>
    (Prod.mk.inj (List.inj_on_of_nodup_map distinct hother hnode rfl)).2
  have looked : ∀ m ∈ reading, ∀ labels marks, (key, effect) ∈ marks →
      Warranted server [name] labels marks m := fun m hm labels marks _ =>
    hreading m hm [name] labels marks
  dsimp only at ha
  split at ha
  · next hlength =>
    obtain ⟨merging, _, _, _, rfl, hm, hd⟩ := ha.bind
    obtain ⟨rfl, rfl, -⟩ := hd.pure
    rw [ne_eq, length_filter_eq_iff] at hlength
    have there : ∃ taint ∈ itemsAt node taintsPath, isMarked [(key, effect)] taint = true := by
      simpa using hlength
    rw [map_json_filter] at hm
    have changed : ∀ other, (name, other) ∈ server.nodes mid →
        Changed [] [(key, effect)] other
          (other.mergePatch (taintsPatch [(key, effect)] node)) := by
      intro other hother
      rw [only other (hmid ▸ hother)]
      exact changed_taints [(key, effect)] node
    obtain ⟨-, alters, within, exchange, rfl⟩ := alters_of_merge segment hm changed
    rw [List.append_nil]
    refine ⟨hmid ▸ alters, List.forall_mem_append.mpr ⟨looked, ?_⟩⟩
    exact List.forall_mem_singleton.mpr fun labels marks hmark =>
      .untaint (List.mem_singleton_self _) hmark (hmid ▸ hnode) there
  · next hlength =>
    obtain ⟨rfl, rfl, -⟩ := ha.pure
    rw [hmid, List.append_nil]
    rw [ne_eq, not_not, length_filter_eq_iff] at hlength
    refine ⟨.refl ?_, looked⟩
    rintro ⟨other, there⟩ hn hname
    obtain rfl := List.mem_singleton.mp hname
    rw [only there hn]
    exact .refl hlength

/-- The items of a list that can be read. -/
theorem list?_of_items {list : Json} {items : List Json} {listed : List Node}
    (hitems : list.get? "items" = some (.array items)) (h : list? node? list = some listed) :
    listed = items.map fun v =>
      ⟨(text? v ["metadata", "name"]).getD "", labelsAt v labelsPath⟩ := by
  have read : items.mapM node? = some listed := by
    simp only [list?, hitems] at h
    exact (Option.ite_none_left_eq_some.mp h).2
  clear h hitems
  induction items generalizing listed with
  | nil =>
    cases read
    rfl
  | cons item items ih =>
    rw [List.mapM_cons] at read
    obtain ⟨node, hnode, read⟩ := Option.bind_eq_some_iff.mp read
    obtain ⟨others, hothers, read⟩ := Option.bind_eq_some_iff.mp read
    cases read
    rw [ih hothers, List.map_cons]
    unfold node? at hnode
    split at hnode
    · cases hnode
      rfl
    · cases hnode

/-- The nodes are listed. -/
theorem list_effect {listed : List Node} (valid : ValidNodes (server.nodes s))
    (h : Procedure.Passes server.step (client.answer .getNodes) s log s' (.ok listed, client')) :
    server.nodes s' = server.nodes s ∧
      listed = (server.nodes s).map (fun n => ⟨n.1, labelsAt n.2 labelsPath⟩) ∧
      ∀ m ∈ log, ∀ names labels marks, Warranted server names labels marks m := by
  obtain ⟨rfl, work⟩ := Client.completes_of_perform h
  have listing : Client.list Client.nodes none "" node? =
      Bounded.request (some ⟨.get, nodesPath, [], none⟩) (list? node?) := rfl
  rw [listing] at work
  obtain ⟨_, within, took, reply, hr, rfl, hstep, hgood, hvalue⟩ := work.request
  cases hr
  obtain ⟨hnodes, list, hlist, hitems⟩ := server.list_told hstep hgood
  rw [hlist, Option.bind_some] at hvalue
  refine ⟨hnodes, ?_, List.forall_mem_singleton.mpr fun _ _ _ => .look⟩
  rw [list?_of_items hitems hvalue, List.map_map]
  refine List.map_congr_left fun n hn => ?_
  rw [Function.comp_apply, valid.named n hn, Option.getD_some]

end NodeServer

theorem nodePath_inj {name other : String} : nodePath name = nodePath other ↔ name = other := by
  rw [nodePath, nodePath, String.append_right_inj]

theorem nodePath_ne_nodesPath (name : String) : nodePath name ≠ nodesPath := by
  intro h
  have longer := congrArg String.length h
  rw [nodePath, String.length_append, String.length_append] at longer
  have slash : "/".length = 1 := rfl
  omega

/-! A server that keeps nodes and does nothing else. -/
namespace NodeStore

def missing : Reply := ⟨404, "", none⟩

theorem missing_code : 400 ≤ missing.code ∧ missing.code < 600 := by decide

/-- The reply to a look at all nodes or at one of them. -/
def look (nodes : List (String × Json)) (path : String) : Reply :=
  if path = nodesPath then
    ⟨200, "", some (.object [("items", .array (nodes.map Prod.snd))])⟩
  else match nodes.find? fun n => nodePath n.1 = path with
    | some n => ⟨200, "", some n.2⟩
    | none => missing

/-- The reply to a patch, and the nodes after it. -/
def change (nodes : List (String × Json)) (path : String) (patch : Json) :
    Reply × List (String × Json) :=
  match nodes.find? fun n => nodePath n.1 = path with
  | some n => (⟨200, "", some (n.2.mergePatch patch)⟩,
    nodes.map fun o => (o.1, if o.1 = n.1 then o.2.mergePatch patch else o.2))
  | none => (missing, nodes)

def answer : (call : WireCall) → List (String × Json) → call.Answer × List (String × Json)
  | .send ⟨.get, path, _, none⟩ _, nodes => (.answered (look nodes path) 0, nodes)
  | .send ⟨.patch, path, _, some (.merge patch)⟩ _, nodes =>
    (.answered (change nodes path patch).1 0, (change nodes path patch).2)
  | call, nodes => (call.unreached, nodes)

theorem find?_nodePath (nodes : List (String × Json)) (name : String) :
    (nodes.find? fun n => nodePath n.1 = nodePath name) = nodes.find? fun n => n.1 = name := by
  simp only [nodePath_inj]

theorem look_nodePath {nodes : List (String × Json)} {name : String}
    (h : ¬(400 ≤ (look nodes (nodePath name)).code ∧ (look nodes (nodePath name)).code < 600)) :
    ∃ node, (name, node) ∈ nodes ∧ (look nodes (nodePath name)).value = some node := by
  rw [look, if_neg (nodePath_ne_nodesPath name), find?_nodePath] at h ⊢
  cases hfound : nodes.find? fun n => n.1 = name with
  | none =>
    rw [hfound] at h
    exact absurd missing_code h
  | some n =>
    have hname : n.1 = name := by simpa using List.find?_some hfound
    subst hname
    exact ⟨n.2, List.mem_of_find?_eq_some hfound, rfl⟩

theorem change_nodePath {nodes : List (String × Json)} {name : String} {patch : Json}
    (h : ¬(400 ≤ (change nodes (nodePath name) patch).1.code ∧
      (change nodes (nodePath name) patch).1.code < 600)) :
    name ∈ nodes.map Prod.fst ∧ (change nodes (nodePath name) patch).2 =
      nodes.map fun n => (n.1, if n.1 = name then n.2.mergePatch patch else n.2) := by
  rw [change, find?_nodePath] at h ⊢
  cases hfound : nodes.find? fun n => n.1 = name with
  | none =>
    rw [hfound] at h
    exact absurd missing_code h
  | some n =>
    have hname : n.1 = name := by simpa using List.find?_some hfound
    subst hname
    exact ⟨List.mem_map_of_mem (List.mem_of_find?_eq_some hfound), rfl⟩

/-- The server, by the answers that it gives. -/
def server : NodeServer (List (String × Json)) where
  step nodes e nodes' := answer e.call nodes = (e.answer, nodes')
  nodes := id
  read_told _ h hgood := by
    cases h
    exact ⟨rfl, look_nodePath hgood⟩
  list_told h _ := by
    cases h
    exact ⟨rfl, _, rfl, rfl⟩
  patch_told _ h hgood := by
    cases h
    exact change_nodePath hgood

end NodeStore
end PodNetwork.Kubernetes
