import PodNetwork.Proofs.Kubernetes.Catalogue
import PodNetwork.Proofs.Kubernetes.Timely
import PodNetwork.Proofs.Procedure.Runs

/-! Servers whose kinds grow with the definitions that are applied.

Nothing is said of the objects that a server keeps, of the time it takes or of when it fails. What
is asked of it is that it forgets no kind, that it knows the kinds of a definition once this was
applied, and that its replies, when they tell of no error, have the right form; its lists in
particular, as a client reads them, name what it offers at that moment. -/
namespace PodNetwork

open Rehearsal

namespace Rehearsal.Offer

/-- The kind that a version of a custom definition stands for, if it is served. -/
def ofVersion? (document version : Json) : Option Offer := do
  let o : Offer := {
    group := ← Kubernetes.text? document ["spec", "group"]
    version := ← Kubernetes.text? version ["name"]
    plural := ← Kubernetes.text? document ["spec", "names", "plural"]
    kind := ← Kubernetes.text? document ["spec", "names", "kind"]
    namespaced := Kubernetes.text? document ["spec", "scope"] == some "Namespaced" }
  if version.get? "served" == some (.bool false) then none else some o

/-- The kinds that a document defines: if it is the definition of a custom kind, one for each
version. -/
def definedBy (document : Json) : List Offer :=
  if Kubernetes.kind? document = some "CustomResourceDefinition" ∧
      (Kubernetes.apiVersion? document).map (fun v => (Kubernetes.parseApiVersion v).1) =
        some "apiextensions.k8s.io" then
    ((Kubernetes.itemsAt document ["spec", "versions"]).filterMap (ofVersion? document)).filter
      fun o => o.isValid && o.group ≠ ""
  else []

theorem isValid_of_mem_definedBy {document : Json} {o : Offer} (h : o ∈ definedBy document) :
    o.isValid = true := by
  unfold definedBy at h
  split at h
  · have kept := (List.mem_filter.mp h).2
    simp only [Bool.and_eq_true] at kept
    exact kept.1
  · exact absurd h List.not_mem_nil

end Rehearsal.Offer

namespace Kubernetes

/-- Whether a request is answered with a reply that tells of no error. -/
def Exchange.Tells (exchange : Exchange) (reply : Reply) : Prop :=
  (∃ took, exchange = .answered reply took) ∧ ¬(400 ≤ reply.code ∧ reply.code < 600)

theorem Exchange.eq_of_tells {reply told : Reply} {took : Nat}
    (h : (Exchange.answered reply took).Tells told) : told = reply := by
  obtain ⟨⟨_, h⟩, _⟩ := h
  cases h
  rfl

/-- Whether a call got what it asked for: in time, and without an error. -/
def WireCall.Succeeds : (call : WireCall) → call.Answer → Prop
  | .send _ within, .answered reply took =>
    took ≤ within ∧ ¬(400 ≤ reply.code ∧ reply.code < 600)
  | .send .., .broken _ | .send .., .late => False
  | .fetch _ within, .page (.ok _) took => took ≤ within
  | .fetch .., .page (.error _) _ | .fetch .., .late => False
  | .pause _, _ | .now, _ => True

def Client.labelRequest? (node : String) (labels : Labels) : Option Request :=
  Client.named? Client.nodes none node .patch (some [])
    (some (.merge (Client.nested ["metadata", "labels"] (Client.labelsJson labels))))

def Request.applied (r : Request) : List Json :=
  match r.method, r.payload with
  | .patch, some (.apply document) => [document]
  | _, _ => []

def Request.opensRound (r : Request) : Bool := r.method = .get && r.path = "/apis"

def WireCall.applied : WireCall → List Json
  | .send r _ => r.applied
  | _ => []

def WireCall.opensRound : WireCall → Bool
  | .send r _ => r.opensRound
  | _ => false

/-- A server by its states. -/
structure KindServer (σ : Type) where
  answer : (call : WireCall) → σ → call.Answer × σ
  /-- The kinds that are known in a state. -/
  offers : σ → List Offer
  /-- The contents of pages. -/
  pages : String → Bytes
  offers_valid : ∀ s, ∀ o ∈ offers s, o.isValid = true
  offers_kept : ∀ call s, offers s ⊆ offers (answer call s).2
  offers_defined : ∀ r within s, (WireCall.send r within).Succeeds (answer (.send r within) s).1 →
    ∀ document ∈ r.applied, Offer.definedBy document ⊆ offers (answer (.send r within) s).2
  page_told : ∀ url within s content took,
    (answer (.fetch url within) s).1 = .page (.ok content) took → content = pages url
  groups_told : ∀ within s reply,
    Exchange.Tells (answer (.send ⟨.get, "/apis", [], none⟩ within) s).1 reply →
    ∃ groups, reply.value.bind Discovery.groups? = some groups ∧
      (∀ group ∈ groups, Discovery.Serves "/apis/" (offers s) group) ∧
      ∀ o ∈ offers s, o.group ≠ "" → ∃ group ∈ groups, group.name = o.group
  versions_told : ∀ within s reply,
    Exchange.Tells (answer (.send ⟨.get, "/api", [], none⟩ within) s).1 reply →
    ∃ versions, reply.value.bind Discovery.coreVersions? = some versions ∧
      Discovery.Serves "/api/" (offers s) ⟨"", versions.map fun v => (v, v)⟩
  resources_told : ∀ within s reply root group version groupVersion,
    Discovery.IsListed root group version groupVersion →
    (groupVersion = "v1" ∨ ∃ o ∈ offers s, o.groupVersion = groupVersion) →
    Exchange.Tells (answer (.send ⟨.get, root ++ groupVersion, [], none⟩ within) s).1 reply →
    ∃ resources, reply.value.bind Discovery.resources? = some resources ∧
      Discovery.Lists group groupVersion (offers s) resources
  object_told : ∀ r within s reply, Exchange.Tells (answer (.send r within) s).1 reply →
    r.applied ≠ [] → reply.value.any isObject = true
  nodes_told : ∀ within s reply,
    Exchange.Tells (answer (.send ⟨.get, "/api/v1/nodes", [], none⟩ within) s).1 reply →
    ∃ nodes, reply.value.bind (list? node?) = some nodes ∧
      ∀ node ∈ nodes, ∀ labels, (Client.labelRequest? node.name labels).isSome = true
  node_told : ∀ node labels r within s reply, Client.labelRequest? node labels = some r →
    Exchange.Tells (answer (.send r within) s).1 reply → (reply.value.bind node?).isSome = true

namespace KindServer

variable {σ α : Type} (server : KindServer σ)

/-- The server with a record of the calls that it answered. -/
def world : World Wire (σ × List (Procedure.Event Wire)) where
  answer call s := ((server.answer call s.1).1, (server.answer call s.1).2,
    s.2 ++ [⟨call, (server.answer call s.1).1⟩])
  fine s := ∀ e ∈ s.2, e.call.Succeeds e.answer
  fine_of_answer _ _ h e he := h e (List.mem_append_left _ he)

def applied (events : List (Procedure.Event Wire)) : List Json :=
  events.flatMap fun e => WireCall.applied e.call

def rounds (events : List (Procedure.Event Wire)) : Nat :=
  events.countP fun e => WireCall.opensRound e.call

/-- What happens between two states: the documents that are applied, whose kinds are then known,
and the number of rounds of discovery. -/
structure Progress (documents : List Json) (count : Nat)
    (s s' : σ × List (Procedure.Event Wire)) : Prop where
  kept : server.offers s.1 ⊆ server.offers s'.1
  defined : ∀ document ∈ documents, Offer.definedBy document ⊆ server.offers s'.1
  applied : applied s'.2 = KindServer.applied s.2 ++ documents
  rounds : rounds s'.2 = KindServer.rounds s.2 + count

variable {server} {s s' s'' : σ × List (Procedure.Event Wire)}

theorem Progress.refl : server.Progress [] 0 s s :=
  ⟨fun _ h => h, fun _ h => absurd h List.not_mem_nil, by simp, rfl⟩

theorem Progress.trans {documents later : List Json} {count more : Nat}
    (h : server.Progress documents count s s') (h' : server.Progress later more s' s'') :
    server.Progress (documents ++ later) (count + more) s s'' where
  kept _ ho := h'.kept (h.kept ho)
  defined document hd := by
    rcases List.mem_append.mp hd with hd | hd
    · exact fun _ ho => h'.kept (h.defined document hd ho)
    · exact h'.defined document hd
  applied := by rw [h'.applied, h.applied, List.append_assoc]
  rounds := by rw [h'.rounds, h.rounds, Nat.add_assoc]

theorem progress_answer (call : WireCall)
    (hfine : server.world.fine (server.world.answer call s).2) :
    server.Progress call.applied call.opensRound.toNat s (server.world.answer call s).2 where
  kept := server.offers_kept call s.1
  defined document hd := by
    cases call with
    | send r within =>
      have last := hfine _ (List.mem_append_right _ (List.mem_singleton_self _))
      exact server.offers_defined r within s.1 last document hd
    | _ => exact absurd hd List.not_mem_nil
  applied := by simp [KindServer.applied, world]
  rounds := by cases h : call.opensRound <;> simp [KindServer.rounds, world, h]

/-- Calls that apply nothing and open no round of discovery. -/
def IsQuiet (call : WireCall) : Prop := call.applied = [] ∧ call.opensRound = false

theorem progress_quiet {p : Procedure Wire α} (hp : p.Only IsQuiet)
    (hfine : server.world.fine (p.run server.world.answer s).2) :
    server.Progress [] 0 s (p.run server.world.answer s).2 := by
  induction p generalizing s with
  | done a => exact .refl
  | ask call next ih =>
    have first : server.world.fine (server.world.answer call s).2 := World.fine_of_run _ _ hfine
    have step := progress_answer call first
    rw [hp.1.1, hp.1.2] at step
    exact step.trans (ih _ (hp.2 _) hfine)

/-- A request whose reply, if it tells of no error, has the right form. -/
theorem achieves_request {r : Request} {decode : Json → Option α} (good : α → Prop)
    (h : ∀ within reply, Exchange.Tells (server.answer (.send r within) s.1).1 reply →
      ∃ a, reply.value.bind decode = some a ∧ good a) :
    Bounded.Achieves server.world (Bounded.request (some r) decode) s fun a s' =>
      good a ∧ server.Progress r.applied r.opensRound.toNat s s' := by
  refine Bounded.achieves_request fun within hfine => ?_
  have last : (WireCall.send r within).Succeeds (server.answer (.send r within) s.1).1 :=
    hfine _ (List.mem_append_right _ (List.mem_singleton_self _))
  cases answered : (server.answer (.send r within) s.1).1 with
  | answered reply took =>
    rw [answered] at last
    obtain ⟨a, ha, hgood⟩ := h within reply ⟨⟨took, answered⟩, last.2⟩
    exact ⟨reply, took, a, answered, last.1, last.2, ha, hgood, progress_answer _ hfine⟩
  | broken took =>
    rw [answered] at last
    exact last.elim
  | late =>
    rw [answered] at last
    exact last.elim

end KindServer
end Kubernetes
end PodNetwork
