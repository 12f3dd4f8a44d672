import PodNetwork.Proofs.Kubernetes.Rounds

/-! What the calls of a client do at a server of kinds. -/
namespace PodNetwork.Kubernetes

open Rehearsal

namespace Client

/-- The request that applies a document as an object of a resource. -/
def applyRequest? (resource : Resource) (document : Json) : Option Request :=
  let ns :=
    if resource.namespaced then some ((namespace? document).getD defaultNamespace) else none
  named? resource ns ((name? document).getD "") .patch
    (some [("force", "true"), ("fieldManager", fieldManager)]) (some (.apply document))

/-- A document of one of some kinds, with all that the request to apply it needs. -/
structure CanApply (offers : List Offer) (document : Json) : Prop where
  named : (name? document).isSome = true
  known : ∃ o ∈ offers, kind? document = some o.kind ∧
    (apiVersion? document).map parseApiVersion = some (o.group, o.version) ∧
    ∀ resource, o.Allows resource → (applyRequest? resource document).isSome = true

theorem fits_path {o : Offer} {resource : Resource} (valid : o.isValid = true)
    (h : o.Allows resource) {ns : Option String} (hns : ∀ part ∈ ns, isPart part = true) :
    Request.Fits 1033 (resource.path ns) := by
  have slash : Request.Fits 1 "/" := by decide
  have version : Request.Fits 507 resource.apiVersion := by
    rw [h.apiVersion]
    exact Offer.fits_groupVersion valid
  have root : Request.Fits 7 (if resource.group.isEmpty then "/api/" else "/apis/") := by
    split <;> decide
  have base : Request.Fits 515
      ((if resource.group.isEmpty then "/api/" else "/apis/") ++ resource.apiVersion ++ "/") :=
    (root.append version).append slash
  have plural := Request.fits_of_isPart h.plural
  cases ns with
  | none =>
    have nothing : Request.Fits 0 "" := by decide
    exact ((base.append nothing).append plural).mono (by decide)
  | some part =>
    have lead : Request.Fits 11 "namespaces/" := by decide
    have scope := (lead.append (Request.fits_of_isPart (hns part rfl))).append slash
    exact ((base.append scope).append plural).mono (by decide)

/-- Whether a document is of a kind, and its names can be parts of a path. -/
def suits (o : Offer) (document : Json) : Bool :=
  kind? document == some o.kind &&
    (apiVersion? document).map parseApiVersion == some (o.group, o.version) &&
    (name? document).any isPart && (namespace? document).all isPart

/-- Documents whose names can be parts of a path can be applied. -/
theorem canApply_of_suits {offers : List Offer} {document : Json} {o : Offer}
    (ho : o ∈ offers) (valid : o.isValid = true) (h : suits o document = true) :
    CanApply offers document := by
  simp only [suits, Bool.and_eq_true, beq_iff_eq] at h
  obtain ⟨⟨⟨hkind, hapi⟩, hname⟩, hns⟩ := h
  obtain ⟨name, hname, hpart⟩ := (Option.any_eq_true _ _).mp hname
  refine ⟨by rw [hname]; rfl, o, ho, hkind, hapi, fun resource hallows => ?_⟩
  have nonempty : ¬name.isEmpty = true := by
    simpa using (isPart_iff.mp hpart).1
  have nsPart : isPart ((namespace? document).getD defaultNamespace) = true := by
    cases hn : namespace? document with
    | none => decide
    | some ns => simpa [hn] using hns
  have path (ns : Option String) (h : ∀ part ∈ ns, isPart part = true) :
      Request.Fits 1287 (resource.path ns ++ "/" ++ name) := by
    have slash : Request.Fits 1 "/" := by decide
    exact ((fits_path valid hallows h).append slash).append (Request.fits_of_isPart hpart)
  unfold applyRequest? named?
  rw [hname, Option.getD_some, if_neg nonempty,
    Request.at?_query (path _ ?_) (List.all_eq_true.mp (by decide)) (by decide)]
  · rfl
  · split
    · rintro part ⟨⟩
      exact nsPart
    · exact fun _ h => by cases h

/-- Nodes whose names can be parts of a path can be labelled. -/
theorem labelRequest?_of_part {node : String} (h : isPart node = true) (labels : Labels) :
    (labelRequest? node labels).isSome = true := by
  have nonempty : ¬node.isEmpty = true := by
    simpa using (isPart_iff.mp h).1
  have path : Request.Fits 267 (nodes.path none ++ "/" ++ node) := by
    have lead : Request.Fits 14 (nodes.path none ++ "/") := by decide
    exact lead.append (Request.fits_of_isPart h)
  unfold labelRequest? named?
  rw [if_neg nonempty, Request.at?_query path (List.all_eq_true.mp (by decide)) (by decide)]
  rfl

theorem named?_eq_some {resource : Resource} {ns : Option String} {name : String}
    {method : Method} {query : Option (List (String × String))} {payload : Option Payload}
    {r : Request} (h : named? resource ns name method query payload = some r) :
    r.method = method ∧ r.payload = payload := by
  unfold named? at h
  split at h
  · cases h
  · obtain ⟨hmethod, hpayload, _⟩ := Request.at?_eq_some h (List.nil_append _).symm (by simp)
    exact ⟨hmethod, hpayload⟩

section Requests

variable {σ : Type} {server : KindServer σ} {s : σ × List (Procedure.Event Wire)}
  {needed : List Offer}

theorem achieves_applyDocument {discovery : Discovery} {document : Json}
    (hknows : discovery.Knows needed) (h : CanApply needed document) :
    Bounded.Achieves server.world (applyDocument discovery document) s
      fun _ s' => server.Progress [document] 0 s s' := by
  obtain ⟨hname, o, ho, hkind, hapi, hrequest⟩ := h
  obtain ⟨resource, hresolve, hallows⟩ := hknows o ho
  obtain ⟨name, hname⟩ := Option.isSome_iff_exists.mp hname
  obtain ⟨apiVersion, hapi, hparse⟩ := Option.map_eq_some_iff.mp hapi
  obtain ⟨r, hr⟩ := Option.isSome_iff_exists.mp (hrequest resource hallows)
  obtain ⟨hmethod, hpayload⟩ := named?_eq_some hr
  have applied : r.applied = [document] := by simp [Request.applied, hmethod, hpayload]
  have quiet : r.opensRound = false := by simp [Request.opensRound, hmethod]
  rw [applyRequest?, hname, Option.getD_some] at hr
  unfold applyDocument
  simp only [hkind, hapi, hname, hparse, hresolve, hr]
  refine Bounded.Achieves.mono
    (KindServer.achieves_request (fun _ => True) fun within reply told => ?_) ?_
  · have object := server.object_told r within s.1 reply told (by simp [applied])
    obtain ⟨v, hv, hobject⟩ := (Option.any_eq_true _ _).mp object
    exact ⟨(), by simp [hv, hobject], trivial⟩
  · rintro _ s' ⟨_, hprogress⟩
    rwa [applied, quiet] at hprogress

theorem achieves_applyEach {discovery : Discovery} {documents : List Json}
    (hknows : discovery.Knows needed) (h : ∀ document ∈ documents, CanApply needed document) :
    Bounded.Achieves server.world (documents.forM (applyDocument discovery)) s
      fun _ s' => server.Progress documents 0 s s' := by
  induction documents generalizing s with
  | nil => exact Bounded.achieves_pure .refl
  | cons document rest ih =>
    refine Bounded.Achieves.bind
      (achieves_applyDocument hknows (h document List.mem_cons_self)) fun _ s₁ h₁ => ?_
    refine Bounded.Achieves.mono (ih fun d hd => h d (List.mem_cons_of_mem _ hd)) ?_
    exact fun _ s₂ h₂ => h₁.trans h₂

/-- Whether a client knows some kinds or will find them. -/
def Knows (client : Client) (needed : List Offer) (server : KindServer σ)
    (s : σ × List (Procedure.Event Wire)) : Prop :=
  match client.known with
  | some discovery => discovery.Knows needed
  | none => needed ⊆ server.offers s.1

/-- The rounds of discovery that a client has to do. -/
def roundsDue (client : Client) : Nat := if client.known.isNone then 1 else 0

theorem achieves_discover {client : Client} (h : client.Knows needed server s) :
    Bounded.Achieves server.world client.discover s fun discovery s' =>
      discovery.Knows needed ∧ server.Progress [] client.roundsDue s s' := by
  unfold Knows at h
  unfold discover roundsDue
  cases hknown : client.known with
  | some discovery =>
    rw [hknown] at h
    exact Bounded.achieves_pure ⟨h, .refl⟩
  | none =>
    rw [hknown] at h
    refine Bounded.Achieves.mono Discovery.achieves_fetch ?_
    intro discovery s' ⟨hknows, hprogress⟩
    exact ⟨fun o ho => hknows o (h ho), hprogress⟩

/-- What becomes of a client that applies documents of kinds that it knows or will find. -/
theorem yields_applyDocuments {client : Client} {documents : List Json}
    (hclient : client.Knows needed server s)
    (h : ∀ document ∈ documents, CanApply needed document) :
    server.world.Yields (client.applyDocuments documents) s fun out s' =>
      out.1 = .ok () ∧ (∃ discovery, out.2 = ⟨some discovery⟩ ∧ discovery.Knows needed) ∧
        server.Progress documents client.roundsDue s s' := by
  refine World.Yields.bind
    (Bounded.AchievesIn.within (achieves_discover hclient applyLimit) "apply_manifest") ?_
  rintro ⟨found, took⟩ s₁ ⟨discovery, rfl, htook, hknows, h₁⟩
  have applied : Bounded.AchievesIn server.world applyLimit
      (Bounded.spend took >>= fun _ => documents.forM (applyDocument discovery)) s₁
      fun _ _ s' => server.Progress documents 0 s₁ s' := by
    have spent : Bounded.AchievesIn server.world applyLimit (Bounded.spend took) s₁
        fun _ _ s' => s' = s₁ := Bounded.achievesIn_spend htook rfl
    refine Bounded.AchievesIn.bind spent ?_
    rintro _ left s' rfl
    exact achieves_applyEach hknows h left
  refine World.Yields.bind (Bounded.AchievesIn.within applied "apply_manifest") ?_
  rintro ⟨result, took⟩ s₂ ⟨_, rfl, _, h₂⟩
  exact World.yields_done ⟨rfl, ⟨discovery, rfl, hknows⟩, h₁.trans h₂⟩

theorem yields_applyManifest {client : Client} {content : Bytes} {parsed : List Json}
    (hclient : client.Knows needed server s) (hparsed : documents content = .ok parsed)
    (h : ∀ document ∈ parsed, CanApply needed document) :
    server.world.Yields (client.applyManifest content) s fun out s' =>
      out.1 = .ok () ∧ (∃ discovery, out.2 = ⟨some discovery⟩ ∧ discovery.Knows needed) ∧
        server.Progress parsed client.roundsDue s s' := by
  simp only [applyManifest, hparsed]
  exact yields_applyDocuments hclient h

theorem achieves_fetchPage {url : String} :
    Bounded.Achieves server.world (fetchPage url) s fun content s' =>
      content = server.pages url ∧ server.Progress [] 0 s s' := by
  intro left
  refine Bounded.achievesIn_get_bind ?_
  have asked : Bounded.AchievesIn server.world left (Bounded.ask (.fetch url left)) s
      fun answer left' s' => left' = left ∧ server.Progress [] 0 s s' ∧
        ∃ took, answer = .page (.ok (server.pages url)) took ∧ took ≤ left := by
    refine Bounded.achievesIn_ask fun hfine => ⟨rfl, KindServer.progress_answer _ hfine, ?_⟩
    have last : (WireCall.fetch url left).Succeeds (server.answer (.fetch url left) s.1).1 :=
      hfine _ (List.mem_append_right _ (List.mem_singleton_self _))
    rcases answered : (server.answer (.fetch url left) s.1).1 with ⟨message | content, took⟩ | _
    · rw [answered] at last
      exact last.elim
    · rw [answered] at last
      have told := server.page_told url left s.1 content took answered
      exact ⟨took, by rw [← told]; exact answered, last⟩
    · rw [answered] at last
      exact last.elim
  refine Bounded.AchievesIn.bind asked ?_
  rintro _ left' s' ⟨rfl, hprogress, took, rfl, htook⟩
  have spent : Bounded.AchievesIn server.world left' (Bounded.spend took) s'
      fun _ _ s'' => s'' = s' := Bounded.achievesIn_spend htook rfl
  refine Bounded.AchievesIn.bind spent ?_
  rintro _ _ _ rfl
  exact Bounded.achievesIn_pure ⟨rfl, hprogress⟩

theorem Knows.of_progress {client : Client} {s' : σ × List (Procedure.Event Wire)}
    {documents : List Json} {count : Nat} (h : client.Knows needed server s)
    (hprogress : server.Progress documents count s s') : client.Knows needed server s' := by
  unfold Knows at h ⊢
  cases hknown : client.known with
  | some discovery =>
    rw [hknown] at h
    exact h
  | none =>
    rw [hknown] at h
    exact fun o ho => hprogress.kept (h ho)

theorem yields_applyManifestFromUrl {client : Client} {url : String} {parsed : List Json}
    (hclient : client.Knows needed server s) (hparsed : documents (server.pages url) = .ok parsed)
    (h : ∀ document ∈ parsed, CanApply needed document) :
    server.world.Yields (client.applyManifestFromUrl url) s fun out s' =>
      out.1 = .ok () ∧ (∃ discovery, out.2 = ⟨some discovery⟩ ∧ discovery.Knows needed) ∧
        server.Progress parsed client.roundsDue s s' := by
  refine World.Yields.bind
    (Bounded.AchievesIn.within (achieves_fetchPage callLimit) "fetch_manifest") ?_
  rintro ⟨result, took⟩ s₁ ⟨content, rfl, _, rfl, h₁⟩
  refine World.Yields.mono (yields_applyManifest (hclient.of_progress h₁) hparsed h) ?_
  intro out s₂ ⟨hout, hknown, h₂⟩
  have joined := h₁.trans h₂
  rw [List.nil_append, Nat.zero_add] at joined
  exact ⟨hout, hknown, joined⟩

/-- A single call that comes to its end leaves the client as it is. -/
theorem yields_perform {α : Type} {client : Client} {work : Bounded α}
    {post : α → σ × List (Procedure.Event Wire) → Prop} (operation : String)
    (h : Bounded.Achieves server.world work s post) :
    server.world.Yields (client.perform operation work) s fun out s' =>
      ∃ a, out = (.ok a, client) ∧ post a s' := by
  refine World.Yields.bind (Bounded.AchievesIn.within (h callLimit) operation) ?_
  rintro ⟨result, took⟩ s' ⟨a, rfl, _, hpost⟩
  exact World.yields_done ⟨a, rfl, hpost⟩

theorem yields_getNodes {client : Client} :
    server.world.Yields (client.answer .getNodes) s fun out s' =>
      ∃ found, out = (.ok found, client) ∧
        (∀ node ∈ found, ∀ labels, (labelRequest? node.name labels).isSome = true) ∧
        server.Progress [] 0 s s' := by
  have asked : list nodes none "" node? =
      Bounded.request (some ⟨.get, "/api/v1/nodes", [], none⟩) (list? node?) := rfl
  refine yields_perform "get_nodes" ?_
  rw [asked]
  refine Bounded.Achieves.mono (KindServer.achieves_request (fun found => ∀ node ∈ found,
    ∀ labels, (labelRequest? node.name labels).isSome = true) fun within reply told =>
      server.nodes_told within s.1 reply told) ?_
  exact fun found s' ⟨hnodes, hprogress⟩ => ⟨hnodes, hprogress⟩

theorem yields_labelNode {client : Client} {node : String} {labels : Labels}
    (h : (labelRequest? node labels).isSome = true) :
    server.world.Yields (client.answer (.labelNode node labels)) s fun out s' =>
      out = (.ok (), client) ∧ server.Progress [] 0 s s' := by
  obtain ⟨r, hr⟩ := Option.isSome_iff_exists.mp h
  obtain ⟨hmethod, hpayload⟩ := named?_eq_some hr
  have applied : r.applied = [] := by simp [Request.applied, hmethod, hpayload]
  have quiet : r.opensRound = false := by simp [Request.opensRound, hmethod]
  have merged : Bounded.Achieves server.world (do
      let _ ← merge nodes none node (nested ["metadata", "labels"] (labelsJson labels)) node?
      : Bounded Unit) s fun _ s' => server.Progress [] 0 s s' := by
    have asked : merge nodes none node (nested ["metadata", "labels"] (labelsJson labels)) node? =
        Bounded.request (labelRequest? node labels) node? := rfl
    rw [asked, hr]
    refine Bounded.Achieves.bind
      (KindServer.achieves_request (fun _ => True) fun within reply told => ?_) ?_
    · obtain ⟨v, hv⟩ := Option.isSome_iff_exists.mp
        (server.node_told node labels r within s.1 reply hr told)
      exact ⟨v, hv, trivial⟩
    · rintro _ s' ⟨_, hprogress⟩
      rw [applied, quiet] at hprogress
      exact Bounded.achieves_pure hprogress
  refine World.Yields.mono (yields_perform "label_node" merged) ?_
  rintro _ s' ⟨_, rfl, hprogress⟩
  exact ⟨rfl, hprogress⟩

/-- A request for a node by its name is not the first of a round of discovery. -/
theorem quiet_node {node : String} {method : Method} {query : Option (List (String × String))}
    {payload : Option Payload} {r : Request}
    (h : named? nodes none node method query payload = some r)
    (hpayload : ∀ document, payload ≠ some (.apply document)) (within : Nat) :
    KindServer.IsQuiet (.send r within) := by
  obtain ⟨_, hcarried⟩ := named?_eq_some h
  have applied : r.applied = [] := by
    unfold Request.applied
    split
    · next document _ hd => exact absurd (hcarried.symm.trans hd) (hpayload document)
    · rfl
  unfold named? at h
  split at h
  · cases h
  have path : (nodes.path none ++ "/" ++ node).toList = "/api/v1/nodes/".toList ++ node.toList := by
    have root : nodes.path none ++ "/" = "/api/v1/nodes/" := rfl
    rw [root, String.toList_append]
  obtain ⟨_, _, hlead⟩ := Request.at?_eq_some h path (List.all_eq_true.mp (by decide))
  have other : r.path ≠ "/apis" := by
    intro same
    rw [same] at hlead
    exact absurd hlead (by decide)
  exact ⟨applied, by simp [WireCall.opensRound, Request.opensRound, other]⟩

/-- Whether the taint is there or not, and whether it can be removed or not. -/
theorem yields_removeNodeTaint {client : Client} (node key effect : String) :
    server.world.Yields (client.answer (.removeNodeTaint node key effect)) s fun out s' =>
      out.2 = client ∧ server.Progress [] 0 s s' := by
  have quiet : Bounded.Only KindServer.IsQuiet (removeTaint node key effect) := by
    refine Bounded.Only.bind (Bounded.only_request fun r hr => quiet_node hr nofun) fun taints => ?_
    dsimp only
    split
    · refine Bounded.Only.bind (Bounded.only_request fun r hr => quiet_node hr nofun) fun _ => ?_
      exact Bounded.only_pure
    · exact Bounded.only_pure
  have removed : server.world.Yields
      (Bounded.within "remove_node_taint" callLimit (removeTaint node key effect)) s
      fun _ s' => server.Progress [] 0 s s' :=
    KindServer.progress_quiet (quiet.within "remove_node_taint" callLimit)
  exact World.Yields.bind removed fun _ _ hprogress => World.yields_done ⟨rfl, hprogress⟩

end Requests
end Client
end PodNetwork.Kubernetes
