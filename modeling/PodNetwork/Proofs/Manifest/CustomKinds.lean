import PodNetwork.Manifest.Deploy
import PodNetwork.Proofs.Manifest.Session

/-! Manifests of kinds that earlier manifests define.

A plan defines kinds in its first two phases and uses them in the others. The client may have
remembered from before which kinds there are, and it looks once more when it is told to forget,
which is after the last definition and before the first use. -/
namespace PodNetwork.Manifest

open Kubernetes Rehearsal
open Manifest.Session (Carries Advance)

/-- The documents of a manifest, none if it cannot be read. -/
def documentsOf (content : Bytes) : List Json :=
  match Client.documents content with
  | .ok documents => documents
  | .error _ => []

def Parses (content : Bytes) : Prop := Client.documents content = .ok (documentsOf content)

def CanLabel (node : String) : Prop :=
  (Client.labelRequest? node controlPlaneLabels).isSome = true

section Steps

variable {σ : Type} {server : KindServer σ} {files : String → Bytes}
  {elsewhere : (c : SiteCall) → c.Answer} {needed : List Offer}

theorem carries_applyManifest {content : Bytes} (hparses : Parses content)
    (h : ∀ document ∈ documentsOf content, Client.CanApply needed document) :
    Carries server files elsewhere needed (Site.applyManifest content) (fun _ => True)
      (documentsOf content) := by
  intro session hknows
  refine Session.yields_cluster
    (World.Yields.mono (Client.yields_applyManifest hknows hparses h) ?_)
  intro out s' ⟨hout, hclient, hprogress⟩
  exact ⟨(), hout, trivial, Session.advance_of_applied hclient hprogress⟩

theorem carries_applyUrl {phase : Phase} {cluster url : String}
    (hparses : Parses (server.pages url))
    (h : ∀ document ∈ documentsOf (server.pages url), Client.CanApply needed document) :
    Carries server files elsewhere needed (applyUrl phase cluster url) (fun _ => True)
      (documentsOf (server.pages url)) := by
  have applied : Carries server files elsewhere needed (Site.applyManifestFromUrl url)
      (fun _ => True) (documentsOf (server.pages url)) := by
    intro session hknows
    refine Session.yields_cluster
      (World.Yields.mono (Client.yields_applyManifestFromUrl hknows hparses h) ?_)
    intro out s' ⟨hout, hclient, hprogress⟩
    exact ⟨(), hout, trivial, Session.advance_of_applied hclient hprogress⟩
  exact applied.mapError _

theorem carries_applyFile {phase : Phase} {dir cluster file : String}
    (hparses : Parses (files (Path.join dir file)))
    (h : ∀ document ∈ documentsOf (files (Path.join dir file)),
      Client.CanApply needed document) :
    Carries server files elsewhere needed (applyFile phase dir cluster file) (fun _ => True)
      (documentsOf (files (Path.join dir file))) := by
  have read : Carries server files elsewhere needed (Site.readFile (Path.join dir file))
      (fun content => content = files (Path.join dir file)) [] :=
    fun _ hknows _ => ⟨_, rfl, rfl, hknows, .refl⟩
  refine Carries.bind (read.mapError _) ?_
  rintro _ rfl
  exact (carries_applyManifest hparses h).mapError _

theorem carries_applyFiles {phase : Phase} {dir cluster : String} {names : List String}
    (hparses : ∀ content ∈ names.map fun file => files (Path.join dir file), Parses content)
    (h : ∀ document ∈ (names.map fun file => files (Path.join dir file)).flatMap documentsOf,
      Client.CanApply needed document) :
    Carries server files elsewhere needed (applyFiles phase dir cluster names) (fun _ => True)
      ((names.map fun file => files (Path.join dir file)).flatMap documentsOf) := by
  rw [List.flatMap_map] at h ⊢
  refine Session.carries_forM fun file hfile => ?_
  refine carries_applyFile (hparses _ (List.mem_map_of_mem hfile)) fun document hd => ?_
  exact h document (List.mem_flatMap.mpr ⟨file, hfile, hd⟩)

theorem carries_applyUrls {phase : Phase} {cluster : String} {urls : List String}
    (hparses : ∀ content ∈ urls.map server.pages, Parses content)
    (h : ∀ document ∈ (urls.map server.pages).flatMap documentsOf,
      Client.CanApply needed document) :
    Carries server files elsewhere needed (applyUrls phase cluster urls) (fun _ => True)
      ((urls.map server.pages).flatMap documentsOf) := by
  rw [List.flatMap_map] at h ⊢
  refine Session.carries_forM fun url hurl => ?_
  refine carries_applyUrl (hparses _ (List.mem_map_of_mem hurl)) fun document hd => ?_
  exact h document (List.mem_flatMap.mpr ⟨url, hurl, hd⟩)

theorem carries_prepareNode {cluster node : String} (hnode : CanLabel node) :
    Carries server files elsewhere needed (prepareNode cluster node) (fun _ => True) [] := by
  have labelled : Carries server files elsewhere needed (Site.labelNode node controlPlaneLabels)
      (fun _ => True) [] := by
    intro session hknows
    refine Session.yields_cluster (World.Yields.mono (Client.yields_labelNode hnode) ?_)
    rintro _ s' ⟨rfl, hprogress⟩
    exact ⟨(), rfl, trivial, Session.advance_of_progress hknows rfl hprogress⟩
  have untainted (key : String) : Carries server files elsewhere needed
      (discard (Site.removeNodeTaint node key noSchedule).outcome) (fun _ => True) [] := by
    intro session hknows
    refine Routine.fulfils_discard_outcome (Session.yields_cluster
      (World.Yields.mono (Client.yields_removeNodeTaint _ _ _) ?_))
    intro ⟨result, client⟩ s' ⟨hclient, hprogress⟩
    exact ⟨trivial, Session.advance_of_progress hknows hclient hprogress⟩
  exact Carries.bind (labelled.mapError _) fun _ _ => Session.carries_forM fun key _ =>
    untainted key

theorem carries_prepareNodes {cluster : String} {nodes : List String}
    (hnodes : ∀ node ∈ nodes, CanLabel node) :
    Carries server files elsewhere needed (prepareNodes cluster nodes) (fun _ => True) [] := by
  have nothing : nodes.flatMap (fun _ => ([] : List Json)) = [] := by simp
  rw [← nothing]
  exact Session.carries_forM fun node hnode => carries_prepareNode (hnodes node hnode)

theorem carries_controlPlaneNodes {cluster : String} {roles : RoleAssignment}
    (hmasters : ∀ node ∈ roles.nodes cluster .master, CanLabel node) :
    Carries server files elsewhere needed (controlPlaneNodes cluster roles)
      (fun nodes => ∀ node ∈ nodes, CanLabel node) [] := by
  have listed : Carries server files elsewhere needed Site.getNodes
      (fun found => ∀ node ∈ found, CanLabel node.name) [] := by
    intro session hknows
    refine Session.yields_cluster (World.Yields.mono Client.yields_getNodes ?_)
    rintro _ s' ⟨found, rfl, hfound, hprogress⟩
    exact ⟨found, rfl, fun node hn => hfound node hn _,
      Session.advance_of_progress hknows rfl hprogress⟩
  unfold controlPlaneNodes
  split
  · refine Carries.bind listed fun found hfound => Session.carries_pure fun name hname => ?_
    obtain ⟨node, hnode, rfl⟩ := List.mem_map.mp hname
    exact hfound node (List.mem_filter.mp hnode).1
  · exact Session.carries_pure hmasters

/-- A client that forgets what it knows will find all that the server knows then. -/
theorem fulfils_invalidateDiscovery {session : Session σ}
    (hneeded : needed ⊆ server.offers session.state) :
    Routine.Fulfils (Session.site server files elsewhere) Site.invalidateDiscovery session
      fun _ session' => session'.client.Knows needed server session'.wire ∧
        Advance server [] 1 session session' := by
  refine Routine.fulfils_ask
    (Session.yields_cluster (World.yields_done ⟨hneeded, 0, .refl, ?_⟩))
  simp [Client.roundsDue]

end Steps

/-- The manifests that are applied before discovery is refreshed. -/
def Plan.definitions (plan : Plan) (dir : String) (files pages : String → Bytes) : List Bytes :=
  plan.crds.map (fun file => files (Path.join dir file)) ++ plan.externalCrds.map pages

/-- The manifests that are applied after it. -/
def Plan.workloads (plan : Plan) (dir : String) (files : String → Bytes) : List Bytes :=
  plan.setup.map (fun file => files (Path.join dir file)) ++
    plan.deployments.map fun file => files (Path.join dir file)

/-- A plan that a cluster can take: its manifests can be read, its definitions need none but the
kinds that are there from the start, and its other documents need these and the defined ones. -/
structure Plan.IsGrounded (plan : Plan) (dir : String) (files pages : String → Bytes)
    (builtIn : List Offer) : Prop where
  parses : ∀ content ∈ plan.definitions dir files pages ++ plan.workloads dir files,
    Parses content
  definitions : ∀ document ∈ (plan.definitions dir files pages).flatMap documentsOf,
    Client.CanApply builtIn document
  workloads : ∀ document ∈ (plan.workloads dir files).flatMap documentsOf,
    Client.CanApply (builtIn ++ ((plan.definitions dir files pages).flatMap documentsOf).flatMap
      Offer.definedBy) document

section Phases

variable {σ : Type} {server : KindServer σ} {files : String → Bytes}
  {elsewhere : (c : SiteCall) → c.Answer} {dir : String} {plan : Plan} {cluster : String}
  {roles : RoleAssignment} {builtIn : List Offer}

/-- The phases up to the refresh. -/
theorem carries_definitions (h : plan.IsGrounded dir files server.pages builtIn) :
    Carries server files elsewhere builtIn (do
      applyFiles .crds dir cluster plan.crds
      applyUrls .externalCrds cluster plan.externalCrds)
      (fun _ => True) ((plan.definitions dir files server.pages).flatMap documentsOf) := by
  obtain ⟨hparses, hknown, _⟩ := h
  simp only [Plan.definitions, List.flatMap_append, List.forall_mem_append] at hparses hknown ⊢
  refine Carries.bind (carries_applyFiles hparses.1.1 hknown.1) fun _ _ => ?_
  exact carries_applyUrls hparses.1.2 hknown.2

/-- The phases after the refresh. -/
theorem carries_workloads (h : plan.IsGrounded dir files server.pages builtIn)
    (hmasters : ∀ node ∈ roles.nodes cluster .master, CanLabel node) :
    Carries server files elsewhere (builtIn ++
      ((plan.definitions dir files server.pages).flatMap documentsOf).flatMap Offer.definedBy) (do
        applyFiles .setup dir cluster plan.setup
        prepareNodes cluster (← controlPlaneNodes cluster roles)
        applyFiles .deployment dir cluster plan.deployments)
      (fun _ => True) ((plan.workloads dir files).flatMap documentsOf) := by
  obtain ⟨hparses, _, hknown⟩ := h
  generalize builtIn ++ _ = needed at hknown ⊢
  simp only [Plan.workloads, List.flatMap_append, List.forall_mem_append] at hparses hknown ⊢
  refine Carries.bind (carries_applyFiles hparses.2.1 hknown.1) fun _ _ => ?_
  refine Carries.bind (carries_controlPlaneNodes hmasters) fun nodes hnodes => ?_
  refine Carries.bind (carries_prepareNodes hnodes) fun _ _ => ?_
  exact carries_applyFiles hparses.2.2 hknown.2

theorem fulfils_applyAll {session : Session σ}
    (h : plan.IsGrounded dir files server.pages builtIn)
    (hoffers : builtIn ⊆ server.offers session.state)
    (hknows : session.client.Knows builtIn server session.wire)
    (hmasters : ∀ node ∈ roles.nodes cluster .master, CanLabel node) :
    Routine.Fulfils (Session.site server files elsewhere) (applyAll dir plan cluster roles) session
      fun _ session' => Advance server ((plan.definitions dir files server.pages ++
        plan.workloads dir files).flatMap documentsOf) 1 session session' := by
  have split : applyAll dir plan cluster roles = (do
      applyFiles .crds dir cluster plan.crds
      applyUrls .externalCrds cluster plan.externalCrds) >>= fun _ =>
        Site.invalidateDiscovery >>= fun _ => (do
          applyFiles .setup dir cluster plan.setup
          prepareNodes cluster (← controlPlaneNodes cluster roles)
          applyFiles .deployment dir cluster plan.deployments) := by
    rw [bind_assoc]
    rfl
  rw [split]
  refine Routine.Fulfils.bind (carries_definitions h session hknows) ?_
  intro _ s₁ ⟨_, hknows₁, h₁⟩
  -- Only now does the server know all the kinds that are needed from here on.
  have grown : builtIn ++ ((plan.definitions dir files server.pages).flatMap documentsOf).flatMap
      Offer.definedBy ⊆ server.offers s₁.state := by
    obtain ⟨_, hprogress, _⟩ := h₁
    refine List.append_subset.mpr ⟨fun o ho => hprogress.kept (hoffers ho), fun o ho => ?_⟩
    obtain ⟨document, hd, ho⟩ := List.mem_flatMap.mp ho
    exact hprogress.defined document hd ho
  refine Routine.Fulfils.bind (fulfils_invalidateDiscovery grown) ?_
  intro _ s₂ ⟨hknows₂, h₂⟩
  refine Routine.Fulfils.mono (carries_workloads h hmasters s₂ hknows₂) ?_
  intro _ s₃ ⟨_, _, h₃⟩
  have all := (h₁.trans h₂).trans h₃
  rw [List.flatMap_append]
  simpa using all

end Phases

/-- A plan that a cluster can take is applied as a whole, with at most two rounds of discovery,
whatever the client remembers from before. -/
theorem applyAll_definedKinds {σ : Type} (server : KindServer σ) (files : String → Bytes)
    (elsewhere : (c : SiteCall) → c.Answer) (dir : String) (plan : Plan) (cluster : String)
    (roles : RoleAssignment) (client : Client) (start : σ) (builtIn : List Offer)
    (hplan : plan.IsGrounded dir files server.pages builtIn)
    (hoffers : builtIn ⊆ server.offers start)
    (hclient : ∀ discovery, client.known = some discovery → discovery.Knows builtIn)
    (hmasters : ∀ node ∈ roles.nodes cluster .master, CanLabel node) :
    let out := Session.run ⟨client, start, []⟩ server files elsewhere
      (applyAll dir plan cluster roles)
    (∀ e ∈ out.2.events, e.call.Succeeds e.answer) →
      out.1 = .ok () ∧
        KindServer.applied out.2.events =
          (plan.definitions dir files server.pages ++ plan.workloads dir files).flatMap
            documentsOf ∧
        KindServer.rounds out.2.events ≤ 2 := by
  intro out hsuccess
  have hknows : client.Knows builtIn server (start, []) := by
    unfold Client.Knows
    cases hknown : client.known with
    | some discovery => exact hclient discovery hknown
    | none => exact hoffers
  have fulfilled : Routine.Fulfils (Session.site server files elsewhere)
      (applyAll dir plan cluster roles) ⟨client, start, []⟩ _ :=
    fulfils_applyAll hplan hoffers hknows hmasters
  obtain ⟨_, hout, count, hprogress, hcount⟩ := fulfilled hsuccess
  have due : client.roundsDue ≤ 1 := by
    unfold Client.roundsDue
    split <;> omega
  have counted : KindServer.rounds out.2.events = 0 + count := hprogress.rounds
  have bound : count + out.2.client.roundsDue ≤ client.roundsDue + 1 := hcount
  exact ⟨hout, hprogress.applied, by omega⟩

theorem isValid_of_mem_filter {kinds : List Offer} :
    ∀ o ∈ kinds.filter Offer.isValid, o.isValid = true :=
  fun _ ho => (List.mem_filter.mp ho).2

/-- What a catalogue says is what is read of it, whatever is told where it says nothing. -/
theorem granted_of_catalogue {α : Type} {known : Option Json} {otherwise : Json}
    {decode : Json → Option α} {good : α → Prop}
    (h : ∃ a, known.bind decode = some a ∧ good a) :
    ∃ a, (ApiServer.success (known.getD otherwise)).value.bind decode = some a ∧ good a := by
  obtain ⟨a, read, hgood⟩ := h
  obtain ⟨v, rfl, decoded⟩ := Option.bind_eq_some_iff.mp read
  exact ⟨a, decoded, hgood⟩

/-- A server that grants every request, has no nodes to show and keeps nothing but the kinds. -/
def granting (pages : String → Bytes) : KindServer (List Offer) where
  answer
    | .send r _, kinds =>
      let told : Json := match r.method with
        | .get => (ApiServer.catalogue? ⟨kinds.filter Offer.isValid, [], [], []⟩ r.path).getD
            (.object [("items", .array [])])
        | .patch | .delete => .object []
      (.answered (ApiServer.success told) 0, kinds ++ r.applied.flatMap Offer.definedBy)
    | .fetch url _, kinds => (.page (.ok (pages url)) 0, kinds)
    | .pause delay, kinds => (delay, kinds)
    | .now, kinds => ("", kinds)
  offers kinds := kinds.filter Offer.isValid
  pages := pages
  offers_valid _ := isValid_of_mem_filter
  offers_kept call kinds o ho := by
    cases call with
    | send r within =>
      rw [List.filter_append]
      exact List.mem_append_left _ ho
    | _ => exact ho
  offers_defined r within kinds _ document hd o ho :=
    List.mem_filter.mpr ⟨List.mem_append_right _ (List.mem_flatMap.mpr ⟨document, hd, ho⟩),
      Offer.isValid_of_mem_definedBy ho⟩
  page_told url within kinds content took h := by
    cases h
    rfl
  groups_told within kinds reply told := by
    rw [Exchange.eq_of_tells told]
    exact granted_of_catalogue (ApiServer.groups_catalogue isValid_of_mem_filter)
  versions_told within kinds reply told := by
    rw [Exchange.eq_of_tells told]
    exact granted_of_catalogue (ApiServer.versions_catalogue isValid_of_mem_filter)
  resources_told within kinds reply root group version groupVersion listed offered told := by
    rw [Exchange.eq_of_tells told]
    exact granted_of_catalogue (ApiServer.resources_catalogue isValid_of_mem_filter listed offered)
  object_told r within kinds reply told happlied := by
    have patched : r.method = .patch := by
      unfold Request.applied at happlied
      split at happlied
      · assumption
      · exact absurd rfl happlied
    rw [Exchange.eq_of_tells told]
    simp [ApiServer.success, patched, isObject]
  nodes_told within kinds reply told := by
    rw [Exchange.eq_of_tells told]
    exact ⟨[], rfl, fun _ h => absurd h List.not_mem_nil⟩
  node_told node labels r within kinds reply hr told := by
    rw [Exchange.eq_of_tells told]
    simp [ApiServer.success, (Client.named?_eq_some hr).1]
    decide

def definitionKind : Offer :=
  ⟨"apiextensions.k8s.io", "v1", "customresourcedefinitions", "CustomResourceDefinition", false⟩

def zoneKind : Offer := ⟨"net", "v1", "zones", "Zone", false⟩

def zoneDefinition : Bytes := Bytes.ofString <|
  "kind: CustomResourceDefinition\napiVersion: apiextensions.k8s.io/v1\n" ++
  "metadata:\n  name: zones\nspec:\n  group: net\n" ++
  "  names:\n    kind: Zone\n    plural: zones\n  versions:\n  - name: v1\n"

def zone : Bytes := Bytes.ofString "kind: Zone\napiVersion: net/v1\nmetadata:\n  name: first\n"

def zoneFiles (path : String) : Bytes :=
  if path = "yaml/zones.yaml" then zoneDefinition else zone

/-- A plan that defines a kind and sets up an object of it. -/
def zonePlan : Plan := ⟨["zones.yaml"], [], ["first.yaml"], []⟩

theorem granting_reliable (pages : String → Bytes) (call : WireCall) (kinds : List Offer) :
    WireCall.Succeeds call ((granting pages).answer call kinds).1 := by
  cases call with
  | send r within => exact ⟨Nat.zero_le _, by simp [ApiServer.success]⟩
  | fetch url within => exact Nat.zero_le _
  | _ => trivial

/-- Whether a manifest can be read and its documents pass a check. -/
def passes (check : List Json → Bool) (content : Bytes) : Bool :=
  match Client.documents content with
  | .ok documents => check documents
  | .error _ => false

theorem parses_of_passes {check : List Json → Bool} {content : Bytes}
    (h : passes check content = true) : Parses content ∧ check (documentsOf content) = true := by
  unfold passes at h
  unfold Parses documentsOf
  cases hread : Client.documents content with
  | ok documents =>
    rw [hread] at h
    exact ⟨rfl, h⟩
  | error e =>
    rw [hread] at h
    cases h

def definesZones (documents : List Json) : Bool :=
  documents.map describe == ["CustomResourceDefinition/zones"] &&
    documents.all (Client.suits definitionKind) && documents.flatMap Offer.definedBy == [zoneKind]

def isZone (documents : List Json) : Bool :=
  documents.map describe == ["Zone/first"] && documents.all (Client.suits zoneKind)

theorem passes_zoneDefinition : passes definesZones zoneDefinition = true := by decide +kernel

theorem passes_zone : passes isZone zone = true := by decide +kernel

theorem definitions_zonePlan :
    zonePlan.definitions "yaml" zoneFiles (fun _ => []) = [zoneDefinition] :=
  congrArg (· :: []) (if_pos (by decide +kernel))

theorem workloads_zonePlan : zonePlan.workloads "yaml" zoneFiles = [zone] :=
  congrArg (· :: []) (if_neg (by decide +kernel))

theorem isGrounded_zonePlan :
    zonePlan.IsGrounded "yaml" zoneFiles (fun _ => []) [definitionKind] := by
  obtain ⟨hparses, hdefinition⟩ := parses_of_passes passes_zoneDefinition
  obtain ⟨hparsesZone, hzone⟩ := parses_of_passes passes_zone
  simp only [definesZones, Bool.and_eq_true, beq_iff_eq, List.all_eq_true] at hdefinition
  simp only [isZone, Bool.and_eq_true, List.all_eq_true] at hzone
  refine ⟨?_, ?_, ?_⟩
  · rw [definitions_zonePlan, workloads_zonePlan]
    simp [hparses, hparsesZone]
  · intro document hd
    rw [definitions_zonePlan, List.flatMap_singleton] at hd
    exact Client.canApply_of_suits List.mem_cons_self (by decide) (hdefinition.1.2 document hd)
  · intro document hd
    rw [workloads_zonePlan, List.flatMap_singleton] at hd
    rw [definitions_zonePlan, List.flatMap_singleton, hdefinition.2]
    have defined : zoneKind ∈ [definitionKind] ++ [zoneKind] := by simp
    exact Client.canApply_of_suits defined (by decide) (hzone.2 document hd)

def zoneRun : Attempt Unit × Session (List Offer) :=
  Session.run ⟨{}, [definitionKind], []⟩ (granting fun _ => []) zoneFiles Site.obliging
    (applyAll "yaml" zonePlan "alpha" (RoleAssignment.assign {} "alpha" .master "n1"))

/-- The kind that a manifest defines is used by a later one, at a server that knows of nothing but
definitions to begin with. -/
theorem applyAll_definedKinds_zone :
    (∀ e ∈ zoneRun.2.events, e.call.Succeeds e.answer) ∧ zoneRun.1 = .ok () ∧
      (KindServer.applied zoneRun.2.events).map describe =
        ["CustomResourceDefinition/zones", "Zone/first"] ∧
      KindServer.rounds zoneRun.2.events ≤ 2 := by
  have succeeds : ∀ e ∈ zoneRun.2.events, e.call.Succeeds e.answer :=
    Session.succeeds_of_reliable (granting_reliable _) _ _ _
  have masters : ∀ node ∈ (RoleAssignment.assign {} "alpha" .master "n1").nodes "alpha" .master,
      CanLabel node := by
    intro node hn
    have hn : node = "n1" := by simpa [RoleAssignment.nodes, RoleAssignment.assign] using hn
    rw [hn]
    exact Client.labelRequest?_of_part (by decide) _
  obtain ⟨hout, happlied, hrounds⟩ := applyAll_definedKinds (granting fun _ => []) zoneFiles
    Site.obliging "yaml" zonePlan "alpha" (RoleAssignment.assign {} "alpha" .master "n1") {}
    [definitionKind] [definitionKind] isGrounded_zonePlan (by decide) (fun _ h => by cases h)
    masters succeeds
  have definition := (parses_of_passes passes_zoneDefinition).2
  have zones := (parses_of_passes passes_zone).2
  simp only [definesZones, Bool.and_eq_true, beq_iff_eq] at definition
  simp only [isZone, Bool.and_eq_true, beq_iff_eq] at zones
  refine ⟨succeeds, hout, ?_, hrounds⟩
  have documents : KindServer.applied zoneRun.2.events =
      (zonePlan.definitions "yaml" zoneFiles (fun _ => []) ++
        zonePlan.workloads "yaml" zoneFiles).flatMap documentsOf := happlied
  rw [documents, definitions_zonePlan, workloads_zonePlan]
  simp [definition.1.1, zones.1]

end PodNetwork.Manifest
