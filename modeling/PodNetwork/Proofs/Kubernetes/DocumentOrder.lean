import Mathlib.Data.List.Forall2
import PodNetwork.Proofs.Kubernetes.Applying
import PodNetwork.Proofs.Kubernetes.Completing

/-! The requests by which a manifest is applied.

The documents of a manifest are applied one after the other. The first that cannot be applied, or
whose request is not granted, ends the run, and those behind it are not touched. -/
namespace PodNetwork

theorem Procedure.Runs.passes {I : Interface} {α : Type} {p : Procedure I α}
    {events : List (Event I)} {a : α} (h : Runs p events a) :
    Passes (fun (_ : Unit) _ _ => True) p () (events.map fun e => ⟨(), e⟩) () a := by
  induction h with
  | done a => exact .done a ()
  | ask _ ih => exact .ask trivial ih

namespace Kubernetes

open Procedure (Event Moment)

/-- Where an object is kept: its resource, its namespace if it is in one, and its name. -/
structure Place where
  resource : Resource
  ns : Option String
  name : String

namespace Place

def path (place : Place) : String := place.resource.path place.ns ++ "/" ++ place.name

def query : List (String × String) := [("force", "true"), ("fieldManager", Client.fieldManager)]

def request? (place : Place) (document : Json) : Option Request :=
  Client.named? place.resource place.ns place.name .patch (some query) (some (.apply document))

/-- The request that applies an object at the path of its place. -/
def ownRequest (place : Place) (document : Json) : Request :=
  ⟨.patch, place.path, query, some (.apply document)⟩

end Place

/-- Where a document goes, if it has all that is needed to tell and its kind is known. -/
def place? (discovery : Discovery) (document : Json) : Option Place := do
  let kind ← kind? document
  let apiVersion ← apiVersion? document
  let name ← name? document
  let (group, version) := parseApiVersion apiVersion
  let resource ← discovery.resolve? group version kind
  let ns := (namespace? document).getD Client.defaultNamespace
  return ⟨resource, if resource.namespaced then some ns else none, name⟩

/-- A request by which a document is applied. -/
structure Asks (discovery : Discovery) (document : Json) (r : Request) : Prop where
  method : r.method = .patch
  payload : r.payload = some (.apply document)
  /-- The request is one for the place of the document, and goes there unless the path of the place
  has a mark at which a path ends. -/
  place : ∃ place, place? discovery document = some place ∧ place.request? document = some r ∧
    (IsPlain place.path → r = place.ownRequest document)

/-- The requests by which a document would be applied if paths had no marks. -/
def AsksOwn (discovery : Discovery) (document : Json) (r : Request) : Prop :=
  ∃ place, place? discovery document = some place ∧ r = place.ownRequest document

/-- Why a document cannot be applied. -/
inductive Refuses (discovery : Discovery) (document : Json) : Error → Prop where
  | kindless (h : kind? document = none) :
      Refuses discovery document (Client.missing (describe document) "kind")
  | versionless (h : apiVersion? document = none) (hk : (kind? document).isSome = true) :
      Refuses discovery document (Client.missing (describe document) "apiVersion")
  | nameless (h : name? document = none) (hk : (kind? document).isSome = true)
      (hv : (apiVersion? document).isSome = true) :
      Refuses discovery document (Client.missing (describe document) "metadata.name")
  | unknown {kind apiVersion : String} (hk : kind? document = some kind)
      (hv : apiVersion? document = some apiVersion) (hn : (name? document).isSome = true)
      (h : discovery.resolve? (parseApiVersion apiVersion).1 (parseApiVersion apiVersion).2 kind =
        none) :
      Refuses discovery document (.internal "apply_manifest"
        s!"unknown resource type {apiVersion}/{kind} (is its CRD installed?)")
  | unaddressable {place : Place} (h : place? discovery document = some place)
      (hr : place.request? document = none) :
      Refuses discovery document (.api .badRequest)

def shown (v : Json) : Option Unit := if isObject v then some () else none

theorem Place.eq_of_request? {place : Place} {document : Json} {r : Request}
    (plain : IsPlain place.path) (h : place.request? document = some r) :
    r = place.ownRequest document := by
  have clean : ∀ pairs ∈ some Place.query, '#' ∉ Text.Query.ofPairs pairs := by
    rintro _ ⟨⟩
    decide
  have told : Text.Query.pairs (Text.Query.ofPairs Place.query) = Place.query := by decide +kernel
  unfold request? Client.named? at h
  split at h
  · cases h
  · rw [Request.eq_of_at? plain clean h, ownRequest, ← told]
    rfl

/-- A document is applied by a single request, or refused without one. -/
theorem applyDocument_cases (discovery : Discovery) (document : Json) :
    (∃ r, Asks discovery document r ∧
      Client.applyDocument discovery document = .request (some r) shown) ∨
    ∃ e, Refuses discovery document e ∧ Client.applyDocument discovery document = .fail e := by
  cases hk : kind? document with
  | none =>
    refine .inr ⟨_, .kindless hk, ?_⟩
    unfold Client.applyDocument
    rw [hk]
  | some kind =>
  cases hv : apiVersion? document with
  | none =>
    refine .inr ⟨_, .versionless hv (by rw [hk]; rfl), ?_⟩
    unfold Client.applyDocument
    rw [hk, hv]
  | some apiVersion =>
  cases hn : name? document with
  | none =>
    refine .inr ⟨_, .nameless hn (by rw [hk]; rfl) (by rw [hv]; rfl), ?_⟩
    unfold Client.applyDocument
    rw [hk, hv, hn]
  | some name =>
  cases hr : discovery.resolve? (parseApiVersion apiVersion).1 (parseApiVersion apiVersion).2
      kind with
  | none =>
    refine .inr ⟨_, .unknown hk hv (by rw [hn]; rfl) hr, ?_⟩
    unfold Client.applyDocument
    simp only [hk, hv, hn, hr]
  | some resource =>
    let ns := if resource.namespaced then
      some ((namespace? document).getD Client.defaultNamespace) else none
    have hplace : place? discovery document = some ⟨resource, ns, name⟩ := by
      simp [place?, hk, hv, hn, hr, ns]
    have work : Client.applyDocument discovery document =
        .request ((Place.mk resource ns name).request? document) shown := by
      unfold Client.applyDocument
      simp only [hk, hv, hn, hr]
      rfl
    cases hrequest : (Place.mk resource ns name).request? document with
    | none =>
      rw [hrequest] at work
      exact .inr ⟨_, .unaddressable hplace hrequest, work⟩
    | some r =>
      rw [hrequest] at work
      obtain ⟨method, payload⟩ := Client.named?_eq_some hrequest
      have asks : Asks discovery document r := ⟨method, payload, _, hplace, hrequest,
        fun plain => Place.eq_of_request? plain hrequest⟩
      exact .inl ⟨r, asks, work⟩

/-- A request by which a document is applied, and what becomes of it. -/
def Sends (asks : Json → Request → Prop) (outcome : Except Halt Unit) (document : Json)
    (e : Event Wire) : Prop :=
  ∃ r within, ∃ answer : Exchange, asks document r ∧ e = ⟨.send r within, answer⟩ ∧
    answer.outcome shown within = outcome

theorem Sends.unique {asks : Json → Request → Prop} {outcome other : Except Halt Unit}
    {document : Json} {e : Event Wire} (h : Sends asks outcome document e)
    (h' : Sends asks other document e) : outcome = other := by
  obtain ⟨r, within, answer, -, rfl, rfl⟩ := h
  obtain ⟨r', within', answer', -, heq, rfl⟩ := h'
  cases heq
  rfl

/-- Requests for documents in their order, each document at most once. They stop at the end, at the
first document that is refused, or with the first request that is not granted. -/
inductive InOrder (asks : Json → Request → Prop) (refuses : Json → Error → Prop)
    (documents : List Json) : List (Event Wire) → Except Halt Unit → Prop where
  | all {sent : List (Event Wire)} (granted : List.Forall₂ (Sends asks (.ok ())) documents sent) :
      InOrder asks refuses documents sent (.ok ())
  | refused {applied rest : List Json} {document : Json} {sent : List (Event Wire)} {e : Error}
      (split : documents = applied ++ document :: rest)
      (granted : List.Forall₂ (Sends asks (.ok ())) applied sent) (refusal : refuses document e) :
      InOrder asks refuses documents sent (.error (.failed e))
  | failed {applied rest : List Json} {document : Json} {sent : List (Event Wire)}
      {last : Event Wire} {halt : Halt} (split : documents = applied ++ document :: rest)
      (granted : List.Forall₂ (Sends asks (.ok ())) applied sent)
      (failed : Sends asks (.error halt) document last) :
      InOrder asks refuses documents (sent ++ [last]) (.error halt)

namespace InOrder

variable {asks other : Json → Request → Prop} {refuses : Json → Error → Prop}
  {documents : List Json} {document : Json} {sent : List (Event Wire)} {e : Event Wire}
  {outcome : Except Halt Unit}

/-- One more request comes first. -/
theorem cons (first : Sends asks (.ok ()) document e)
    (h : InOrder asks refuses documents sent outcome) :
    InOrder asks refuses (document :: documents) (e :: sent) outcome := by
  cases h with
  | all granted => exact .all (.cons first granted)
  | refused split granted refusal =>
    rw [split, ← List.cons_append]
    exact .refused rfl (.cons first granted) refusal
  | failed split granted failed =>
    rw [split, ← List.cons_append, ← List.cons_append]
    exact .failed rfl (.cons first granted) failed

/-- All documents are applied exactly if nothing ends the requests before. -/
theorem ok_iff (h : InOrder asks refuses documents sent outcome) :
    outcome = .ok () ↔ List.Forall₂ (Sends asks (.ok ())) documents sent := by
  constructor
  · rintro rfl
    cases h with
    | all granted => exact granted
  · intro all
    cases h with
    | all => rfl
    | refused split granted =>
      have fewer := granted.length_eq
      have same := all.length_eq
      rw [split, List.length_append, List.length_cons] at same
      omega
    | @failed applied rest document sent last halt split granted failed =>
      -- The last request stands for the same document in both readings.
      have others : (applied ++ document :: rest).drop sent.length = document :: rest := by
        rw [← granted.length_eq, List.drop_left]
      rw [split] at all
      have final := List.forall₂_drop_append _ _ _ all
      rw [others] at final
      cases final with
      | cons granted _ => exact failed.unique granted

/-- Every request is one for a document. -/
theorem asked (h : InOrder asks refuses documents sent outcome) (he : e ∈ sent) :
    ∃ document ∈ documents, ∃ outcome, Sends asks outcome document e := by
  have granted {applied : List Json} {events : List (Event Wire)}
      (all : List.Forall₂ (Sends asks (.ok ())) applied events) (he : e ∈ events) :
      ∃ document ∈ applied, ∃ outcome, Sends asks outcome document e := by
    induction all with
    | nil => cases he
    | cons first _ ih =>
      rcases List.mem_cons.mp he with rfl | he
      · exact ⟨_, List.mem_cons_self, _, first⟩
      · obtain ⟨document, hd, more⟩ := ih he
        exact ⟨document, List.mem_cons_of_mem _ hd, more⟩
  cases h with
  | all all => exact granted all he
  | refused split all =>
    obtain ⟨document, hd, sends⟩ := granted all he
    exact ⟨document, split ▸ List.mem_append_left _ hd, sends⟩
  | failed split all failed =>
    rcases List.mem_append.mp he with he | he
    · obtain ⟨document, hd, sends⟩ := granted all he
      exact ⟨document, split ▸ List.mem_append_left _ hd, sends⟩
    · rw [List.mem_singleton.mp he, split]
      exact ⟨_, List.mem_append_cons_self, _, failed⟩

end InOrder

theorem inOrder_of_passes {σ : Type} {step : σ → Event Wire → σ → Prop} {left rest : Nat}
    {discovery : Discovery} {documents : List Json} {s s' : σ} {log : List (Moment Wire σ)}
    {outcome : Except Halt Unit}
    (h : Bounded.PassesIn step left (documents.forM (Client.applyDocument discovery)) s log s'
      outcome rest) :
    InOrder (Asks discovery) (Refuses discovery) documents (log.map Moment.event) outcome := by
  induction documents generalizing left s log with
  | nil =>
    obtain ⟨rfl, rfl, rfl, -⟩ := Bounded.passesIn_pure_iff.mp h
    exact .all .nil
  | cons document documents ih =>
    have first : Bounded.PassesIn step left (Client.applyDocument discovery document >>= fun _ =>
      documents.forM (Client.applyDocument discovery)) s log s' outcome rest := h
    rcases applyDocument_cases discovery document with ⟨r, asks, work⟩ | ⟨e, refuses, work⟩ <;>
      rw [work] at first
    · rcases Bounded.passesIn_bind_iff.mp first with
        ⟨halt, hfirst, rfl⟩ | ⟨before, _, between, mid, after, rfl, hfirst, hrest⟩ <;>
        obtain ⟨answer, rfl, -, houtcome⟩ := Bounded.passesIn_request hfirst
      · show InOrder _ _ _ ([] ++ [⟨.send r left, answer⟩]) _
        exact .failed rfl .nil ⟨r, left, answer, asks, rfl, houtcome.symm⟩
      · exact (ih hrest).cons ⟨r, left, answer, asks, rfl, houtcome.symm⟩
    · rcases Bounded.passesIn_bind_iff.mp first with
        ⟨halt, hfirst, rfl⟩ | ⟨before, _, between, mid, after, rfl, hfirst, hrest⟩ <;>
        obtain ⟨rfl, rfl, heq, -⟩ := Bounded.passesIn_throw_iff.mp hfirst <;> cases heq
      exact .refused rfl .nil refuses

def WireCall.IsInquiry : WireCall → Prop
  | .send r _ => r.method = .get
  | .pause _ => True
  | _ => False

theorem only_get {α : Type} {path : String} {decode : Json → Option α} :
    Bounded.Only WireCall.IsInquiry
      (Bounded.request (Request.at? .get path none none) decode) := by
  refine Bounded.only_request fun sent hsent within => ?_
  exact (Request.at?_eq_some hsent (List.nil_append _).symm (by simp)).1

theorem only_groupResources {root : String} {group : Discovery.Group} :
    Bounded.Only WireCall.IsInquiry (Discovery.groupResources root group) := by
  have listed : Bounded.Only WireCall.IsInquiry (group.versions.mapM fun (version, groupVersion) =>
      (do return (version, ← Discovery.resourcesAt (root ++ groupVersion)) :
        Bounded (String × List Resource))) :=
    Bounded.only_mapM fun _ _ => only_get.bind fun _ => Bounded.only_pure
  unfold Discovery.groupResources
  split
  · exact Bounded.only_throw.bind fun _ => listed.bind fun _ => Bounded.only_pure
  · exact listed.bind fun _ => Bounded.only_pure

theorem only_once : Bounded.Only WireCall.IsInquiry Discovery.once := by
  refine only_get.bind fun groups => ?_
  refine (Bounded.only_mapM fun group _ => only_groupResources).bind fun listed => ?_
  exact only_get.bind fun versions => only_groupResources.bind fun core => Bounded.only_pure

theorem only_pause {delay : Nat} : Bounded.Only WireCall.IsInquiry (Bounded.pause delay) :=
  (Bounded.only_ask trivial).bind fun _ => Bounded.only_spend

theorem only_retrying {α : Type} {work : Bounded α} (h : Bounded.Only WireCall.IsInquiry work)
    (delays : List Nat) : Bounded.Only WireCall.IsInquiry (Discovery.retrying work delays) := by
  induction delays with
  | nil => exact h
  | cons delay delays ih =>
    refine h.tryCatch fun halt => ?_
    cases halt with
    | timeUp => exact Bounded.only_throw
    | failed e => exact only_pause.bind fun _ => ih

/-- Finding out what a server offers changes nothing at it. -/
theorem only_discover (client : Client) : Bounded.Only WireCall.IsInquiry client.discover := by
  unfold Client.discover
  split
  · exact Bounded.only_pure
  · exact only_retrying only_once _

/-- Events by which a client finds out what its server offers, and what comes of it. -/
structure Finds (client : Client) (finding : List (Event Wire)) (found : Attempt Discovery) :
    Prop where
  runs : ∃ took, Procedure.Runs
    (Bounded.within "apply_manifest" Client.applyLimit client.discover) finding (found, took)
  inquires : ∀ e ∈ finding, WireCall.IsInquiry e.call
  known : ∀ discovery, client.known = some discovery → finding = [] ∧ found = .ok discovery

theorem finds_of_runs {client : Client} {finding : List (Event Wire)} {found : Attempt Discovery}
    {took : Nat} (h : Procedure.Runs
      (Bounded.within "apply_manifest" Client.applyLimit client.discover) finding (found, took)) :
    Finds client finding found := by
  refine ⟨⟨took, h⟩, h.only ((only_discover client).within _ _), fun discovery known => ?_⟩
  have work : client.discover = pure discovery := by
    unfold Client.discover
    rw [known]
  rw [work] at h
  obtain ⟨hfinding, heq⟩ := Procedure.runs_done_iff.mp h
  exact ⟨hfinding, (Prod.mk.inj heq).1⟩

/-- The documents of a stream that are objects with at least one member. -/
def objects (values : List Json) : List Json := values.filter fun v => !v.members.isEmpty

/-- The ways in which the applying of a manifest can go. -/
inductive Application (asks : Discovery → Json → Request → Prop) (client : Client)
    (content : Bytes) : List (Event Wire) → Attempt Unit → Client → Prop where
  /-- The manifest is no text. -/
  | undecoded (decoded : Bytes.decode? content = none) :
      Application asks client content []
        (.error (.serialization "manifest is not UTF-8" none)) client
  /-- A document of the manifest is malformed. -/
  | malformed {text : String} (decoded : Bytes.decode? content = some text)
      (read : Yaml.values? text = none) :
      Application asks client content [] (.error (.serialization "yaml" none)) client
  /-- What the server offers could not be found out. -/
  | unknown {text : String} {values : List Json} {finding : List (Event Wire)} {e : Error}
      (decoded : Bytes.decode? content = some text) (read : Yaml.values? text = some values)
      (found : Finds client finding (.error e)) :
      Application asks client content finding (.error e) client
  /-- The objects are applied in their order, and the client remembers what the server offers. -/
  | applied {text : String} {values : List Json} {finding sent : List (Event Wire)}
      {discovery : Discovery} {outcome : Except Halt Unit}
      (decoded : Bytes.decode? content = some text) (read : Yaml.values? text = some values)
      (found : Finds client finding (.ok discovery))
      (inOrder : InOrder (asks discovery) (Refuses discovery) (objects values) sent outcome)
      (success : outcome = .ok () ↔
        List.Forall₂ (Sends (asks discovery) (.ok ())) (objects values) sent) :
      Application asks client content (finding ++ sent)
        (Bounded.told "apply_manifest" Client.applyLimit outcome) ⟨some discovery⟩

/-- The applying of a manifest goes in one of these ways, whatever the answers are. -/
theorem application_of_runs {client : Client} {content : Bytes} {events : List (Event Wire)}
    {ended : Attempt Unit × Client}
    (h : Procedure.Runs (client.applyManifest content) events ended) :
    Application Asks client content events ended.1 ended.2 := by
  obtain ⟨result, after⟩ := ended
  unfold Client.applyManifest Client.documents at h
  cases decoded : Bytes.decode? content with
  | none =>
    rw [decoded] at h
    obtain ⟨rfl, heq⟩ := Procedure.runs_done_iff.mp h
    cases heq
    exact .undecoded decoded
  | some text =>
  cases read : Yaml.values? text with
  | none =>
    have none_read : Yaml.objects? text = none := by simp [Yaml.objects?, read]
    simp only [decoded, none_read] at h
    obtain ⟨rfl, heq⟩ := Procedure.runs_done_iff.mp h
    cases heq
    exact .malformed decoded read
  | some values =>
    have all : Yaml.objects? text = some (objects values) := by simp [Yaml.objects?, read, objects]
    simp only [decoded, all] at h
    obtain ⟨finding, ⟨found, took⟩, rest, rfl, hfind, hrest⟩ := Procedure.runs_bind_iff.mp h
    have finds : Finds client finding found := finds_of_runs hfind
    cases found with
    | error e =>
      obtain ⟨rfl, heq⟩ := Procedure.runs_done_iff.mp hrest
      cases heq
      rw [List.append_nil]
      exact .unknown decoded read finds
    | ok discovery =>
      obtain ⟨_, _, -, -, htook⟩ := Bounded.passes_within hfind.passes
      obtain ⟨sent, ⟨ended, _⟩, _, rfl, hwork, hdone⟩ := Procedure.runs_bind_iff.mp hrest
      obtain ⟨rfl, heq⟩ := Procedure.runs_done_iff.mp hdone
      cases heq
      obtain ⟨outcome, left, hpass, htold, -⟩ := Bounded.passes_within hwork.passes
      rcases Bounded.passesIn_spend_bind hpass with ⟨late, -⟩ | ⟨-, hforM⟩
      · exact absurd late (Nat.not_lt.mpr htook)
      · have inOrder := inOrder_of_passes hforM
        rw [List.map_map] at inOrder
        have made : InOrder (Asks discovery) (Refuses discovery) (objects values) sent outcome := by
          rwa [show Moment.event ∘ (fun e => (⟨(), e⟩ : Moment Wire Unit)) = id from rfl,
            List.map_id] at inOrder
        dsimp only at htold
        rw [List.append_nil, htold]
        exact .applied decoded read finds made made.ok_iff

/-- A server that grants every request. -/
def grantingWire : (call : WireCall) → call.Answer
  | .send .. => .answered ⟨200, "\x7b\x7d", some (.object [])⟩ 0
  | .fetch .. => .late
  | .pause delay => delay
  | .now => ""

def configMapsOnly : Discovery := ⟨[("", [("v1", [Client.configMaps])])]⟩

def paths (events : List (Event Wire)) : List String :=
  events.filterMap fun e => match e.call with
    | .send r _ => some r.path
    | _ => none

def manifestOf (names : List String) : Bytes :=
  Bytes.ofString <| String.join <| names.map fun name =>
    "---\napiVersion: v1\nkind: ConfigMap\nmetadata:\n  name: \"" ++ name ++ "\"\n"

theorem application_of_runs_unnamed :
    let client : Client := ⟨some configMapsOnly⟩
    let run := Procedure.recorded (I := Wire) grantingWire
      (client.applyManifest (manifestOf ["one", ""]))
    (Procedure.Runs (client.applyManifest (manifestOf ["one", ""])) run.1 run.2 ∧
      (paths run.1, run.2.1.isOk) = (["/api/v1/namespaces/default/configmaps/one"], false)) ∧
    Application Asks client (manifestOf ["one", ""]) run.1 run.2.1 run.2.2 :=
  ⟨⟨Procedure.runs_recorded (I := Wire) _ _, by decide +kernel⟩,
    application_of_runs (Procedure.runs_recorded (I := Wire) _ _)⟩

theorem name?_of_place? {discovery : Discovery} {document : Json} {place : Place}
    (h : place? discovery document = some place) : name? document = some place.name := by
  simp only [place?, Option.bind_eq_bind, Option.bind_eq_some_iff] at h
  obtain ⟨kind, -, apiVersion, -, name, hname, resource, -, hplace⟩ := h
  cases hplace
  exact hname

/-- The requests of a client that knows what its server offers, if paths had no marks. -/
theorem Application.own {client after : Client} {content : Bytes} {events : List (Event Wire)}
    {result : Attempt Unit} {discovery : Discovery} {e : Event Wire}
    (h : Application AsksOwn client content events result after)
    (known : client.known = some discovery) (he : e ∈ events) :
    ∃ documents document within, ∃ place : Place, Client.documents content = .ok documents ∧
      document ∈ documents ∧ name? document = some place.name ∧
      e.call = .send (place.ownRequest document) within := by
  cases h with
  | undecoded => cases he
  | malformed => cases he
  | unknown _ _ found =>
    rw [(found.known discovery known).1] at he
    cases he
  | @applied text values finding sent _ outcome decoded read found inOrder success =>
    rw [(found.known discovery known).1, List.nil_append] at he
    obtain ⟨document, hd, _, r, within, answer, ⟨place, hplace, rfl⟩, rfl, -⟩ := inOrder.asked he
    have parsed : Client.documents content = .ok (objects values) := by
      simp [Client.documents, decoded, Yaml.objects?, read, objects]
    exact ⟨objects values, document, within, place, parsed, hd, name?_of_place? hplace, rfl⟩

/-- The name of an object is put into the path of its request as it is. A number sign ends the path,
and another object is written. -/
theorem not_application_of_number_sign :
    let client : Client := ⟨some configMapsOnly⟩
    let run := Procedure.recorded (I := Wire) grantingWire
      (client.applyManifest (manifestOf ["two#x"]))
    (Procedure.Runs (client.applyManifest (manifestOf ["two#x"])) run.1 run.2 ∧
      (paths run.1, run.2.1.isOk) = (["/api/v1/namespaces/default/configmaps/two"], true)) ∧
    ¬Application AsksOwn client (manifestOf ["two#x"]) run.1 run.2.1 run.2.2 := by
  intro client run
  have outcome : (paths run.1, run.2.1.isOk) =
      (["/api/v1/namespaces/default/configmaps/two"], true) := by decide +kernel
  refine ⟨⟨Procedure.runs_recorded (I := Wire) _ _, outcome⟩, fun h => ?_⟩
  have told : "/api/v1/namespaces/default/configmaps/two" ∈ paths run.1 := by
    rw [(Prod.mk.inj outcome).1]
    exact List.mem_cons_self
  obtain ⟨e, he, hpath⟩ := List.mem_filterMap.mp told
  obtain ⟨documents, document, within, place, parsed, hd, hname, hcall⟩ := h.own rfl he
  have names : (match Client.documents (manifestOf ["two#x"]) with
      | .ok documents => documents.all fun d => name? d == some "two#x"
      | .error _ => true) = true := by decide +kernel
  rw [parsed] at names
  have name : place.name = "two#x" := by
    have own : name? document = some "two#x" := eq_of_beq (List.all_eq_true.mp names document hd)
    rw [hname] at own
    exact Option.some.inj own
  rw [hcall] at hpath
  have path : place.path = "/api/v1/namespaces/default/configmaps/two" := Option.some.inj hpath
  have mark : '#' ∈ place.path.toList := by
    rw [Place.path, name, String.toList_append]
    exact List.mem_append_right _ (by decide)
  rw [path] at mark
  exact absurd mark (by decide)

end Kubernetes
end PodNetwork
