import PodNetwork.Proofs.Kubernetes.Attempts
import PodNetwork.Proofs.Kubernetes.DocumentOrder
import PodNetwork.Rehearsal.ApiServer

/-! What a client knows of its server, from call to call.

Between two calls that make it forget, a client finds out at most once what its server offers. Until
then every manifest has it ask anew, and from then on the documents of all manifests are told apart
by the same snapshot, and the server is not asked again. -/
namespace PodNetwork

def ClusterCall.Applies : ClusterCall → Prop
  | .applyManifest _ | .applyManifestFromUrl _ => True
  | _ => False

namespace Kubernetes

open Procedure (Event Moment)

/-- A call of a client: its answer, and what passed on the wire. -/
structure Turn where
  call : ClusterCall
  answer : call.Answer
  events : List (Event Wire)

/-- Calls of one client, one after the other. -/
inductive History : Client → List Turn → Client → Prop where
  | nil (client : Client) : History client [] client
  | cons {client mid last : Client} {turn : Turn} {turns : List Turn}
      (first : Procedure.Runs (client.answer turn.call) turn.events (turn.answer, mid))
      (rest : History mid turns last) : History client (turn :: turns) last

/-- A search for what a server offers. There are at most five attempts, and that many if the search
failed and not because its time was up. -/
structure Inquiry (finding : List (Event Wire)) (outcome : Except Halt Discovery) : Prop where
  runs : ∃ took, Procedure.Runs
    (Bounded.within "apply_manifest" Client.applyLimit Discovery.fetch) finding
    (Bounded.told "apply_manifest" Client.applyLimit outcome, took)
  inquires : ∀ e ∈ finding, WireCall.IsInquiry e.call
  begun : 1 ≤ KindServer.rounds finding
  limited : KindServer.rounds finding ≤ 5
  exhausted : ∀ e, outcome = .error (.failed e) → KindServer.rounds finding = 5

namespace Turn

/-- A call that applies a manifest and has it: what passes once the manifest is there, and the
result. -/
inductive Has (content : Bytes) : Turn → List (Event Wire) → Attempt Unit → Prop where
  | given {events : List (Event Wire)} {result : Attempt Unit} :
      Has content ⟨.applyManifest content, result, events⟩ events result
  | fetched {url : String} {fetching events : List (Event Wire)} {result : Attempt Unit}
      {took : Nat} (page : Procedure.Runs
        (Bounded.within "fetch_manifest" Client.callLimit (Client.fetchPage url)) fetching
        (.ok content, took)) :
      Has content ⟨.applyManifestFromUrl url, result, fetching ++ events⟩ events result

/-- A call that has no documents to apply. -/
inductive Idle : Turn → Prop where
  | other {turn : Turn} (h : ¬turn.call.Applies) : Idle turn
  | unfetched {url : String} {fetching : List (Event Wire)} {e : Error} {took : Nat}
      (page : Procedure.Runs
        (Bounded.within "fetch_manifest" Client.callLimit (Client.fetchPage url)) fetching
        (.error e, took)) :
      Idle ⟨.applyManifestFromUrl url, (.error e : Attempt Unit), fetching⟩
  | unread {turn : Turn} {content : Bytes} {e : Error} (has : turn.Has content [] (.error e))
      (read : Client.documents content = .error e) : Idle turn

/-- A call that asks what the server offers and does not learn it, and so applies nothing. -/
inductive Misses : Turn → Prop where
  | mk {turn : Turn} {content : Bytes} {documents : List Json} {finding : List (Event Wire)}
      {halt : Halt}
      (has : turn.Has content finding
        (Bounded.told "apply_manifest" Client.applyLimit (.error halt)))
      (read : Client.documents content = .ok documents)
      (inquiry : Inquiry finding (.error halt)) : Misses turn

/-- A call that applies the documents of its manifest by a snapshot, after some events. -/
inductive Resolves (discovery : Discovery) (finding : List (Event Wire)) : Turn → Prop where
  | mk {turn : Turn} {content : Bytes} {documents : List Json} {sent : List (Event Wire)}
      {outcome : Except Halt Unit}
      (has : turn.Has content (finding ++ sent)
        (Bounded.told "apply_manifest" Client.applyLimit outcome))
      (read : Client.documents content = .ok documents)
      (inOrder : InOrder (Asks discovery) (Refuses discovery) documents sent outcome) :
      Resolves discovery finding turn

/-- A call that learns what the server offers, and applies the documents by that. -/
structure Learns (turn : Turn) (discovery : Discovery) : Prop where
  finds : ∃ finding, Inquiry finding (.ok discovery) ∧ turn.Resolves discovery finding

/-- A call that applies the documents by what is known, and does not ask for it again. -/
structure Reuses (turn : Turn) (discovery : Discovery) : Prop where
  resolves : turn.Resolves discovery []
  quiet : ∀ e ∈ turn.events, ¬WireCall.IsInquiry e.call

end Turn

/-- What a single call does to what a client knows, unless it makes the client forget. -/
inductive Steps : Client → Turn → Client → Prop where
  | idle {client : Client} {turn : Turn} (h : turn.Idle) : Steps client turn client
  | misses {turn : Turn} (h : turn.Misses) : Steps {} turn {}
  | learns {turn : Turn} {discovery : Discovery} (h : turn.Learns discovery) :
      Steps {} turn ⟨some discovery⟩
  | reuses {turn : Turn} {discovery : Discovery} (h : turn.Reuses discovery) :
      Steps ⟨some discovery⟩ turn ⟨some discovery⟩

section

variable {client after : Client} {content : Bytes} {events : List (Event Wire)}
  {result : Attempt Unit} {turn : Turn}

theorem inquiry_of_runs {finding : List (Event Wire)} {found : Attempt Discovery} {took : Nat}
    (h : Procedure.Runs (Bounded.within "apply_manifest" Client.applyLimit Discovery.fetch)
      finding (found, took)) :
    ∃ outcome, found = Bounded.told "apply_manifest" Client.applyLimit outcome ∧
      Inquiry finding outcome := by
  obtain ⟨outcome, rest, hfetch, hfound, -⟩ := Bounded.passes_within h.passes
  have counted := Discovery.attempts_retrying Discovery.attempts_once hfetch
  have same : attempts (finding.map fun e => (⟨(), e⟩ : Moment Wire Unit)) =
      KindServer.rounds finding := by
    simp [attempts, Function.comp_def]
  rw [same, Discovery.length_delays] at counted
  obtain ⟨least, most, all⟩ := counted
  have asking : Bounded.Only WireCall.IsInquiry Discovery.fetch := only_retrying only_once _
  refine ⟨outcome, hfound, ⟨took, ?_⟩, h.only (asking.within _ _), least, most, all⟩
  rwa [← hfound]

/-- While a page is fetched nothing is asked of the server. -/
theorem only_fetchPage (url : String) :
    Bounded.Only (fun call => ∃ within, call = .fetch url within) (Client.fetchPage url) := by
  refine Bounded.Only.bind (fun _ => trivial) fun within => ?_
  refine Bounded.Only.bind (Bounded.only_ask ⟨within, rfl⟩) fun answer => ?_
  match answer with
  | .page (.ok content) took => exact Bounded.only_spend.bind fun _ => Bounded.only_pure
  | .page (.error message) took => exact Bounded.only_spend.bind fun _ => Bounded.only_throw
  | .late => exact Bounded.only_throw

/-- The events of a call are those once its manifest is there, after the fetching of a page. -/
theorem Turn.Has.mem (h : turn.Has content events result) {e : Event Wire}
    (he : e ∈ turn.events) : e ∈ events ∨ ∃ url within, e.call = .fetch url within := by
  cases h with
  | given => exact .inl he
  | @fetched url fetching _ _ took page =>
    rcases List.mem_append.mp he with he | he
    · obtain ⟨within, hcall⟩ := page.only ((only_fetchPage url).within _ _) e he
      exact .inr ⟨url, within, hcall⟩
    · exact .inl he

/-- Documents are applied by requests that change the server. -/
theorem reuses_of_inOrder {discovery : Discovery} {documents : List Json}
    {sent : List (Event Wire)} {outcome : Except Halt Unit}
    (has : turn.Has content sent (Bounded.told "apply_manifest" Client.applyLimit outcome))
    (read : Client.documents content = .ok documents)
    (inOrder : InOrder (Asks discovery) (Refuses discovery) documents sent outcome) :
    turn.Reuses discovery := by
  refine ⟨.mk has read inOrder, fun e he hinquiry => ?_⟩
  rcases has.mem he with he | ⟨url, within, hcall⟩
  · obtain ⟨document, -, _, r, within, answer, asks, rfl, -⟩ := inOrder.asked he
    have get : r.method = .get := hinquiry
    rw [asks.method] at get
    cases get
  · rw [hcall] at hinquiry
    exact hinquiry

/-- Once it is known what the server offers, the documents are applied by that, and it is
remembered. -/
theorem inOrder_of_runs {discovery : Discovery} {documents : List Json}
    {sent : List (Event Wire)} {took : Nat} (htook : took ≤ Client.applyLimit)
    (h : Procedure.Runs (do
      let (result, _) ← Bounded.within "apply_manifest" Client.applyLimit (do
        Bounded.spend took
        documents.forM (Client.applyDocument discovery))
      return (result, (⟨some discovery⟩ : Client))) sent (result, after)) :
    after = ⟨some discovery⟩ ∧
    ∃ outcome, result = Bounded.told "apply_manifest" Client.applyLimit outcome ∧
      InOrder (Asks discovery) (Refuses discovery) documents sent outcome := by
  obtain ⟨_, ended, _, rfl, hsend, hdone⟩ := Procedure.runs_bind_iff.mp h
  obtain ⟨rfl, heq⟩ := Procedure.runs_done_iff.mp hdone
  obtain ⟨rfl, rfl⟩ := Prod.mk.inj heq
  obtain ⟨outcome, rest, hwork, htold, -⟩ := Bounded.passes_within hsend.passes
  rcases Bounded.passesIn_spend_bind hwork with ⟨late, -⟩ | ⟨-, hforM⟩
  · exact absurd late (Nat.not_lt.mpr htook)
  · have inOrder := inOrder_of_passes hforM
    rw [List.map_map, Function.comp_def, List.map_id'] at inOrder
    rw [List.append_nil]
    exact ⟨rfl, outcome, htold, inOrder⟩

/-- The caller is told the same of a search that is cut short as of documents that are. -/
theorem exists_told_error (halt : Halt) :
    ∃ e, Bounded.told "apply_manifest" Client.applyLimit
        (.error halt : Except Halt Discovery) = .error e ∧
      Bounded.told "apply_manifest" Client.applyLimit (.error halt : Except Halt Unit) =
        .error e := by
  cases halt with
  | timeUp => exact ⟨_, rfl, rfl⟩
  | failed e => exact ⟨e, rfl, rfl⟩

/-- The applying of a manifest that is there. -/
theorem steps_of_applyManifest (has : turn.Has content events result)
    (h : Procedure.Runs (client.applyManifest content) events (result, after)) :
    Steps client turn after := by
  unfold Client.applyManifest at h
  cases read : Client.documents content with
  | error e =>
    rw [read] at h
    obtain ⟨rfl, heq⟩ := Procedure.runs_done_iff.mp h
    cases heq
    exact .idle (.unread has read)
  | ok documents =>
    rw [read] at h
    obtain ⟨finding, ⟨found, took⟩, rest, rfl, hfind, hrest⟩ := Procedure.runs_bind_iff.mp h
    obtain ⟨-, -, -, -, htook⟩ := Bounded.passes_within hfind.passes
    -- Only a client that knows nothing asks, and only what it was told is remembered.
    obtain ⟨known⟩ := client
    cases known with
    | none =>
      obtain ⟨outcome, rfl, inquiry⟩ := inquiry_of_runs hfind
      cases outcome with
      | error halt =>
        obtain ⟨e, hfound, htold⟩ := exists_told_error halt
        rw [hfound] at hrest
        obtain ⟨rfl, heq⟩ := Procedure.runs_done_iff.mp hrest
        cases heq
        rw [List.append_nil, ← htold] at has
        exact .misses (.mk has read inquiry)
      | ok discovery =>
        obtain ⟨rfl, outcome, rfl, inOrder⟩ := inOrder_of_runs htook hrest
        exact .learns ⟨finding, inquiry, .mk has read inOrder⟩
    | some discovery =>
      obtain ⟨rfl, heq⟩ := Procedure.runs_done_iff.mp hfind
      cases heq
      obtain ⟨rfl, outcome, rfl, inOrder⟩ := inOrder_of_runs htook hrest
      rw [List.nil_append] at has
      exact .reuses (reuses_of_inOrder has read inOrder)

theorem eq_of_perform {α : Type} {operation : String} {work : Bounded α} {a : Attempt α}
    (h : Procedure.Runs (client.perform operation work) events (a, after)) : after = client := by
  obtain ⟨_, out, _, -, -, hdone⟩ := Procedure.runs_bind_iff.mp h
  obtain ⟨-, heq⟩ := Procedure.runs_done_iff.mp hdone
  exact (Prod.mk.inj heq).2

/-- All that a call can do. -/
theorem steps_of_runs (hcall : turn.call ≠ .invalidateDiscovery)
    (h : Procedure.Runs (client.answer turn.call) turn.events (turn.answer, after)) :
    Steps client turn after := by
  obtain ⟨call, answer, events⟩ := turn
  cases call with
  | applyManifest content => exact steps_of_applyManifest .given h
  | applyManifestFromUrl url =>
    obtain ⟨fetching, ⟨got, took⟩, rest, rfl, hpage, hrest⟩ := Procedure.runs_bind_iff.mp h
    cases got with
    | error e =>
      obtain ⟨rfl, heq⟩ := Procedure.runs_done_iff.mp hrest
      cases heq
      rw [List.append_nil]
      exact .idle (.unfetched hpage)
    | ok content => exact steps_of_applyManifest (.fetched hpage) hrest
  | invalidateDiscovery => exact absurd rfl hcall
  | listPods ns selector =>
    obtain ⟨_, out, _, -, -, hdone⟩ := Procedure.runs_bind_iff.mp h
    obtain ⟨-, heq⟩ := Procedure.runs_done_iff.mp hdone
    obtain rfl := (Prod.mk.inj heq).2
    exact .idle (.other id)
  | getConfigMap | updateConfigMap | getNodes | labelNode | removeNodeTaint | deleteDaemonset
  | deletePodsByLabel | rolloutRestart =>
    obtain rfl := eq_of_perform h
    exact .idle (.other id)

end

/-- How the calls go that a client answers from not knowing what its server offers up to the next
call that makes it forget. -/
inductive Stretch : List Turn → Prop where
  /-- Nothing is learnt, and every manifest that is there has the client ask again. -/
  | ignorant {turns : List Turn} (h : ∀ turn ∈ turns, turn.Idle ∨ turn.Misses) : Stretch turns
  /-- One call learns what the server offers. Before it nothing was learnt, and behind it nothing
  is asked. -/
  | informed {before later : List Turn} {turn : Turn} {discovery : Discovery}
      (ignorant : ∀ turn ∈ before, turn.Idle ∨ turn.Misses) (first : turn.Learns discovery)
      (reused : ∀ turn ∈ later, turn.Idle ∨ turn.Reuses discovery) :
      Stretch (before ++ turn :: later)

namespace History

variable {client mid last : Client} {turns later : List Turn}

theorem append (h : History client turns mid) (h' : History mid later last) :
    History client (turns ++ later) last := by
  induction h with
  | nil => exact h'
  | cons first _ ih => exact .cons first (ih h')

theorem exists_of_append (h : History client (turns ++ later) last) :
    ∃ mid, History client turns mid ∧ History mid later last := by
  induction turns generalizing client with
  | nil => exact ⟨client, .nil client, h⟩
  | cons turn turns ih =>
    cases h with
    | cons first rest =>
      obtain ⟨mid, hturns, hlater⟩ := ih rest
      exact ⟨mid, .cons first hturns, hlater⟩

/-- A client that knows what its server offers goes on with that. -/
theorem reuses {discovery : Discovery} (h : History ⟨some discovery⟩ turns last)
    (keeps : ∀ turn ∈ turns, turn.call ≠ .invalidateDiscovery) :
    ∀ turn ∈ turns, turn.Idle ∨ turn.Reuses discovery := by
  induction turns with
  | nil => exact nofun
  | cons turn turns ih =>
    cases h with
    | cons first rest =>
      have others := fun t ht => keeps t (List.mem_cons_of_mem _ ht)
      rw [List.forall_mem_cons]
      cases steps_of_runs (keeps turn List.mem_cons_self) first with
      | idle h => exact ⟨.inl h, ih rest others⟩
      | reuses h => exact ⟨.inr h, ih rest others⟩

/-- A client that does not know what its server offers asks until it learns it. -/
theorem stretch (h : History {} turns last)
    (keeps : ∀ turn ∈ turns, turn.call ≠ .invalidateDiscovery) : Stretch turns := by
  induction turns with
  | nil => exact .ignorant nofun
  | cons turn turns ih =>
    cases h with
    | cons first rest =>
      have others := fun t ht => keeps t (List.mem_cons_of_mem _ ht)
      have longer (hturn : turn.Idle ∨ turn.Misses) (later : Stretch turns) :
          Stretch (turn :: turns) := by
        cases later with
        | ignorant h => exact .ignorant (List.forall_mem_cons.mpr ⟨hturn, h⟩)
        | informed before first reused =>
          exact .informed (List.forall_mem_cons.mpr ⟨hturn, before⟩) first reused
      -- A client that has learnt nothing is as at the beginning. One that has learnt keeps it.
      cases steps_of_runs (keeps turn List.mem_cons_self) first with
      | idle h => exact longer (.inl h) (ih rest others)
      | misses h => exact longer (.inr h) (ih rest others)
      | learns h =>
        have none_before : ∀ t ∈ ([] : List Turn), t.Idle ∨ t.Misses := nofun
        exact .informed none_before h (rest.reuses others)

/-- A client that was made to forget knows nothing. -/
theorem eq_of_forgetting {turn : Turn} (hturn : turn.call = .invalidateDiscovery)
    (h : History client (turns ++ [turn]) last) : last = {} := by
  obtain ⟨mid, -, hlast⟩ := h.exists_of_append
  obtain ⟨call, answer, events⟩ := turn
  cases hturn
  cases hlast with
  | cons first rest =>
    cases rest
    obtain ⟨-, heq⟩ := Procedure.runs_done_iff.mp first
    exact (Prod.mk.inj heq).2

/-- From its beginning, and from every call that makes it forget, up to the next such call, a client
finds out at most once what its server offers. -/
theorem stretch_of_forgetting {before stretch : List Turn}
    (h : History {} (before ++ stretch) last)
    (start : before = [] ∨ ∃ earlier turn, before = earlier ++ [turn] ∧
      turn.call = .invalidateDiscovery)
    (keeps : ∀ turn ∈ stretch, turn.call ≠ .invalidateDiscovery) : Stretch stretch := by
  obtain ⟨mid, hbefore, hstretch⟩ := h.exists_of_append
  have ignorant : mid = {} := by
    rcases start with rfl | ⟨earlier, turn, rfl, hturn⟩
    · cases hbefore
      rfl
    · exact eq_of_forgetting hturn hbefore
  rw [ignorant] at hstretch
  exact hstretch.stretch keeps

/-- Calls that a client makes one after the other, while the wire answers each in its own way. -/
def record (client : Client) :
    List (ClusterCall × ((call : WireCall) → call.Answer)) → List Turn × Client
  | [] => ([], client)
  | (call, answer) :: calls =>
    let run := Procedure.recorded (I := Wire) answer (client.answer call)
    let (turns, last) := record run.2.2 calls
    (⟨call, run.2.1, run.1⟩ :: turns, last)

theorem history_record (client : Client)
    (calls : List (ClusterCall × ((call : WireCall) → call.Answer))) :
    History client (record client calls).1 (record client calls).2 := by
  induction calls generalizing client with
  | nil => exact .nil client
  | cons first calls ih => exact .cons (Procedure.runs_recorded (I := Wire) _ _) (ih _)

/-- A server that tells of some kinds, and grants what is applied. -/
def offeringWire (offers : List Rehearsal.Offer) : (call : WireCall) → call.Answer
  | .send r _ =>
    if r.method = .get then
      .answered ⟨200, "", Rehearsal.ApiServer.catalogue? ⟨offers, [], [], []⟩ r.path⟩ 0
    else .answered ⟨200, "\x7b\x7d", some (.object [])⟩ 0
  | .fetch .. => .late
  | .pause delay => delay
  | .now => ""

/-- A kind that is offered later than it is first needed stays unknown until the client is made to
forget, and the search that failed before is made again at once. -/
theorem stretch_of_forgetting_late :
    let maps : Rehearsal.Offer := ⟨"", "v1", "configmaps", "ConfigMap", true⟩
    let apply := ClusterCall.applyManifest (manifestOf ["one"])
    let early := record {} [(apply, WireCall.unreached), (apply, offeringWire []),
      (apply, offeringWire [maps])]
    let forget : Turn := ⟨.invalidateDiscovery, (), []⟩
    let late := record {} [(apply, offeringWire [maps]), (apply, offeringWire [])]
    (early.1 ++ forget :: late.1).map (fun turn => (KindServer.rounds turn.events,
        turn.events.countP fun e => !(WireCall.applied e.call).isEmpty)) =
      [(5, 0), (1, 0), (0, 0), (0, 0), (1, 1), (0, 1)] ∧
    History {} (early.1 ++ [forget] ++ late.1) late.2 ∧
    (∀ turn ∈ late.1, turn.call ≠ .invalidateDiscovery) ∧
    Stretch early.1 ∧ Stretch late.1 := by
  intro maps apply early forget late
  have earlyHistory : History {} early.1 early.2 := history_record _ _
  have forgetting : History early.2 [forget] {} := .cons (.done _) (.nil _)
  have lateHistory : History {} late.1 late.2 := history_record _ _
  have whole : History {} (early.1 ++ [forget] ++ late.1) late.2 :=
    (earlyHistory.append forgetting).append lateHistory
  have fromStart : History {} ([] ++ early.1) early.2 := earlyHistory
  have early_keeps : ∀ turn ∈ early.1, turn.call ≠ .invalidateDiscovery := by
    simp [early, record, apply]
  have late_keeps : ∀ turn ∈ late.1, turn.call ≠ .invalidateDiscovery := by
    simp [late, record, apply]
  refine ⟨by decide +kernel, whole, late_keeps, ?_, ?_⟩
  · exact stretch_of_forgetting fromStart (.inl rfl) early_keeps
  · exact stretch_of_forgetting whole (.inr ⟨early.1, forget, rfl, rfl⟩) late_keeps

end History

end Kubernetes
end PodNetwork
