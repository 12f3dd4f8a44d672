import PodNetwork.Proofs.Kubernetes.Applying

/-! Sessions with a server of kinds, as a deployment sees them.

The cluster of a site is a client with a server behind it. A step of a deployment that needs some
kinds is carried out in every session whose client knows these kinds or will find them, and the
client still does afterwards. -/
namespace PodNetwork.Manifest

open Kubernetes Rehearsal

/-- A client of a server, and what has passed between them. -/
structure Session (σ : Type) where
  client : Client
  state : σ
  events : List (Procedure.Event Wire)

namespace Session

variable {σ α β : Type}

def wire (session : Session σ) : σ × List (Procedure.Event Wire) :=
  (session.state, session.events)

def answer (server : KindServer σ) (session : Session σ) (call : ClusterCall) :
    call.Answer × Session σ :=
  let out := (session.client.answer call).run (I := Wire) server.world.answer session.wire
  (out.1.1, ⟨out.1.2, out.2.1, out.2.2⟩)

/-- A site with some files whose cluster is a server of kinds. What else is asked of it is answered
in any way. -/
def site (server : KindServer σ) (files : String → Bytes)
    (elsewhere : (c : SiteCall) → c.Answer) : World Site (Session σ) where
  answer
    | .cluster call, session => session.answer server call
    | .host (.readFile path), session => (.ok (files path), session)
    | call, session => (elsewhere call, session)
  fine session := ∀ e ∈ session.events, e.call.Succeeds e.answer
  fine_of_answer call session h := by
    cases call with
    | cluster call => exact @World.fine_of_run _ _ _ server.world _ session.wire h
    | host call => cases call <;> exact h
    | _ => exact h

/-- The run of a routine at a site, from a session on. -/
def run (session : Session σ) (server : KindServer σ) (files : String → Bytes)
    (elsewhere : (c : SiteCall) → c.Answer) (routine : Routine α) : Attempt α × Session σ :=
  (ExceptT.run routine).run (site server files elsewhere).answer session

variable {server : KindServer σ} {files : String → Bytes}
  {elsewhere : (c : SiteCall) → c.Answer} {session session' session'' : Session σ}

/-- At a server whose answers are never late and never an error, all calls succeed. -/
theorem succeeds_of_reliable
    (reliable : ∀ call s, WireCall.Succeeds call (server.answer call s).1)
    (routine : Routine α) (client : Client) (start : σ) :
    ∀ e ∈ (Session.run ⟨client, start, []⟩ server files elsewhere routine).2.events,
      e.call.Succeeds e.answer := by
  have wire : ∀ call s, server.world.fine s → server.world.fine (server.world.answer call s).2 := by
    intro call s hs e he
    rcases List.mem_append.mp he with he | he
    · exact hs e he
    · rw [List.mem_singleton.mp he]
      exact reliable call s.1
  have calls : ∀ call session, (site server files elsewhere).fine session →
      (site server files elsewhere).fine ((site server files elsewhere).answer call session).2 := by
    intro call session hs
    cases call with
    | cluster call => exact World.fine_run wire _ _ hs
    | host call => cases call <;> exact hs
    | _ => exact hs
  exact World.fine_run calls _ _ fun _ he => absurd he List.not_mem_nil

/-- What happens between two moments of a session: documents are applied, and the rounds of
discovery that were begun or are due become more by some number at most. -/
def Advance (server : KindServer σ) (documents : List Json) (more : Nat)
    (session session' : Session σ) : Prop :=
  ∃ count, server.Progress documents count session.wire session'.wire ∧
    count + session'.client.roundsDue ≤ session.client.roundsDue + more

theorem Advance.refl : Advance server [] 0 session session := ⟨0, .refl, by omega⟩

theorem Advance.trans {documents later : List Json} {more again : Nat}
    (h : Advance server documents more session session')
    (h' : Advance server later again session' session'') :
    Advance server (documents ++ later) (more + again) session session'' := by
  obtain ⟨count, hprogress, hcount⟩ := h
  obtain ⟨count', hprogress', hcount'⟩ := h'
  exact ⟨count + count', hprogress.trans hprogress', by omega⟩

variable (server files elsewhere) {needed : List Offer}

/-- Whether a routine that needs some kinds ends with a good value and applies some documents, in
every session whose client knows the kinds or will find them. -/
def Carries (needed : List Offer) (routine : Routine α) (good : α → Prop)
    (documents : List Json) : Prop :=
  ∀ session : Session σ, session.client.Knows needed server session.wire →
    Routine.Fulfils (site server files elsewhere) routine session fun a session' =>
      good a ∧ session'.client.Knows needed server session'.wire ∧
        Advance server documents 0 session session'

variable {server files elsewhere} {routine : Routine α} {good : α → Prop}
  {documents later : List Json}

theorem carries_pure {a : α} (h : good a) :
    Carries server files elsewhere needed (pure a) good [] :=
  fun _ hknows => Routine.fulfils_pure ⟨h, hknows, .refl⟩

theorem Carries.bind {f : α → Routine β} {good' : β → Prop}
    (h : Carries server files elsewhere needed routine good documents)
    (hf : ∀ a, good a → Carries server files elsewhere needed (f a) good' later) :
    Carries server files elsewhere needed (routine >>= f) good' (documents ++ later) := by
  intro session hknows
  refine Routine.Fulfils.bind (h session hknows) ?_
  intro a session' ⟨ha, hknows', hadvance⟩
  refine Routine.Fulfils.mono (hf a ha session' hknows') ?_
  intro b session'' ⟨hb, hknows'', hadvance'⟩
  exact ⟨hb, hknows'', hadvance.trans hadvance'⟩

theorem Carries.mapError (h : Carries server files elsewhere needed routine good documents)
    (f : Error → Error) :
    Carries server files elsewhere needed (routine.mapError f) good documents :=
  fun session hknows => (h session hknows).mapError f

theorem carries_forM {γ : Type} {f : γ → Routine Unit} {part : γ → List Json} {items : List γ}
    (h : ∀ item ∈ items,
      Carries server files elsewhere needed (f item) (fun _ => True) (part item)) :
    Carries server files elsewhere needed (items.forM f) (fun _ => True)
      (items.flatMap part) := by
  induction items with
  | nil => exact carries_pure trivial
  | cons item items ih =>
    refine Carries.bind (h item List.mem_cons_self) fun _ _ => ?_
    exact ih fun other hother => h other (List.mem_cons_of_mem _ hother)

theorem yields_cluster {call : ClusterCall} {post : call.Answer → Session σ → Prop}
    (h : server.world.Yields (session.client.answer call) session.wire
      fun out s' => post out.1 ⟨out.2, s'.1, s'.2⟩) :
    (site server files elsewhere).Yields (Procedure.call (I := Site) (.cluster call)) session
      post := h

/-- A call that leaves the client as it is and applies nothing. -/
theorem advance_of_progress {client : Client} {s' : σ × List (Procedure.Event Wire)}
    (hknows : session.client.Knows needed server session.wire) (hclient : client = session.client)
    (hprogress : server.Progress [] 0 session.wire s') :
    client.Knows needed server s' ∧ Advance server [] 0 session ⟨client, s'.1, s'.2⟩ := by
  subst hclient
  exact ⟨hknows.of_progress hprogress, 0, hprogress, by simp⟩

/-- A call by which documents are applied: it begins the round of discovery that was due, if any. -/
theorem advance_of_applied {client : Client} {s' : σ × List (Procedure.Event Wire)}
    (hclient : ∃ discovery, client = ⟨some discovery⟩ ∧ discovery.Knows needed)
    (hprogress : server.Progress documents session.client.roundsDue session.wire s') :
    client.Knows needed server s' ∧ Advance server documents 0 session ⟨client, s'.1, s'.2⟩ := by
  obtain ⟨discovery, rfl, hdiscovery⟩ := hclient
  exact ⟨hdiscovery, _, hprogress, by simp [Client.roundsDue]⟩

end Session
end PodNetwork.Manifest
