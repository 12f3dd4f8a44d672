import PodNetwork.Proofs.Kubernetes.KindServer
import PodNetwork.Proofs.Kubernetes.Completing

/-! How often discovery is tried.

Each attempt asks for the list of groups first and never again, so that the attempts are told from
what passes on the wire. Discovery ends with the first attempt that is successful, or when the time
is up, and fails otherwise only if all attempts did. -/
namespace PodNetwork.Kubernetes

open Procedure (Event Moment)

section

variable {σ α β : Type} {step : σ → Event Wire → σ → Prop} {s s' : σ} {log : List (Moment Wire σ)}
  {left rest : Nat}

def attempts (log : List (Moment Wire σ)) : Nat := KindServer.rounds (log.map Moment.event)

theorem attempts_append (log later : List (Moment Wire σ)) :
    attempts (log ++ later) = attempts log + attempts later := by
  simp [attempts, KindServer.rounds]

/-- A call that is not the first one of an attempt. -/
def WireCall.Continues (call : WireCall) : Prop := call.opensRound = false

/-- Work in whose course no attempt is begun. -/
theorem attempts_eq_zero {work : Bounded α} {outcome : Except Halt α}
    (hw : Bounded.Only WireCall.Continues work)
    (h : Bounded.PassesIn step left work s log s' outcome rest) : attempts log = 0 := by
  rw [attempts, KindServer.rounds, List.countP_eq_zero]
  intro e he
  have continues : e.call.opensRound = false := h.runs.only (hw left) e he
  simp [continues]

/-- What is done about a failure is done with the time that is left. -/
theorem Bounded.passesIn_tryCatch {work : Bounded α} {handler : Halt → Bounded α}
    {outcome : Except Halt α}
    (h : PassesIn step left (tryCatch work handler) s log s' outcome rest) :
    (∃ a, outcome = .ok a ∧ PassesIn step left work s log s' (.ok a) rest) ∨
    ∃ before halt between mid after, log = before ++ after ∧
      PassesIn step left work s before mid (.error halt) between ∧
      PassesIn step between (handler halt) mid after s' outcome rest := by
  obtain ⟨before, ⟨result, between⟩, mid, after, rfl, hwork, hrest⟩ :=
    Procedure.passes_bind_iff.mp h
  cases result with
  | ok a =>
    obtain ⟨rfl, rfl, heq⟩ := Procedure.passes_done_iff.mp hrest
    obtain ⟨rfl, rfl⟩ := Prod.mk.inj heq
    exact .inl ⟨a, rfl, by rwa [List.append_nil]⟩
  | error halt => exact .inr ⟨before, halt, between, mid, after, rfl, hwork, hrest⟩

/-- A pause fails only when the time is up. -/
theorem Bounded.eq_timeUp_of_pause {delay : Nat} {halt : Halt}
    (h : PassesIn step left (pause delay) s log s' (.error halt) rest) : halt = .timeUp := by
  rcases passesIn_bind_iff.mp h with
    ⟨_, hask, -⟩ | ⟨_, took, between, mid, after, rfl, hask, hspend⟩
  · obtain ⟨_, -, -, heq, -⟩ := passesIn_ask_iff.mp hask
    cases heq
  · obtain ⟨-, -, ⟨-, heq⟩ | ⟨-, heq, -⟩⟩ := passesIn_spend hspend <;> cases heq
    rfl

end

namespace Discovery

section

variable {σ α : Type} {step : σ → Event Wire → σ → Prop} {s s' : σ} {log : List (Moment Wire σ)}
  {left rest : Nat}

/-- A request at a path whose beginning the path of the list of groups does not share is another
one. -/
theorem continues_of_lead {lead : String} {tail : String} {r : Request}
    (valid : ∀ c ∈ lead.toList, Request.isPathChar c = true)
    (other : ¬lead.toList <+: "/apis".toList)
    (h : Request.at? .get (lead ++ tail) none none = some r) (within : Nat) :
    WireCall.Continues (.send r within) := by
  obtain ⟨-, -, begins⟩ := Request.at?_eq_some h (String.toList_append) valid
  have elsewhere : r.path ≠ "/apis" := by
    intro same
    rw [same] at begins
    exact other begins
  simp [WireCall.Continues, WireCall.opensRound, Request.opensRound, elsewhere]

theorem continues_groupResources {root : String} {group : Group}
    (valid : ∀ c ∈ root.toList, Request.isPathChar c = true)
    (other : ¬root.toList <+: "/apis".toList) :
    Bounded.Only WireCall.Continues (groupResources root group) := by
  have asked (path : String) : Bounded.Only WireCall.Continues (resourcesAt (root ++ path)) :=
    Bounded.only_request fun r hr => continues_of_lead valid other hr
  have listed : Bounded.Only WireCall.Continues (group.versions.mapM fun entry =>
      (do return (entry.1, ← resourcesAt (root ++ entry.2)) :
        Bounded (String × List Resource))) :=
    Bounded.only_mapM fun entry _ => (asked entry.2).bind fun _ => Bounded.only_pure
  unfold groupResources
  split
  · exact Bounded.only_throw.bind fun _ => listed.bind fun _ => Bounded.only_pure
  · exact listed.bind fun _ => Bounded.only_pure

/-- The list of groups is asked for at the beginning of an attempt and not again. -/
theorem attempts_once {outcome : Except Halt Discovery}
    (h : Bounded.PassesIn step left once s log s' outcome rest) : attempts log = 1 := by
  have first : Request.at? .get "/apis" none none = some ⟨.get, "/apis", [], none⟩ :=
    Request.at?_plain (by decide)
  have core : Request.at? .get "/api" none none = some ⟨.get, "/api", [], none⟩ :=
    Request.at?_plain (by decide)
  unfold once at h
  rw [first] at h
  rcases Bounded.passesIn_bind_iff.mp h with
    ⟨halt, hasked, rfl⟩ | ⟨asking, groups, between, mid, later, rfl, hasked, hlater⟩
  · obtain ⟨answer, rfl, -⟩ := Bounded.passesIn_request hasked
    rfl
  · obtain ⟨answer, rfl, -⟩ := Bounded.passesIn_request hasked
    have continues : Bounded.Only WireCall.Continues (do
        let listed ← groups.mapM (groupResources "/apis/")
        let versions ← Bounded.request (Request.at? .get "/api" none none) coreVersions?
        let core ← groupResources "/api/" ⟨"", versions.map fun v => (v, v)⟩
        return Discovery.mk (listed ++ [core]).reverse) := by
      have named (group : Group) : Bounded.Only WireCall.Continues
          (groupResources "/apis/" group) :=
        continues_groupResources (List.all_eq_true.mp (by decide)) (by decide)
      have coreGroup (group : Group) : Bounded.Only WireCall.Continues
          (groupResources "/api/" group) :=
        continues_groupResources (List.all_eq_true.mp (by decide)) (by decide)
      have versions : Bounded.Only WireCall.Continues
          (Bounded.request (Request.at? .get "/api" none none) coreVersions?) := by
        refine Bounded.only_request fun r hr within => ?_
        rw [core] at hr
        cases hr
        rfl
      exact (Bounded.only_mapM fun group _ => named group).bind fun _ =>
        versions.bind fun _ => (coreGroup _).bind fun _ => Bounded.only_pure
    rw [attempts_append, attempts_eq_zero continues hlater]
    rfl

theorem continues_pause {delay : Nat} : Bounded.Only WireCall.Continues (Bounded.pause delay) := by
  have asked : Bounded.Only WireCall.Continues (Bounded.ask (.pause delay)) :=
    Bounded.only_ask rfl
  exact asked.bind fun _ => Bounded.only_spend

/-- What the attempts of retried work come to, each of which counts once. -/
theorem attempts_retrying {work : Bounded α} {outcome : Except Halt α}
    (once : ∀ {left s log s' outcome rest},
      Bounded.PassesIn step left work s log s' outcome rest → attempts log = 1)
    {delays : List Nat}
    (h : Bounded.PassesIn step left (retrying work delays) s log s' outcome rest) :
    1 ≤ attempts log ∧ attempts log ≤ delays.length + 1 ∧
      ∀ e, outcome = .error (.failed e) → attempts log = delays.length + 1 := by
  induction delays generalizing left s log with
  | nil =>
    have one : attempts log = 1 := once h
    exact ⟨one.ge, one.le, fun _ _ => one⟩
  | cons delay delays ih =>
    rcases Bounded.passesIn_tryCatch h with
      ⟨a, rfl, hdone⟩ | ⟨before, halt, between, mid, after, rfl, hfirst, hafter⟩
    · have one : attempts log = 1 := once hdone
      refine ⟨one.ge, by omega, nofun⟩
    · have one : attempts before = 1 := once hfirst
      -- When the time is up no more is tried. After a failure the pauses left are those of the
      -- attempts left.
      cases halt with
      | timeUp =>
        obtain ⟨rfl, rfl, rfl, -⟩ := Bounded.passesIn_throw_iff.mp hafter
        rw [List.append_nil]
        exact ⟨one.ge, by omega, nofun⟩
      | failed e =>
        rcases Bounded.passesIn_bind_iff.mp hafter with
          ⟨halt, hpause, rfl⟩ | ⟨pause, _, between', mid', later, rfl, hpause, hlater⟩
        · have none_paused : attempts after = 0 := attempts_eq_zero continues_pause hpause
          have late : halt = .timeUp := Bounded.eq_timeUp_of_pause hpause
          rw [attempts_append, late]
          exact ⟨by omega, by omega, nofun⟩
        · have none_paused : attempts pause = 0 := attempts_eq_zero continues_pause hpause
          obtain ⟨least, most, all⟩ := ih hlater
          rw [attempts_append, attempts_append, List.length_cons]
          refine ⟨by omega, by omega, fun e he => ?_⟩
          have rest_failed : attempts later = delays.length + 1 := all e he
          omega

end

/-- How often discovery is tried at most. -/
theorem length_delays : delays.length = 4 := by decide +kernel

end Discovery
end PodNetwork.Kubernetes
