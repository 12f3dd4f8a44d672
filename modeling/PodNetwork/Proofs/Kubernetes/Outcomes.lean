import PodNetwork.Kubernetes.Client
import PodNetwork.Proofs.Procedure.Passages

/-! What has passed on the wire when work has ended, in whatever way.

Each request is one event. What becomes of it depends on its answer and on the time that was left
when it was made. -/
namespace PodNetwork.Kubernetes

open Procedure (Event Moment)

namespace Exchange

/-- The reply to a request, if it comes in the time that is left. -/
def reply (within : Nat) : Exchange → Except Halt Reply
  | .answered reply took => if within < took then .error .timeUp else .ok reply
  | .broken took =>
    if within < took then .error .timeUp else .error (.failed (.api .connection))
  | .late => .error .timeUp

end Exchange

/-- The value that a reply brings, if it tells of no error. -/
def Reply.value? {α : Type} (decode : Json → Option α) (reply : Reply) : Except Halt α :=
  if 400 ≤ reply.code && reply.code < 600 then .error (.failed (.api (Bounded.faultOf reply)))
  else match reply.value.bind decode with
    | some a => .ok a
    | none => .error (.failed (.api .malformedReply))

def Exchange.outcome {α : Type} (decode : Json → Option α) (within : Nat) (answer : Exchange) :
    Except Halt α := do
  (← answer.reply within).value? decode

/-- A request is successful if there is a reply in time that tells of no error and has the right
form. -/
theorem Exchange.outcome_eq_ok_iff {α : Type} {decode : Json → Option α} {within : Nat}
    {answer : Exchange} {a : α} :
    answer.outcome decode within = .ok a ↔ ∃ reply took, answer = .answered reply took ∧
      took ≤ within ∧ ¬(400 ≤ reply.code ∧ reply.code < 600) ∧
        reply.value.bind decode = some a := by
  constructor
  · intro h
    cases answer with
    | answered reply took =>
      by_cases late : within < took
      · simp [outcome, Exchange.reply, late, bind, Except.bind] at h
      · have intime : took ≤ within := Nat.not_lt.mp late
        have h : reply.value? decode = .ok a := by
          simpa [outcome, Exchange.reply, late, bind, Except.bind] using h
        unfold Reply.value? at h
        split at h
        · cases h
        · next good =>
          split at h <;> cases h
          next hvalue => exact ⟨reply, took, rfl, intime, by simpa using good, hvalue⟩
    | broken took =>
      by_cases late : within < took <;>
        simp [outcome, Exchange.reply, late, bind, Except.bind] at h
    | late => cases h
  · rintro ⟨reply, took, rfl, intime, good, hvalue⟩
    have noError : ¬(400 ≤ reply.code && reply.code < 600) = true := by simpa using good
    have ontime : ¬within < took := Nat.not_lt.mpr intime
    simp only [outcome, Exchange.reply, if_neg ontime, bind, Except.bind, Reply.value?,
      if_neg noError, hvalue]

namespace Bounded

variable {σ α β : Type} {step : σ → Event Wire → σ → Prop} {s s' : σ} {log : List (Moment Wire σ)}
  {left rest : Nat}

/-- A passage of work that ends in some way, from the time it has to the time that is left. -/
def PassesIn (step : σ → Event Wire → σ → Prop) (left : Nat) (work : Bounded α) (s : σ)
    (log : List (Moment Wire σ)) (s' : σ) (outcome : Except Halt α) (rest : Nat) : Prop :=
  Procedure.Passes step ((work.run).run left) s log s' (outcome, rest)

section

variable {outcome : Except Halt α}

theorem passesIn_pure_iff {a : α} :
    PassesIn step left (pure a) s log s' outcome rest ↔
      log = [] ∧ s' = s ∧ outcome = .ok a ∧ rest = left := by
  refine Procedure.passes_done_iff.trans ?_
  simp only [Prod.mk.injEq]

theorem passesIn_throw_iff {halt : Halt} :
    PassesIn step left (throw halt : Bounded α) s log s' outcome rest ↔
      log = [] ∧ s' = s ∧ outcome = .error halt ∧ rest = left := by
  refine Procedure.passes_done_iff.trans ?_
  simp only [Prod.mk.injEq]

theorem passesIn_ask_iff {call : WireCall} {outcome : Except Halt call.Answer} :
    PassesIn step left (ask call) s log s' outcome rest ↔ ∃ answer,
      log = [⟨s, ⟨call, answer⟩⟩] ∧ step s ⟨call, answer⟩ s' ∧ outcome = .ok answer ∧
        rest = left := by
  constructor
  · intro h
    obtain ⟨answer, mid, later, rfl, hstep, hdone⟩ := Procedure.passes_ask_iff.mp h
    obtain ⟨rfl, rfl, heq⟩ := Procedure.passes_done_iff.mp hdone
    obtain ⟨rfl, rfl⟩ := Prod.mk.inj heq
    exact ⟨answer, rfl, hstep, rfl, rfl⟩
  · rintro ⟨answer, rfl, hstep, rfl, rfl⟩
    exact .ask hstep (.done _ _)

/-- A sequence ends with its first part, or goes on from the state and the time that it leaves. -/
theorem passesIn_bind_iff {work : Bounded α} {f : α → Bounded β} {outcome : Except Halt β} :
    PassesIn step left (work >>= f) s log s' outcome rest ↔
      (∃ halt, PassesIn step left work s log s' (.error halt) rest ∧ outcome = .error halt) ∨
      ∃ before a between mid after, log = before ++ after ∧
        PassesIn step left work s before mid (.ok a) between ∧
        PassesIn step between (f a) mid after s' outcome rest := by
  constructor
  · intro h
    obtain ⟨before, ⟨result, between⟩, mid, after, rfl, hw, hf⟩ := Procedure.passes_bind_iff.mp h
    cases result with
    | ok a => exact .inr ⟨before, a, between, mid, after, rfl, hw, hf⟩
    | error halt =>
      obtain ⟨rfl, rfl, heq⟩ := Procedure.passes_done_iff.mp hf
      obtain ⟨rfl, rfl⟩ := Prod.mk.inj heq
      exact .inl ⟨halt, by rwa [List.append_nil], rfl⟩
  · rintro (⟨halt, hw, rfl⟩ | ⟨before, a, between, mid, after, rfl, hw, hf⟩)
    · exact Procedure.passes_bind_iff.mpr
        ⟨log, (.error halt, rest), s', [], by rw [List.append_nil], hw, .done _ _⟩
    · exact Procedure.passes_bind_iff.mpr ⟨before, (.ok a, between), mid, after, rfl, hw, hf⟩

theorem passesIn_get_bind_iff {f : Nat → Bounded α} :
    PassesIn step left (get >>= f) s log s' outcome rest ↔
      PassesIn step left (f left) s log s' outcome rest := Iff.rfl

/-- Time can be spent if it is left. -/
theorem passesIn_spend {took : Nat} {outcome : Except Halt Unit}
    (h : PassesIn step left (spend took) s log s' outcome rest) : log = [] ∧ s' = s ∧
      (left < took ∧ outcome = .error .timeUp ∨
        ¬left < took ∧ outcome = .ok () ∧ rest = left - took) := by
  have h := passesIn_get_bind_iff.mp h
  split at h
  · next late =>
    rcases passesIn_bind_iff.mp h with ⟨halt, hthrow, rfl⟩ | ⟨_, _, _, _, _, _, hthrow, _⟩ <;>
      obtain ⟨rfl, rfl, heq, -⟩ := passesIn_throw_iff.mp hthrow <;> cases heq
    exact ⟨rfl, rfl, .inl ⟨late, rfl⟩⟩
  · next intime =>
    obtain ⟨rfl, rfl, heq⟩ := Procedure.passes_done_iff.mp h
    obtain ⟨rfl, rfl⟩ := Prod.mk.inj heq
    exact ⟨rfl, rfl, .inr ⟨intime, rfl, rfl⟩⟩

/-- What comes after some time is done if that time was left. -/
theorem passesIn_spend_bind {took : Nat} {work : Bounded α}
    (h : PassesIn step left (spend took >>= fun _ => work) s log s' outcome rest) :
    left < took ∧ log = [] ∧ s' = s ∧ outcome = .error .timeUp ∨
      ¬left < took ∧ PassesIn step (left - took) work s log s' outcome rest := by
  rcases passesIn_bind_iff.mp h with
    ⟨halt, hspend, rfl⟩ | ⟨_, _, _, _, _, rfl, hspend, hwork⟩ <;>
    obtain ⟨rfl, rfl, ⟨late, heq⟩ | ⟨intime, heq, rfl⟩⟩ := passesIn_spend hspend <;> cases heq
  · exact .inl ⟨late, rfl, rfl, rfl⟩
  · exact .inr ⟨intime, hwork⟩

/-- An exchange is one request, made with the time that is left. -/
theorem passesIn_exchange {r : Request} {outcome : Except Halt Reply}
    (h : PassesIn step left (exchange r) s log s' outcome rest) :
    ∃ answer : Exchange, log = [⟨s, ⟨.send r left, answer⟩⟩] ∧ step s ⟨.send r left, answer⟩ s' ∧
      outcome = answer.reply left := by
  rcases passesIn_bind_iff.mp (passesIn_get_bind_iff.mp h) with
    ⟨halt, hask, -⟩ | ⟨asking, answer, between, mid, after, rfl, hask, hrest⟩ <;>
    obtain ⟨_, rfl, hstep, heq, rfl⟩ := passesIn_ask_iff.mp hask <;> cases heq
  match answer with
  | .answered told took =>
    rcases passesIn_spend_bind hrest with ⟨late, rfl, rfl, rfl⟩ | ⟨intime, hpure⟩
    · exact ⟨_, rfl, hstep, by rw [Exchange.reply, if_pos late]⟩
    · obtain ⟨rfl, rfl, rfl, -⟩ := passesIn_pure_iff.mp hpure
      exact ⟨_, rfl, hstep, by rw [Exchange.reply, if_neg intime]⟩
  | .broken took =>
    rcases passesIn_spend_bind hrest with ⟨late, rfl, rfl, rfl⟩ | ⟨intime, hfail⟩
    · exact ⟨_, rfl, hstep, by rw [Exchange.reply, if_pos late]⟩
    · obtain ⟨rfl, rfl, rfl, -⟩ := passesIn_throw_iff.mp hfail
      exact ⟨_, rfl, hstep, by rw [Exchange.reply, if_neg intime]⟩
  | .late =>
    obtain ⟨rfl, rfl, rfl, -⟩ := passesIn_throw_iff.mp hrest
    exact ⟨_, rfl, hstep, rfl⟩

def settle : Except Halt α → Bounded α
  | .ok a => pure a
  | .error halt => throw halt

theorem passesIn_settle_iff {given : Except Halt α} :
    PassesIn step left (settle given) s log s' outcome rest ↔
      log = [] ∧ s' = s ∧ outcome = given ∧ rest = left := by
  cases given with
  | ok a => exact passesIn_pure_iff
  | error halt => exact passesIn_throw_iff

theorem request_eq (r : Request) (decode : Json → Option α) :
    request (some r) decode = exchange r >>= fun reply => settle (reply.value? decode) := by
  unfold request
  refine congrArg (exchange r >>= ·) (funext fun reply => ?_)
  unfold Reply.value?
  generalize (decide (400 ≤ reply.code) && decide (reply.code < 600)) = bad
  cases bad <;> cases reply.value.bind decode <;> rfl

/-- A request that is possible is made once, and nothing else passes on the wire. -/
theorem passesIn_request {r : Request} {decode : Json → Option α}
    (h : PassesIn step left (request (some r) decode) s log s' outcome rest) :
    ∃ answer : Exchange, log = [⟨s, ⟨.send r left, answer⟩⟩] ∧ step s ⟨.send r left, answer⟩ s' ∧
      outcome = answer.outcome decode left := by
  rw [request_eq] at h
  rcases passesIn_bind_iff.mp h with
    ⟨halt, hask, rfl⟩ | ⟨asking, reply, between, mid, after, rfl, hask, hread⟩ <;>
    obtain ⟨answer, rfl, hstep, hreply⟩ := passesIn_exchange hask
  · exact ⟨answer, rfl, hstep, by rw [Exchange.outcome, ← hreply]; rfl⟩
  · obtain ⟨rfl, rfl, rfl, -⟩ := passesIn_settle_iff.mp hread
    exact ⟨answer, rfl, hstep, by rw [Exchange.outcome, ← hreply]; rfl⟩

/-- What is told of work that ended in some way within its time. -/
def told (operation : String) (limit : Nat) : Except Halt α → Attempt α
  | .ok a => .ok a
  | .error (.failed e) => .error e
  | .error .timeUp =>
    let seconds := limit / 1000
    .error (.internal operation s!"timed out after {seconds}s")

theorem told_eq_ok_iff {operation : String} {limit : Nat} {a : α} :
    told operation limit outcome = .ok a ↔ outcome = .ok a := by
  rcases outcome with (_ | e) | b <;> simp [told]

theorem passes_within {operation : String} {limit : Nat} {work : Bounded α} {out : Attempt α × Nat}
    (h : Procedure.Passes step (within operation limit work) s log s' out) :
    ∃ outcome rest, PassesIn step limit work s log s' outcome rest ∧
      out.1 = told operation limit outcome ∧ out.2 ≤ limit := by
  obtain ⟨before, ⟨outcome, rest⟩, mid, after, rfl, hwork, hdone⟩ := Procedure.passes_bind_iff.mp h
  rcases outcome with (_ | e) | a <;>
    obtain ⟨rfl, rfl, rfl⟩ := Procedure.passes_done_iff.mp hdone <;> rw [List.append_nil]
  · exact ⟨_, rest, hwork, rfl, Nat.le_refl limit⟩
  · exact ⟨_, rest, hwork, rfl, Nat.sub_le limit rest⟩
  · exact ⟨_, rest, hwork, rfl, Nat.sub_le limit rest⟩

end
end Bounded
end PodNetwork.Kubernetes
