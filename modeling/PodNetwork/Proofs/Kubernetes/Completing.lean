import Mathlib.Data.List.TakeWhile
import PodNetwork.Proofs.Kubernetes.Outcomes

/-! What has passed on the wire when work has come to its end.

Work that is done in time and without an error has had a good reply to every request it made. -/
namespace PodNetwork.Kubernetes

open Procedure (Event Moment)

namespace Bounded

variable {σ α β : Type} {step : σ → Event Wire → σ → Prop} {s s' : σ} {log : List (Moment Wire σ)}
  {left rest : Nat} {a : α} {b : β}

/-- A passage of work that comes to its end, from the time it has to the time that is left. -/
def CompletesIn (step : σ → Event Wire → σ → Prop) (left : Nat) (work : Bounded α) (s : σ)
    (log : List (Moment Wire σ)) (s' : σ) (a : α) (rest : Nat) : Prop :=
  Procedure.Passes step ((work.run).run left) s log s' (.ok a, rest)

/-- A passage of work that comes to its end, in whatever time. -/
def Completes (step : σ → Event Wire → σ → Prop) (work : Bounded α) (s : σ)
    (log : List (Moment Wire σ)) (s' : σ) (a : α) : Prop :=
  ∃ left rest, CompletesIn step left work s log s' a rest

theorem Completes.pure {x : α} (h : Completes step (Pure.pure x) s log s' a) :
    log = [] ∧ s' = s ∧ a = x := by
  obtain ⟨_, _, h⟩ := h
  obtain ⟨hlog, hs, heq, -⟩ := passesIn_pure_iff.mp h
  exact ⟨hlog, hs, Except.ok.inj heq⟩

theorem Completes.bind {work : Bounded α} {f : α → Bounded β}
    (h : Completes step (work >>= f) s log s' b) :
    ∃ before a mid after, log = before ++ after ∧ Completes step work s before mid a ∧
      Completes step (f a) mid after s' b := by
  obtain ⟨_, _, h⟩ := h
  rcases passesIn_bind_iff.mp h with ⟨halt, -, heq⟩ | ⟨before, a, _, mid, after, rfl, hw, hf⟩
  · cases heq
  · exact ⟨before, a, mid, after, rfl, ⟨_, _, hw⟩, ⟨_, _, hf⟩⟩

/-- A request that comes to its end was possible, and its reply tells of no error and has the right
form. -/
theorem Completes.request {r : Option Request} {decode : Json → Option α}
    (h : Completes step (request r decode) s log s' a) :
    ∃ sent within took reply, r = some sent ∧
      log = [⟨s, ⟨.send sent within, .answered reply took⟩⟩] ∧
      step s ⟨.send sent within, .answered reply took⟩ s' ∧
      ¬(400 ≤ reply.code ∧ reply.code < 600) ∧ reply.value.bind decode = some a := by
  obtain ⟨left, _, h⟩ := h
  cases r with
  | none =>
    obtain ⟨-, -, heq, -⟩ := passesIn_throw_iff.mp h
    cases heq
  | some sent =>
    obtain ⟨answer, rfl, hstep, houtcome⟩ := passesIn_request h
    obtain ⟨reply, took, rfl, -, hcode, hvalue⟩ := Exchange.outcome_eq_ok_iff.mp houtcome.symm
    exact ⟨sent, left, took, reply, rfl, rfl, hstep, hcode, hvalue⟩

end Bounded

/-- A call of a client that succeeds leaves the client as it is. -/
theorem Client.completes_of_perform {σ α : Type} {step : σ → Event Wire → σ → Prop} {s s' : σ}
    {log : List (Moment Wire σ)} {client client' : Client} {operation : String}
    {work : Bounded α} {a : α}
    (h : Procedure.Passes step (client.perform operation work) s log s' (.ok a, client')) :
    client' = client ∧ Bounded.Completes step work s log s' a := by
  obtain ⟨before, ⟨result, took⟩, mid, after, rfl, hw, hd⟩ := Procedure.passes_bind_iff.mp h
  obtain ⟨rfl, rfl, heq⟩ := Procedure.passes_done_iff.mp hd
  cases heq
  obtain ⟨outcome, rest, hwork, htold, -⟩ := Bounded.passes_within hw
  obtain rfl := Bounded.told_eq_ok_iff.mp htold.symm
  rw [List.append_nil]
  exact ⟨rfl, _, _, hwork⟩

/-- A text that is no path of its own in a request: it has no mark at which a path ends. -/
def IsPlain (s : String) : Prop := '?' ∉ s.toList ∧ '#' ∉ s.toList

instance (s : String) : Decidable (IsPlain s) := inferInstanceAs (Decidable (_ ∧ _))

theorem Request.eq_of_cut? {path : String} {tail : List Char} (plain : IsPlain path)
    (hhash : tail.takeWhile (· != '#') = tail) (hmark : tail.takeWhile (· != '?') = []) {p : String}
    {query : List (String × String)}
    (h : Request.cut? (path.toList ++ tail) = some (p, query)) :
    p = path ∧ query = Text.Query.pairs (tail.drop 1) := by
  have noHash : ∀ c ∈ path.toList, (c != '#') = true := fun c hc =>
    bne_iff_ne.mpr fun heq => plain.2 (heq ▸ hc)
  have noMark : ∀ c ∈ path.toList, (c != '?') = true := fun c hc =>
    bne_iff_ne.mpr fun heq => plain.1 (heq ▸ hc)
  have whole : (path.toList ++ tail).takeWhile (· != '#') = path.toList ++ tail := by
    rw [List.takeWhile_append_of_pos noHash, hhash]
  have lead : (path.toList ++ tail).takeWhile (· != '?') = path.toList := by
    rw [List.takeWhile_append_of_pos noMark, hmark, List.append_nil]
  have rest : (path.toList ++ tail).drop (path.toList.length + 1) = tail.drop 1 :=
    List.drop_length_add_append ..
  simp only [Request.cut?, whole, lead, rest, String.ofList_toList] at h
  split at h
  · obtain ⟨rfl, rfl⟩ := Prod.mk.inj (Option.some.inj h)
    exact ⟨rfl, rfl⟩
  · cases h

/-- A request at a plain path is what it looks like. -/
theorem Request.eq_of_at? {method : Method} {path : String}
    {query : Option (List (String × String))} {payload : Option Payload} {r : Request}
    (plain : IsPlain path) (hquery : ∀ pairs ∈ query, '#' ∉ Text.Query.ofPairs pairs)
    (h : Request.at? method path query payload = some r) :
    r = ⟨method, path, Text.Query.pairs ((query.map Text.Query.ofPairs).getD []), payload⟩ := by
  obtain ⟨tail, hhash, hmark, hrest, unfolded⟩ : ∃ tail : List Char,
      tail.takeWhile (· != '#') = tail ∧ tail.takeWhile (· != '?') = [] ∧
      tail.drop 1 = (query.map Text.Query.ofPairs).getD [] ∧
      Request.at? method path query payload =
        if Request.targetLimit < (String.ofList (path.toList ++ tail)).utf8ByteSize then none
        else (Request.cut? (path.toList ++ tail)).bind fun c =>
          some ⟨method, c.1, c.2, payload⟩ := by
    cases query with
    | none => exact ⟨[], rfl, rfl, rfl, rfl⟩
    | some pairs =>
      have clean : '#' ∉ '?' :: Text.Query.ofPairs pairs := by
        rw [List.mem_cons, not_or]
        exact ⟨by decide, hquery pairs rfl⟩
      refine ⟨'?' :: Text.Query.ofPairs pairs, ?_, rfl, rfl, rfl⟩
      exact List.takeWhile_eq_self_iff.mpr fun c hc => bne_iff_ne.mpr fun heq => clean (heq ▸ hc)
  rw [unfolded] at h
  split at h
  · cases h
  · obtain ⟨⟨p, _⟩, hcut, hr⟩ := Option.bind_eq_some_iff.mp h
    obtain ⟨rfl, rfl⟩ := Request.eq_of_cut? plain hhash hmark hcut
    rw [← hrest]
    exact (Option.some.inj hr).symm

/-- The request for an object of a name at a plain path. -/
theorem Client.eq_of_named? {resource : Resource} {ns : Option String} {name : String}
    {method : Method} {query : Option (List (String × String))} {payload : Option Payload}
    {r : Request} (plain : IsPlain (resource.path ns ++ "/" ++ name))
    (hquery : query = none ∨ query = some [])
    (h : Client.named? resource ns name method query payload = some r) :
    r = ⟨method, resource.path ns ++ "/" ++ name, [], payload⟩ := by
  obtain ⟨-, h⟩ := Option.ite_none_left_eq_some.mp h
  rcases hquery with rfl | rfl
  · exact Request.eq_of_at? plain (fun _ h => by cases h) h
  · have clean : ∀ pairs ∈ some ([] : List (String × String)), '#' ∉ Text.Query.ofPairs pairs := by
      rintro _ ⟨⟩
      decide
    exact Request.eq_of_at? plain clean h

end PodNetwork.Kubernetes
