import Mathlib.Data.List.Forall2
import PodNetwork.Engine.Program
import PodNetwork.Proofs.Procedure.Runs

/-! Routines whose engine is driven through its program.

Every request of the engine is carried out by one command of the host, and all other requests are
passed on as they are. So a run of a driven routine is a run of the routine itself, event for
event. -/
namespace PodNetwork.EngineName

open Procedure (Event)

/-- Whether an event of a site carries out one of a routine that is driven there. -/
inductive Carries (engine : EngineName) : Event Site → Event Site → Prop where
  | build (options : BuildOptions) (answer : Attempt Unit) :
    Carries engine ⟨.engine (.build options), answer⟩
      ⟨.host (.run engine.binary options.arguments), answer⟩
  | tag (source target : String) (answer : Attempt CommandOutput) :
    Carries engine ⟨.engine (.tag source target), answer.map fun _ => ()⟩
      ⟨.host (.execute engine.binary ["tag", source, target]), answer⟩
  | push (image : String) (insecure : Bool) (answer : Attempt Unit) :
    Carries engine ⟨.engine (.push image insecure), answer⟩
      ⟨.host (.run engine.binary (engine.pushArguments image insecure)), answer⟩
  | lookUp (image : String) (answer : Attempt CommandOutput) :
    Carries engine ⟨.engine (.imageExists image), answer.isOk⟩
      ⟨.host (.executeWithin inspectTimeout engine.binary ["image", "inspect", image]), answer⟩
  | other {call : SiteCall} (other : ∀ request, call ≠ .engine request) (answer : call.Answer) :
    Carries engine ⟨call, answer⟩ ⟨call, answer⟩

variable {engine : EngineName} {α : Type} {events : List (Event Site)}

/-- Of a tag only the output of the command is dropped. -/
theorem runs_tag_iff {source target : String} {answer : Attempt Unit} :
    Procedure.Runs (engine.perform (.tag source target)) events answer ↔
      ∃ output : Attempt CommandOutput,
        events = [⟨.host (.execute engine.binary ["tag", source, target]), output⟩] ∧
          answer = output.map fun _ => () := by
  refine Procedure.runs_ask_iff.trans ⟨?_, ?_⟩
  · rintro ⟨output, rest, rfl, h⟩
    cases output with
    | error e | ok output =>
      obtain ⟨rfl, rfl⟩ := Procedure.runs_done_iff.mp h
      exact ⟨_, rfl, rfl⟩
  · rintro ⟨output, rfl, rfl⟩
    cases output with
    | error e | ok output => exact ⟨_, [], rfl, .done _⟩

theorem runs_perform_iff {request : EngineCall} {answer : request.Answer} :
    Procedure.Runs (engine.perform request) events answer ↔
      ∃ e, events = [e] ∧ engine.Carries ⟨.engine request, answer⟩ e := by
  cases request with
  | build options =>
    refine Procedure.runs_call_iff.trans ⟨fun h => ⟨_, h, .build options answer⟩, ?_⟩
    rintro ⟨e, rfl, carried⟩
    cases carried with
    | build => rfl
    | other other => exact absurd rfl (other _)
  | push image insecure =>
    refine Procedure.runs_call_iff.trans ⟨fun h => ⟨_, h, .push image insecure answer⟩, ?_⟩
    rintro ⟨e, rfl, carried⟩
    cases carried with
    | push => rfl
    | other other => exact absurd rfl (other _)
  | tag source target =>
    refine runs_tag_iff.trans ⟨?_, ?_⟩
    · rintro ⟨output, rfl, rfl⟩
      exact ⟨_, rfl, .tag source target output⟩
    · rintro ⟨e, rfl, carried⟩
      cases carried with
      | tag _ _ output => exact ⟨output, rfl, rfl⟩
      | other other => exact absurd rfl (other _)
  | imageExists image =>
    refine Procedure.runs_bind_iff.trans ⟨?_, ?_⟩
    · rintro ⟨before, output, after, rfl, h, h'⟩
      obtain ⟨rfl, rfl⟩ := Procedure.runs_done_iff.mp h'
      rw [List.append_nil]
      exact ⟨_, Procedure.runs_call_iff.mp h, .lookUp image output⟩
    · rintro ⟨e, rfl, carried⟩
      cases carried with
      | lookUp _ output =>
        exact ⟨_, output, [], rfl, Procedure.runs_call_iff.mpr rfl, .done _⟩
      | other other => exact absurd rfl (other _)

/-- A request is carried out by one event. -/
theorem runs_answer_iff {call : SiteCall} {answer : call.Answer} :
    Procedure.Runs (engine.answer call) events answer ↔
      ∃ e, events = [e] ∧ engine.Carries ⟨call, answer⟩ e := by
  by_cases h : ∃ request, call = .engine request
  · obtain ⟨request, rfl⟩ := h
    exact runs_perform_iff
  · have other : ∀ request, call ≠ .engine request := fun request same => h ⟨request, same⟩
    have passed : engine.answer call = .call (I := Site) call := by
      cases call with
      | engine request => exact absurd rfl (other request)
      | _ => rfl
    rw [passed]
    refine Procedure.runs_call_iff.trans ⟨fun h => ⟨_, h, .other other answer⟩, ?_⟩
    rintro ⟨e, rfl, carried⟩
    cases carried with
    | other => rfl
    | _ => exact absurd rfl (other _)

/-- A driven routine runs as the routine does. -/
theorem runs_drive_iff {routine : Routine α} {result : Attempt α} :
    Routine.Runs (engine.drive routine) events result ↔
      ∃ inner, Routine.Runs routine inner result ∧ List.Forall₂ engine.Carries inner events := by
  have expanded (p : Procedure Site (Attempt α)) (events : List (Event Site)) :
      Procedure.Runs (p.expand engine.answer) events result ↔
        ∃ inner, Procedure.Runs p inner result ∧ List.Forall₂ engine.Carries inner events := by
    induction p generalizing events with
    | done value =>
      simp only [Procedure.expand, Procedure.runs_done_iff]
      constructor
      · rintro ⟨rfl, rfl⟩
        exact ⟨[], ⟨rfl, rfl⟩, .nil⟩
      · rintro ⟨_, ⟨rfl, rfl⟩, carried⟩
        exact ⟨List.forall₂_nil_left_iff.mp carried, rfl⟩
    | ask call next ih =>
      refine Procedure.runs_bind_iff.trans ⟨?_, ?_⟩
      · rintro ⟨_, answer, after, rfl, first, rest⟩
        obtain ⟨e, rfl, carried⟩ := runs_answer_iff.mp first
        obtain ⟨inner, rest, later⟩ := (ih answer after).mp rest
        exact ⟨_, .ask rest, .cons carried later⟩
      · rintro ⟨_, asked, carried⟩
        obtain ⟨answer, inner, rfl, rest⟩ := Procedure.runs_ask_iff.mp asked
        obtain ⟨e, after, first, later, rfl⟩ := List.forall₂_cons_left_iff.mp carried
        exact ⟨[e], answer, after, rfl, runs_answer_iff.mpr ⟨e, rfl, first⟩,
          (ih answer after).mpr ⟨inner, rest, later⟩⟩
  exact expanded routine.run events

end PodNetwork.EngineName
