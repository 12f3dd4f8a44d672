import PodNetwork.Proofs.Procedure.Runs

/-! Runs of procedures through the states of the one who answers.

A run tells which calls are made and how they are answered. A passage tells, besides, the state in
which each call is made, and every answer takes the state on by one step. -/
namespace PodNetwork

namespace Procedure

/-- A call with its answer, and the state in which it is made. -/
structure Moment (I : Interface) (σ : Type) where
  state : σ
  event : Event I

variable {I : Interface} {σ α β : Type} {step : σ → Event I → σ → Prop} {s s' : σ}
  {log : List (Moment I σ)}

/-- A run of a procedure from one state to another. Every step may occur. -/
inductive Passes (step : σ → Event I → σ → Prop) :
    Procedure I α → σ → List (Moment I σ) → σ → α → Prop where
  | done (a : α) (s : σ) : Passes step (.done a) s [] s a
  | ask {c : I.Call} {next : I.Answer c → Procedure I α} {answer : I.Answer c} {s mid s' : σ}
      {log : List (Moment I σ)} {a : α} (first : step s ⟨c, answer⟩ mid)
      (rest : Passes step (next answer) mid log s' a) :
      Passes step (.ask c next) s (⟨s, ⟨c, answer⟩⟩ :: log) s' a

/-- A passage is one through any states that allow the same steps and more. -/
theorem Passes.mono {other : σ → Event I → σ → Prop} {p : Procedure I α} {a : α}
    (h : Passes step p s log s' a) (himp : ∀ t e t', step t e t' → other t e t') :
    Passes other p s log s' a := by
  induction h with
  | done a s => exact .done a s
  | ask first _ ih => exact .ask (himp _ _ _ first) ih

/-- The events of a passage make up a run. -/
theorem Passes.runs {p : Procedure I α} {a : α} (h : Passes step p s log s' a) :
    Runs p (log.map Moment.event) a := by
  induction h with
  | done a s => exact .done a
  | ask first rest ih => exact .ask ih

theorem passes_done_iff {a b : α} :
    Passes step (.done a) s log s' b ↔ log = [] ∧ s' = s ∧ b = a := by
  constructor
  · rintro ⟨⟩
    exact ⟨rfl, rfl, rfl⟩
  · rintro ⟨rfl, rfl, rfl⟩
    exact .done _ _

theorem passes_ask_iff {c : I.Call} {next : I.Answer c → Procedure I α} {a : α} :
    Passes step (.ask c next) s log s' a ↔
      ∃ answer mid rest, log = ⟨s, ⟨c, answer⟩⟩ :: rest ∧ step s ⟨c, answer⟩ mid ∧
        Passes step (next answer) mid rest s' a := by
  constructor
  · intro h
    cases h with
    | ask first rest => exact ⟨_, _, _, rfl, first, rest⟩
  · rintro ⟨answer, mid, rest, rfl, first, h⟩
    exact .ask first h

theorem passes_call_iff {c : I.Call} {a : I.Answer c} :
    Passes step (.call c) s log s' a ↔ log = [⟨s, ⟨c, a⟩⟩] ∧ step s ⟨c, a⟩ s' := by
  simp only [call, passes_ask_iff, passes_done_iff]
  constructor
  · rintro ⟨answer, mid, rest, rfl, first, rfl, rfl, rfl⟩
    exact ⟨rfl, first⟩
  · rintro ⟨rfl, first⟩
    exact ⟨a, s', [], rfl, first, rfl, rfl, rfl⟩

/-- A passage of a sequence goes through a state between its parts. -/
theorem passes_bind_iff {p : Procedure I α} {f : α → Procedure I β} {b : β} :
    Passes step (p.bind f) s log s' b ↔
      ∃ before a mid after, log = before ++ after ∧ Passes step p s before mid a ∧
        Passes step (f a) mid after s' b := by
  induction p generalizing s log with
  | done a =>
    constructor
    · intro h
      exact ⟨[], a, s, log, rfl, .done a s, h⟩
    · rintro ⟨before, a', mid, after, rfl, h, h'⟩
      obtain ⟨rfl, rfl, rfl⟩ := passes_done_iff.mp h
      exact h'
  | ask c next ih =>
    simp only [bind_ask, passes_ask_iff, ih]
    constructor
    · rintro ⟨answer, first, rest, rfl, hstep, before, a, mid, after, rfl, h, h'⟩
      exact ⟨⟨s, c, answer⟩ :: before, a, mid, after, rfl,
        ⟨answer, first, before, rfl, hstep, h⟩, h'⟩
    · rintro ⟨before, a, mid, after, rfl, ⟨answer, first, rest, rfl, hstep, h⟩, h'⟩
      exact ⟨answer, first, rest ++ after, rfl, hstep, rest, a, mid, after, rfl, h, h'⟩

/-- The passage through a world whose answers are fixed by its states. -/
def passage (answer : (c : I.Call) → σ → I.Answer c × σ) :
    Procedure I α → σ → List (Moment I σ) × σ × α
  | .done a, s => ([], s, a)
  | .ask c next, s =>
    let (log, s', a) := (next (answer c s).1).passage answer (answer c s).2
    (⟨s, ⟨c, (answer c s).1⟩⟩ :: log, s', a)

theorem passes_passage (answer : (c : I.Call) → σ → I.Answer c × σ) (p : Procedure I α) (s : σ) :
    Passes (fun s e s' => answer e.call s = (e.answer, s')) p s (p.passage answer s).1
      (p.passage answer s).2.1 (p.passage answer s).2.2 := by
  induction p generalizing s with
  | done a => exact .done a s
  | ask c next ih => exact .ask rfl (ih _ _)

end Procedure

namespace Routine

open Procedure (Event Moment)

variable {σ α β : Type} {step : σ → Event Site → σ → Prop} {s s' : σ}
  {log : List (Moment Site σ)}

/-- A passage of a routine, which ends with a result or an error. -/
abbrev Passes (step : σ → Event Site → σ → Prop) (routine : Routine α) (s : σ)
    (log : List (Moment Site σ)) (s' : σ) (result : Attempt α) : Prop :=
  Procedure.Passes step (ExceptT.run routine) s log s' result

theorem passes_pure_iff {a : α} {result : Attempt α} :
    Passes step (pure a) s log s' result ↔ log = [] ∧ s' = s ∧ result = .ok a :=
  Procedure.passes_done_iff

theorem passes_throw_iff {e : Error} {result : Attempt α} :
    Passes step (throw e) s log s' result ↔ log = [] ∧ s' = s ∧ result = .error e :=
  Procedure.passes_done_iff

theorem passes_bind_iff {x : Routine α} {f : α → Routine β} {result : Attempt β} :
    Passes step (x >>= f) s log s' result ↔
      (∃ e, Passes step x s log s' (.error e) ∧ result = .error e) ∨
      ∃ before a mid after, log = before ++ after ∧ Passes step x s before mid (.ok a) ∧
        Passes step (f a) mid after s' result := by
  refine Procedure.passes_bind_iff.trans ⟨?_, ?_⟩
  · rintro ⟨before, e | a, mid, after, rfl, h, h'⟩
    · obtain ⟨rfl, rfl, rfl⟩ := Procedure.passes_done_iff.mp h'
      exact .inl ⟨e, by rwa [List.append_nil], rfl⟩
    · exact .inr ⟨before, a, mid, after, rfl, h, h'⟩
  · rintro (⟨e, h, rfl⟩ | ⟨before, a, mid, after, rfl, h, h'⟩)
    · exact ⟨log, .error e, s', [], by simp, h, .done _ _⟩
    · exact ⟨before, .ok a, mid, after, rfl, h, h'⟩

theorem passes_mapError_iff {g : Error → Error} {x : Routine α} {result : Attempt α} :
    Passes step (x.mapError g) s log s' result ↔
      ∃ inner, Passes step x s log s' inner ∧ result = inner.mapError g := by
  refine Procedure.passes_bind_iff.trans ⟨?_, ?_⟩
  · rintro ⟨before, inner, mid, after, rfl, h, h'⟩
    obtain ⟨rfl, rfl, rfl⟩ := Procedure.passes_done_iff.mp h'
    exact ⟨inner, by rwa [List.append_nil], rfl⟩
  · rintro ⟨inner, h, rfl⟩
    exact ⟨log, inner, s', [], by simp, h, .done _ _⟩

theorem passes_mapError_ok_iff {g : Error → Error} {x : Routine α} {a : α} :
    Passes step (x.mapError g) s log s' (.ok a) ↔ Passes step x s log s' (.ok a) := by
  rw [passes_mapError_iff]
  constructor
  · rintro ⟨e | a', h, h'⟩
    · cases h'
    · cases h'
      exact h
  · exact fun h => ⟨.ok a, h, rfl⟩

/-- A question that cannot fail comes first in a passage of a sequence that begins with it. -/
theorem passes_question_bind_iff {c : SiteCall} {f : c.Answer → Routine β} {result : Attempt β} :
    Passes step (ask (.call (I := Site) c) >>= f) s log s' result ↔
      ∃ answer mid after, log = ⟨s, ⟨c, answer⟩⟩ :: after ∧ step s ⟨c, answer⟩ mid ∧
        Passes step (f answer) mid after s' result :=
  Procedure.passes_ask_iff

/-- A step whose outcome is looked at never ends a sequence. -/
theorem passes_outcome_bind_iff {x : Routine α} {f : Attempt α → Routine β} {result : Attempt β} :
    Passes step (x.outcome >>= f) s log s' result ↔
      ∃ before inner mid after, log = before ++ after ∧ Passes step x s before mid inner ∧
        Passes step (f inner) mid after s' result := by
  have told {t : σ} {some : List (Moment Site σ)} {t' : σ} {r : Attempt (Attempt α)} :
      Passes step x.outcome t some t' r ↔
        ∃ inner, Passes step x t some t' inner ∧ r = .ok inner := by
    refine Procedure.passes_bind_iff.trans ⟨?_, ?_⟩
    · rintro ⟨before, inner, mid, after, rfl, h, h'⟩
      obtain ⟨rfl, rfl, rfl⟩ := Procedure.passes_done_iff.mp h'
      exact ⟨inner, by rwa [List.append_nil], rfl⟩
    · rintro ⟨inner, h, rfl⟩
      exact ⟨some, inner, t', [], by simp, h, .done _ _⟩
  rw [passes_bind_iff]
  simp only [told]
  constructor
  · rintro (⟨e, ⟨inner, _, he⟩, _⟩ | ⟨before, kept, mid, after, rfl, ⟨inner, h, he⟩, h'⟩)
    · cases he
    · cases he
      exact ⟨before, kept, mid, after, rfl, h, h'⟩
  · rintro ⟨before, inner, mid, after, rfl, h, h'⟩
    exact .inr ⟨before, inner, mid, after, rfl, ⟨inner, h, rfl⟩, h'⟩

theorem passes_discard_outcome_bind_iff {x : Routine α} {f : Unit → Routine β}
    {result : Attempt β} :
    Passes step (discard x.outcome >>= f) s log s' result ↔
      ∃ before inner mid after, log = before ++ after ∧ Passes step x s before mid inner ∧
        Passes step (f ()) mid after s' result := by
  have same : discard x.outcome = (fun _ => ()) <$> x.outcome := rfl
  rw [same, map_eq_pure_bind, bind_assoc]
  simp only [pure_bind]
  exact passes_outcome_bind_iff

end Routine
end PodNetwork
