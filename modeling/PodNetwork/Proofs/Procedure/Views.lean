import PodNetwork.Proofs.Procedure.Runs

/-! What a procedure depends on of the answers that it gets.

A view keeps of every answer what counts. A procedure that sees its answers through a view ends in
the same way in any two runs in which the views of the answers agree, however the answers differ
apart from that. -/
namespace PodNetwork

namespace Procedure

variable {I : Interface} {α β : Type} {view : (c : I.Call) → I.Answer c → I.Answer c}

/-- A procedure that goes on after an answer as it does after what a view keeps of it. -/
def SeesOnly (view : (c : I.Call) → I.Answer c → I.Answer c) : Procedure I α → Prop
  | .done _ => True
  | .ask c next => ∀ answer, next answer = next (view c answer) ∧ (next answer).SeesOnly view

theorem SeesOnly.bind {p : Procedure I α} {f : α → Procedure I β} (hp : p.SeesOnly view)
    (hf : ∀ a, (f a).SeesOnly view) : (p.bind f).SeesOnly view := by
  induction p with
  | done a => exact hf a
  | ask c next ih =>
    exact fun answer => ⟨congrArg (Procedure.bind · f) (hp answer).1, ih answer (hp answer).2⟩

/-- Whether a view keeps the same of the answers that a call got among some events and among
others. -/
def AgreeOn (view : (c : I.Call) → I.Answer c → I.Answer c) (events others : List (Event I)) :
    Prop :=
  ∀ (c : I.Call) (answer other : I.Answer c),
    ⟨c, answer⟩ ∈ events → ⟨c, other⟩ ∈ others → view c answer = view c other

theorem AgreeOn.mono {events others more moreOthers : List (Event I)}
    (h : AgreeOn view more moreOthers) (he : events ⊆ more) (ho : others ⊆ moreOthers) :
    AgreeOn view events others :=
  fun c answer other ha hb => h c answer other (he ha) (ho hb)

/-- Runs of one procedure that agree on what it sees end in the same way. -/
theorem Runs.eq_of_agreeOn {p : Procedure I α} {events others : List (Event I)} {a b : α}
    (h : Runs p events a) (h' : Runs p others b) (hp : p.SeesOnly view)
    (agree : AgreeOn view events others) : a = b := by
  induction h generalizing others with
  | done a => exact (runs_done_iff.mp h').2.symm
  | @ask c next answer events a rest ih =>
    obtain ⟨other, others, rfl, rest'⟩ := runs_ask_iff.mp h'
    have seen : view c answer = view c other :=
      agree c answer other List.mem_cons_self List.mem_cons_self
    have same : next answer = next other := by
      rw [(hp answer).1, seen, ← (hp other).1]
    refine ih (same ▸ rest') (hp answer).2 ?_
    exact agree.mono (List.subset_cons_self _ _) (List.subset_cons_self _ _)

/-- A run cannot go on where another one of the same procedure ends. -/
theorem Runs.eq_of_append_eq {p : Procedure I α} {events others more moreOthers : List (Event I)}
    {a b : α} (h : Runs p events a) (h' : Runs p others b)
    (same : events ++ more = others ++ moreOthers) :
    events = others ∧ more = moreOthers ∧ a = b := by
  induction h generalizing others with
  | done a =>
    obtain ⟨rfl, rfl⟩ := runs_done_iff.mp h'
    exact ⟨rfl, same, rfl⟩
  | ask rest ih =>
    obtain ⟨answer, others, rfl, rest'⟩ := runs_ask_iff.mp h'
    obtain ⟨hevent, hlater⟩ := List.cons.inj same
    cases hevent
    obtain ⟨rfl, rfl, rfl⟩ := ih rest' hlater
    exact ⟨rfl, rfl, rfl⟩

end Procedure

namespace Routine

variable {α β : Type} {view : (c : SiteCall) → c.Answer → c.Answer}

/-- A routine that sees its answers through a view. -/
abbrev SeesOnly (view : (c : SiteCall) → c.Answer → c.Answer) (routine : Routine α) : Prop :=
  Procedure.SeesOnly (I := Site) view (ExceptT.run routine)

theorem seesOnly_pure {a : α} : SeesOnly view (pure a) := trivial

theorem SeesOnly.bind {x : Routine α} {f : α → Routine β} (hx : SeesOnly view x)
    (hf : ∀ a, SeesOnly view (f a)) : SeesOnly view (x >>= f) :=
  Procedure.SeesOnly.bind hx fun
    | .ok a => hf a
    | .error _ => trivial

theorem SeesOnly.outcome {x : Routine α} (hx : SeesOnly view x) : SeesOnly view x.outcome :=
  Procedure.SeesOnly.bind hx fun _ => trivial

theorem SeesOnly.map {x : Routine α} (hx : SeesOnly view x) (g : α → β) :
    SeesOnly view (g <$> x) := by
  rw [map_eq_pure_bind]
  exact hx.bind fun _ => seesOnly_pure

end Routine
end PodNetwork
