import PodNetwork.Site

/-! Runs of procedures in worlds where nothing goes wrong.

A world keeps a record of what has gone wrong in it, so a state that is fine was reached through
states that are fine. What a part of a procedure yields in such a run may then be used for what
follows the part. -/
namespace PodNetwork

/-- A world that answers calls, and the states of it in which nothing has gone wrong so far. -/
structure World (I : Interface) (σ : Type) where
  answer : (c : I.Call) → σ → I.Answer c × σ
  fine : σ → Prop
  fine_of_answer : ∀ c s, fine (answer c s).2 → fine s

namespace World

variable {I : Interface} {σ α β : Type} (world : World I σ) {s : σ}

/-- What comes of a procedure that is run in a world, if nothing goes wrong. -/
def Yields (p : Procedure I α) (s : σ) (post : α → σ → Prop) : Prop :=
  world.fine (p.run world.answer s).2 → post (p.run world.answer s).1 (p.run world.answer s).2

variable {world} {p : Procedure I α} {post mid : α → σ → Prop}

theorem fine_of_run (p : Procedure I α) (s : σ) (h : world.fine (p.run world.answer s).2) :
    world.fine s := by
  induction p generalizing s with
  | done a => exact h
  | ask c next ih => exact world.fine_of_answer c s (ih _ _ h)

/-- A world in which no answer goes wrong is fine after every run. -/
theorem fine_run (sound : ∀ c s, world.fine s → world.fine (world.answer c s).2)
    (p : Procedure I α) (s : σ) (h : world.fine s) : world.fine (p.run world.answer s).2 := by
  induction p generalizing s with
  | done a => exact h
  | ask c next ih => exact ih _ _ (sound c s h)

theorem yields_done {a : α} (h : post a s) : world.Yields (.done a) s post := fun _ => h

theorem Yields.bind {f : α → Procedure I β} {post : β → σ → Prop} (hp : world.Yields p s mid)
    (hf : ∀ a s', mid a s' → world.Yields (f a) s' post) : world.Yields (p.bind f) s post := by
  intro h
  rw [Procedure.run_bind] at h ⊢
  have before : world.fine (p.run world.answer s).2 := fine_of_run _ _ h
  exact hf _ _ (hp before) h

theorem Yields.mono (hp : world.Yields p s mid) (h : ∀ a s', mid a s' → post a s') :
    world.Yields p s post := fun hfine => h _ _ (hp hfine)

end World

namespace Routine

variable {σ α β : Type} (world : World Site σ) {s : σ}

/-- What a routine ends with in a world, if nothing goes wrong there: a value and no error. -/
def Fulfils (routine : Routine α) (s : σ) (post : α → σ → Prop) : Prop :=
  world.Yields (ExceptT.run routine) s fun out s' => ∃ a, out = .ok a ∧ post a s'

variable {world} {routine : Routine α} {post mid : α → σ → Prop}

theorem fulfils_pure {a : α} (h : post a s) : Fulfils world (pure a) s post :=
  World.yields_done ⟨a, rfl, h⟩

theorem Fulfils.bind {f : α → Routine β} {post : β → σ → Prop}
    (h : Fulfils world routine s mid) (hf : ∀ a s', mid a s' → Fulfils world (f a) s' post) :
    Fulfils world (routine >>= f) s post := by
  refine World.Yields.bind h ?_
  rintro _ s' ⟨a, rfl, hm⟩
  exact hf a s' hm

theorem Fulfils.mono (h : Fulfils world routine s mid) (hpost : ∀ a s', mid a s' → post a s') :
    Fulfils world routine s post :=
  World.Yields.mono h fun _ s' ⟨a, ha, hm⟩ => ⟨a, ha, hpost a s' hm⟩

theorem Fulfils.mapError (h : Fulfils world routine s post) (f : Error → Error) :
    Fulfils world (routine.mapError f) s post := by
  refine World.Yields.bind h ?_
  rintro _ s' ⟨a, rfl, hpost⟩
  exact World.yields_done ⟨a, rfl, hpost⟩

theorem fulfils_ask {p : Procedure Site α} (h : world.Yields p s post) :
    Fulfils world (ask p) s post :=
  World.Yields.bind h fun a _ hpost => World.yields_done ⟨a, rfl, hpost⟩

/-- A routine whose failure does not matter. -/
theorem fulfils_discard_outcome {post : Unit → σ → Prop}
    (h : world.Yields (ExceptT.run routine) s fun _ s' => post () s') :
    Fulfils world (discard routine.outcome) s post := by
  have told : Fulfils world routine.outcome s fun _ s' => post () s' := fulfils_ask h
  have same : discard routine.outcome = (fun _ => ()) <$> routine.outcome := rfl
  rw [same, map_eq_pure_bind]
  exact told.bind fun _ _ hpost => fulfils_pure hpost

end Routine
end PodNetwork
