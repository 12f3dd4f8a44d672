import PodNetwork.Kubernetes.Client
import PodNetwork.Proofs.Procedure.Runs
import PodNetwork.Proofs.Procedure.Worlds

/-! Work within a limited time that comes to its end.

Work fails when a request does, and when its time is up. If every reply comes in the time that is
left when the request is made, time is never up, whatever the limit was. -/
namespace PodNetwork.Kubernetes.Bounded

variable {σ α β : Type} (world : World Wire σ)

/-- What work comes to that has some time left, if nothing goes wrong on the wire: a value and
what is left of the time. -/
def AchievesIn (left : Nat) (work : Bounded α) (s : σ) (post : α → Nat → σ → Prop) : Prop :=
  world.Yields ((work.run).run left) s fun out s' => ∃ a, out.1 = .ok a ∧ post a out.2 s'

/-- What work comes to whatever the time left is. -/
def Achieves (work : Bounded α) (s : σ) (post : α → σ → Prop) : Prop :=
  ∀ left, AchievesIn world left work s fun a _ => post a

variable {world} {s : σ} {left : Nat} {work : Bounded α}

theorem achievesIn_pure {a : α} {post : α → Nat → σ → Prop} (h : post a left s) :
    AchievesIn world left (pure a) s post := World.yields_done ⟨a, rfl, h⟩

theorem AchievesIn.bind {f : α → Bounded β} {mid : α → Nat → σ → Prop}
    {post : β → Nat → σ → Prop} (h : AchievesIn world left work s mid)
    (hf : ∀ a left' s', mid a left' s' → AchievesIn world left' (f a) s' post) :
    AchievesIn world left (work >>= f) s post := by
  refine World.Yields.bind h ?_
  rintro ⟨result, left'⟩ s' ⟨a, rfl, hm⟩
  exact hf a left' s' hm

theorem achievesIn_get_bind {f : Nat → Bounded β} {post : β → Nat → σ → Prop}
    (h : AchievesIn world left (f left) s post) : AchievesIn world left (get >>= f) s post := h

theorem achievesIn_set {rest : Nat} {post : PUnit → Nat → σ → Prop} (h : post ⟨⟩ rest s) :
    AchievesIn world left (set rest) s post := World.yields_done ⟨⟨⟩, rfl, h⟩

theorem achievesIn_ask {call : WireCall} {post : call.Answer → Nat → σ → Prop}
    (h : world.fine (world.answer call s).2 →
      post (world.answer call s).1 left (world.answer call s).2) :
    AchievesIn world left (ask call) s post := fun hfine => ⟨_, rfl, h hfine⟩

/-- Time that is left can be spent. -/
theorem achievesIn_spend {took : Nat} {post : Unit → Nat → σ → Prop} (htook : took ≤ left)
    (h : post () (left - took) s) : AchievesIn world left (spend took) s post := by
  refine achievesIn_get_bind ?_
  rw [if_neg (by omega)]
  exact achievesIn_set h

/-- The reply to a request that is answered in time. -/
theorem achieves_exchange {r : Request} {post : Reply → σ → Prop}
    (h : ∀ within, world.fine (world.answer (.send r within) s).2 →
      ∃ reply took, (world.answer (.send r within) s).1 = .answered reply took ∧ took ≤ within ∧
        post reply (world.answer (.send r within) s).2) :
    Achieves world (exchange r) s post := by
  intro left
  refine achievesIn_get_bind ?_
  have asked : AchievesIn world left (ask (.send r left)) s fun answer left' s' =>
      left' = left ∧ ∃ reply took, answer = .answered reply took ∧ took ≤ left ∧ post reply s' :=
    achievesIn_ask fun hfine => ⟨rfl, h left hfine⟩
  refine AchievesIn.bind asked ?_
  rintro _ left' s' ⟨rfl, reply, took, rfl, htook, hpost⟩
  have spent : AchievesIn world left' (spend took) s' fun _ _ => post reply :=
    achievesIn_spend htook hpost
  exact AchievesIn.bind spent fun _ _ _ hpost => achievesIn_pure hpost

section Untimed

variable {post mid : α → σ → Prop}

theorem achieves_pure {a : α} (h : post a s) : Achieves world (pure a) s post :=
  fun _ => achievesIn_pure h

theorem Achieves.bind {f : α → Bounded β} {post : β → σ → Prop} (h : Achieves world work s mid)
    (hf : ∀ a s', mid a s' → Achieves world (f a) s' post) :
    Achieves world (work >>= f) s post :=
  fun left => AchievesIn.bind (h left) fun a left' s' hm => hf a s' hm left'

theorem Achieves.mono (h : Achieves world work s mid) (hpost : ∀ a s', mid a s' → post a s') :
    Achieves world work s post :=
  fun left => World.Yields.mono (h left) fun _ s' ⟨a, ha, hm⟩ => ⟨a, ha, hpost a s' hm⟩

/-- Work that comes to its end is not done a second time. -/
theorem Achieves.tryCatch {handler : Halt → Bounded α} (h : Achieves world work s post) :
    Achieves world (tryCatch work handler) s post := by
  intro left
  refine World.Yields.bind (h left) ?_
  rintro ⟨result, left'⟩ s' ⟨a, rfl, hm⟩
  exact World.yields_done ⟨a, rfl, hm⟩

/-- A request whose reply comes in time, tells of no error and has the right form. -/
theorem achieves_request {r : Request} {decode : Json → Option α}
    (h : ∀ within, world.fine (world.answer (.send r within) s).2 →
      ∃ reply took a, (world.answer (.send r within) s).1 = .answered reply took ∧
        took ≤ within ∧ ¬(400 ≤ reply.code ∧ reply.code < 600) ∧
        reply.value.bind decode = some a ∧ post a (world.answer (.send r within) s).2) :
    Achieves world (request (some r) decode) s post := by
  have replied : Achieves world (exchange r) s fun reply s' =>
      ¬(400 ≤ reply.code ∧ reply.code < 600) ∧
        ∃ a, reply.value.bind decode = some a ∧ post a s' := by
    refine achieves_exchange fun within hfine => ?_
    obtain ⟨reply, took, a, hreply, htook, hcode, hvalue, hpost⟩ := h within hfine
    exact ⟨reply, took, hreply, htook, hcode, a, hvalue, hpost⟩
  refine Achieves.bind replied ?_
  intro reply s' ⟨hcode, a, hvalue, hpost⟩
  rw [if_neg (by simpa using hcode), hvalue]
  exact achieves_pure hpost

/-- Work on one item after the other, in states of which something holds all the time. -/
theorem achieves_mapM {γ : Type} {f : γ → Bounded α} {inv : σ → Prop} {good : γ → α → Prop}
    {items : List γ} (h : inv s) (step : ∀ item ∈ items, ∀ s, inv s →
      Achieves world (f item) s fun a s' => inv s' ∧ good item a) :
    Achieves world (items.mapM f) s fun as s' => inv s' ∧
      (∀ item ∈ items, ∃ a ∈ as, good item a) ∧ ∀ a ∈ as, ∃ item ∈ items, good item a := by
  induction items generalizing s with
  | nil =>
    rw [List.mapM_nil]
    exact achieves_pure ⟨h, by simp, by simp⟩
  | cons item rest ih =>
    rw [List.mapM_cons]
    refine Achieves.bind (step item List.mem_cons_self s h) ?_
    intro a s₁ ⟨h₁, ha⟩
    refine Achieves.bind (ih h₁ fun i hi => step i (List.mem_cons_of_mem _ hi)) ?_
    intro as s₂ ⟨h₂, hsome, hall⟩
    refine achieves_pure ⟨h₂, ?_, ?_⟩
    · refine List.forall_mem_cons.mpr ⟨⟨a, List.mem_cons_self, ha⟩, fun i hi => ?_⟩
      obtain ⟨b, hb, hgood⟩ := hsome i hi
      exact ⟨b, List.mem_cons_of_mem _ hb, hgood⟩
    · refine List.forall_mem_cons.mpr ⟨⟨item, List.mem_cons_self, ha⟩, fun b hb => ?_⟩
      obtain ⟨i, hi, hgood⟩ := hall b hb
      exact ⟨i, List.mem_cons_of_mem _ hi, hgood⟩

end Untimed

/-- Work that is given all the time it may take. -/
theorem AchievesIn.within {limit : Nat} {post : α → σ → Prop}
    (h : AchievesIn world limit work s fun a _ => post a) (operation : String) :
    world.Yields (within operation limit work) s fun out s' =>
      ∃ a, out.1 = .ok a ∧ out.2 ≤ limit ∧ post a s' := by
  refine World.Yields.bind h ?_
  rintro ⟨result, left⟩ s' ⟨a, rfl, hpost⟩
  exact World.yields_done ⟨a, rfl, Nat.sub_le limit left, hpost⟩

/-- Work whose calls all belong to a class, whatever time is left. -/
def Only (allowed : WireCall → Prop) (work : Bounded α) : Prop :=
  ∀ left, Procedure.Only (I := Wire) allowed ((work.run).run left)

section Only

variable {allowed : WireCall → Prop}

theorem only_pure {a : α} : Only allowed (pure a) := fun _ => trivial

theorem only_throw {halt : Halt} : Only allowed (throw halt : Bounded α) := fun _ => trivial

theorem Only.bind {f : α → Bounded β} (h : Only allowed work) (hf : ∀ a, Only allowed (f a)) :
    Only allowed (work >>= f) := fun left =>
  Procedure.Only.bind (h left) fun
    | (.ok a, left') => hf a left'
    | (.error _, _) => trivial

theorem only_ask {call : WireCall} (h : allowed call) : Only allowed (ask call) :=
  fun _ => ⟨h, fun _ => trivial⟩

theorem only_spend {took : Nat} : Only allowed (spend took) := by
  refine Only.bind (fun _ => trivial) fun left => ?_
  split
  · exact only_throw.bind fun _ _ => trivial
  · exact fun _ => trivial

theorem only_exchange {r : Request} (h : ∀ within, allowed (.send r within)) :
    Only allowed (exchange r) := by
  refine Only.bind (fun _ => trivial) fun within => Only.bind (only_ask (h within)) fun answer => ?_
  match answer with
  | .answered reply took => exact only_spend.bind fun _ => only_pure
  | .broken took => exact only_spend.bind fun _ => only_throw
  | .late => exact only_throw

theorem only_request {r : Option Request} {decode : Json → Option α}
    (h : ∀ sent, r = some sent → ∀ within, allowed (.send sent within)) :
    Only allowed (request r decode) := by
  cases r with
  | none => exact only_throw
  | some r =>
    refine Only.bind (only_exchange (h r rfl)) fun reply => ?_
    split <;> split
    · exact only_throw.bind fun _ => only_pure
    · exact only_pure
    · exact only_throw.bind fun _ => only_throw
    · exact only_throw

theorem only_mapM {γ : Type} {f : γ → Bounded α} {items : List γ}
    (h : ∀ item ∈ items, Only allowed (f item)) : Only allowed (items.mapM f) := by
  induction items with
  | nil =>
    rw [List.mapM_nil]
    exact only_pure
  | cons item rest ih =>
    rw [List.mapM_cons]
    refine (h item List.mem_cons_self).bind fun _ => ?_
    exact (ih fun i hi => h i (List.mem_cons_of_mem _ hi)).bind fun _ => only_pure

/-- What is done after a failure is done with the time that is left. -/
theorem Only.tryCatch {handler : Halt → Bounded α} (h : Only allowed work)
    (hh : ∀ halt, Only allowed (handler halt)) : Only allowed (tryCatch work handler) := fun left =>
  Procedure.Only.bind (h left) fun
    | (.ok _, _) => trivial
    | (.error halt, left') => hh halt left'

theorem Only.within (h : Only allowed work) (operation : String) (limit : Nat) :
    Procedure.Only (I := Wire) allowed (within operation limit work) := by
  refine Procedure.Only.bind (h limit) fun out => ?_
  match out with
  | (.ok a, _) | (.error (.failed e), _) | (.error .timeUp, _) => trivial

end Only
end PodNetwork.Kubernetes.Bounded
