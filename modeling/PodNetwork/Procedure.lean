/-! Procedures that ask others for what they need.

A procedure either is done or makes one call and goes on with the answer. It fixes what is asked
and in which order, and leaves open who answers: a real host, a scripted one, or, in a statement
about all answers, anything whatever. -/
namespace PodNetwork

/-- The calls that can be made, and the answers each may get. -/
structure Interface where
  Call : Type
  Answer : Call → Type

inductive Procedure (I : Interface) (α : Type) : Type where
  | done (value : α)
  | ask (call : I.Call) (next : I.Answer call → Procedure I α)

namespace Procedure

variable {I J : Interface} {α β : Type}

protected def bind : Procedure I α → (α → Procedure I β) → Procedure I β
  | .done a, f => f a
  | .ask c next, f => .ask c fun answer => (next answer).bind f

instance : Monad (Procedure I) where
  pure := .done
  bind := .bind

def call (c : I.Call) : Procedure I (I.Answer c) := .ask c .done

def run {σ : Type} (answer : (c : I.Call) → σ → I.Answer c × σ) : Procedure I α → σ → α × σ
  | .done a, s => (a, s)
  | .ask c next, s =>
    let (a, s) := answer c s
    (next a).run answer s

def interpret {m : Type → Type} [Monad m] (answer : (c : I.Call) → m (I.Answer c)) :
    Procedure I α → m α
  | .done a => pure a
  | .ask c next => do
    let a ← answer c
    (next a).interpret answer

def expand (answer : (c : I.Call) → Procedure J (I.Answer c)) : Procedure I α → Procedure J α
  | .done a => .done a
  | .ask c next => (answer c).bind fun a => (next a).expand answer

@[simp] theorem bind_done (a : α) (f : α → Procedure I β) : (done a).bind f = f a := rfl

@[simp] theorem bind_ask (c : I.Call) (next : I.Answer c → Procedure I α)
    (f : α → Procedure I β) : (ask c next).bind f = .ask c fun a => (next a).bind f := rfl

theorem bind_done_right (p : Procedure I α) : p.bind .done = p := by
  induction p with
  | done a => rfl
  | ask c next ih => exact congrArg (Procedure.ask c) (funext ih)

theorem bind_assoc {γ : Type} (p : Procedure I α) (f : α → Procedure I β)
    (g : β → Procedure I γ) : (p.bind f).bind g = p.bind fun a => (f a).bind g := by
  induction p with
  | done a => rfl
  | ask c next ih => exact congrArg (Procedure.ask c) (funext ih)

instance : LawfulMonad (Procedure I) :=
  LawfulMonad.mk' (Procedure I) bind_done_right (fun _ _ => rfl) bind_assoc

theorem run_bind {σ : Type} (answer : (c : I.Call) → σ → I.Answer c × σ) (p : Procedure I α)
    (f : α → Procedure I β) (s : σ) :
    (p.bind f).run answer s = (f (p.run answer s).1).run answer (p.run answer s).2 := by
  induction p generalizing s with
  | done a => rfl
  | ask c next ih => exact ih _ _

structure Event (I : Interface) where
  call : I.Call
  answer : I.Answer call

/-- A run of a procedure: the events, in order, and the value it ends with. Every answer that the
interface allows may occur. -/
inductive Runs : Procedure I α → List (Event I) → α → Prop where
  | done (a : α) : Runs (.done a) [] a
  | ask {c : I.Call} {next : I.Answer c → Procedure I α} {answer : I.Answer c}
      {events : List (Event I)} {a : α} (rest : Runs (next answer) events a) :
      Runs (.ask c next) (⟨c, answer⟩ :: events) a

end Procedure
end PodNetwork
