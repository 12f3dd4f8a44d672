import PodNetwork.Growth

/-! Retrying with growing, jittered delays.

Delays and factors are exact rational numbers. The delay grows from attempt to attempt up to a
longest one, and each pause is the delay scaled by a random factor, so that clients which failed
together do not all come back at once. -/
namespace PodNetwork

/-- How an operation is retried. Delays are in milliseconds. -/
structure RetryPlan where
  /-- The number of attempts; zero stands for no limit. -/
  maxAttempts : Nat := 0
  initialDelay : Rat := 100
  /-- No delay grows beyond this one, before jitter. -/
  maxDelay : Rat := 30000
  growth : Growth := .factor 2
  deriving DecidableEq, Repr, Inhabited

namespace RetryPlan

def bounded (attempts : Nat) : RetryPlan := { maxAttempts := attempts }

def discovery : RetryPlan := { maxAttempts := 5, initialDelay := 1000 }

/-- The delay that follows a given one, before jitter; there is none when the growth makes it
negative. -/
def nextDelay? (plan : RetryPlan) (delay : Rat) : Option Rat :=
  match plan.growth with
  | .factor f =>
    let grown := if delay * f ≤ plan.maxDelay then delay * f else plan.maxDelay
    if grown < 0 then none else some grown
  | .infinite negative => if negative && delay ≠ 0 then none else some plan.maxDelay
  | .undefined => some plan.maxDelay

/-- The delays, before jitter, that follow a number of failed attempts. -/
def delaysFrom (plan : RetryPlan) : Nat → Rat → List Rat
  | 0, _ => []
  | n + 1, delay =>
    delay :: match plan.nextDelay? delay with
      | some next => plan.delaysFrom n next
      | none => []

/-- All delays, before jitter, of a plan with a limit. -/
def delays (plan : RetryPlan) : List Rat := plan.delaysFrom (plan.maxAttempts - 1) plan.initialDelay

/-- Whether a failed attempt, counted from one, is the last. -/
def exhausted (plan : RetryPlan) (attempt : Nat) : Bool :=
  plan.maxAttempts ≠ 0 && plan.maxAttempts ≤ attempt

end RetryPlan

/-- Whether a length of time, in milliseconds, is one that can be waited for. Seconds are counted
with 64 bits. -/
def IsDuration (delay : Rat) : Prop := 0 ≤ delay ∧ delay < 18446744073709551616000

instance : DecidablePred IsDuration := fun _ => inferInstanceAs (Decidable (_ ∧ _))

/-- How a retried operation ends. -/
inductive RetryEnd (ε α : Type) where
  | success (value : α)
  | failure (error : ε)
  /-- A pause cannot be waited for, or the growth led to a negative delay. -/
  | badDelay
  /-- The bound on the attempts looked at was reached. -/
  | unfinished
  deriving DecidableEq, Repr

inductive RetryEvent where
  | attempt
  | pause (delay : Rat)
  deriving DecidableEq, Repr

structure RetryRun (ε α : Type) where
  outcome : RetryEnd ε α
  events : List RetryEvent
  deriving DecidableEq, Repr

namespace RetryRun

variable {ε α : Type}

def attempts (run : RetryRun ε α) : Nat := run.events.count .attempt

def pauses (run : RetryRun ε α) : List Rat :=
  run.events.filterMap fun
    | .attempt => none
    | .pause delay => some delay

def after (run : RetryRun ε α) (events : List RetryEvent) : RetryRun ε α :=
  { run with events := events ++ run.events }

end RetryRun

/-- Retries an operation whose attempts, counted from one, give the stated results. Every failed
attempt but the last is followed by one pause, which is the delay times a factor drawn anew. -/
def RetryPlan.runFrom {ε α : Type} (plan : RetryPlan) (jitter : Nat → Rat)
    (results : Nat → Except ε α) : Nat → Nat → Rat → RetryRun ε α
  | 0, _, _ => ⟨.unfinished, []⟩
  | fuel + 1, done, delay =>
    let attempt := done + 1
    match results attempt with
    | .ok a => ⟨.success a, [.attempt]⟩
    | .error e =>
      if plan.exhausted attempt then ⟨.failure e, [.attempt]⟩
      else
        let pause := delay * jitter attempt
        if IsDuration pause then
          match plan.nextDelay? delay with
          | none => ⟨.badDelay, [.attempt, .pause pause]⟩
          | some next =>
            (plan.runFrom jitter results fuel attempt next).after [.attempt, .pause pause]
        else ⟨.badDelay, [.attempt]⟩

def RetryPlan.run {ε α : Type} (plan : RetryPlan) (jitter : Nat → Rat)
    (results : Nat → Except ε α) (bound : Nat) : RetryRun ε α :=
  plan.runFrom jitter results bound 0 plan.initialDelay

end PodNetwork
