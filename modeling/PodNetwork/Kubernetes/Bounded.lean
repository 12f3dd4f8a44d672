import PodNetwork.Kubernetes.Object
import PodNetwork.Kubernetes.Wire
import PodNetwork.Text.Quoted

/-! Work on the wire within a limited time.

Time is counted in milliseconds. Work that takes exactly as long as it may is still in time. -/
namespace PodNetwork.Kubernetes

inductive Halt where
  | timeUp
  | failed (error : Error)
  deriving DecidableEq, Repr, Inhabited

/-- Work with some time left. The time left is known also after a failure. -/
abbrev Bounded := ExceptT Halt (StateT Nat (Procedure Wire))

namespace Bounded

variable {α : Type}

def ask (call : WireCall) : Bounded call.Answer :=
  ExceptT.lift (StateT.lift (Procedure.call (I := Wire) call))

def fail (error : Error) : Bounded α := throw (.failed error)

def spend (took : Nat) : Bounded Unit := do
  let left ← get
  if left < took then throw .timeUp
  set (left - took)

/-- The reply to a request, whatever it is. -/
def exchange (request : Request) : Bounded Reply := do
  match ← ask (.send request (← get)) with
  | .answered reply took => do
    spend took
    return reply
  | .broken took => do
    spend took
    fail (.api .connection)
  | .late => throw .timeUp

/-- What an error reply says. One that is no status is told as it is. -/
def faultOf (reply : Reply) : ApiFault :=
  let told : Option ApiFault := do
    let v ← reply.value
    let _ ← text? v ["status"]
    match v.get? "code" with
    | some (.number (.whole n)) =>
      if n < 0 || Int.ofNat (Nat.pow 2 16) ≤ n then none
      else
        let part (key : String) : Option String :=
          match v.get? key with
          | none => some ""
          | some m => m.string?
        some (.status n.toNat (← part "reason") (← part "message"))
    | _ => none
  told.getD (.status reply.code "Failed to parse error data" (Text.quoted reply.text))

/-- The value that a request is answered with, if it is no error and of the right form. -/
def request (r : Option Request) (decode : Json → Option α) : Bounded α := do
  match r with
  | none => fail (.api .badRequest)
  | some r => do
    let reply ← exchange r
    if 400 ≤ reply.code && reply.code < 600 then fail (.api (faultOf reply))
    match reply.value.bind decode with
    | some a => return a
    | none => fail (.api .malformedReply)

def pause (delay : Nat) : Bounded Unit := do
  spend (← ask (.pause delay))

/-- Does work in a limited time, and tells the time it took. -/
def within (operation : String) (limit : Nat) (work : Bounded α) :
    Procedure Wire (Attempt α × Nat) := do
  let (result, left) ← (work.run).run limit
  match result with
  | .ok a => return (.ok a, limit - left)
  | .error (.failed e) => return (.error e, limit - left)
  | .error .timeUp =>
    let seconds := limit / 1000
    return (.error (.internal operation s!"timed out after {seconds}s"), limit)

end Bounded
end PodNetwork.Kubernetes
