import PodNetwork.Rehearsal.HostScript
import PodNetwork.Rehearsal.ClusterScript
import PodNetwork.Rehearsal.EngineScript

/-! Rehearsing a routine at a scripted site.

Nothing but a pause takes time, and every call is recorded with the time at which it was made. -/
namespace PodNetwork.Rehearsal

/-- A scripted site, and the calls made there since the log was last cleared. -/
structure Stage where
  host : HostScript := {}
  cluster : ClusterScript := {}
  engine : EngineScript := {}
  /-- The directory of the user's caches. -/
  cache : Option String := none
  /-- Paths at and below which no directory can be made. -/
  blocked : List String := []
  /-- The time in milliseconds. -/
  clock : Nat := 0
  /-- The calls with their times, latest first. -/
  log : List (SiteCall × Nat) := []

namespace Stage

/-- Answers a call from the script. -/
def respond : (call : SiteCall) → Stage → call.Answer × Stage
  | .cluster call, stage =>
    let (answer, cluster) := stage.cluster.answer call
    (answer, { stage with cluster })
  | .host call, stage =>
    let (answer, host) := stage.host.answer call
    (answer, { stage with host })
  | .engine call, stage =>
    let (answer, engine) := stage.engine.answer call
    (answer, { stage with engine })
  | .pause duration, stage => ((), { stage with clock := stage.clock + duration })
  | .userCache, stage => (stage.cache, stage)
  | .makeDirectories path, stage =>
    if stage.blocked.any fun b => Path.isWithin path b then
      (.error (.io path "Not a directory (os error 20)"), stage)
    else (.ok (), stage)

def answer (call : SiteCall) (stage : Stage) : call.Answer × Stage :=
  respond call { stage with log := (call, stage.clock) :: stage.log }

def perform {α : Type} (stage : Stage) (routine : Routine α) : Attempt α × Stage :=
  routine.run.run (I := Site) answer stage

def cue (stage : Stage) : Stage := { stage with clock := 0, log := [] }

def calls (stage : Stage) : List (SiteCall × Nat) := stage.log.reverse

end Stage
end PodNetwork.Rehearsal
