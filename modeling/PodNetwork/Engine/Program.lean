import PodNetwork.Site

/-! Engines driven through their programs: finding one, and carrying out engine requests as
commands of the host. -/
namespace PodNetwork

namespace EngineName

/-- How long a program may take to tell its version, in milliseconds. -/
def probeTimeout : Nat := 10000

/-- How long a program may take to look up an image, in milliseconds. -/
def inspectTimeout : Nat := 30000

def isAvailable (engine : EngineName) : Routine Bool := do
  return (← (Site.executeWithin probeTimeout engine.binary ["--version"]).outcome).isOk

/-- Carries out a request with the engine's program. -/
def perform (engine : EngineName) : (call : EngineCall) → Procedure Site call.Answer
  | .build options => Site.runCommand engine.binary options.arguments |>.run
  | .tag source target =>
    (do discard <| Site.execute engine.binary ["tag", source, target] : Routine Unit).run
  | .push image insecure =>
    Site.runCommand engine.binary (engine.pushArguments image insecure) |>.run
  | .imageExists image =>
    (Site.executeWithin inspectTimeout engine.binary ["image", "inspect", image]).run.bind
      fun result => .done result.isOk

def answer (engine : EngineName) : (call : SiteCall) → Procedure Site call.Answer
  | .engine call => engine.perform call
  | call => .call (I := Site) call

def drive {α : Type} (engine : EngineName) (routine : Routine α) : Routine α :=
  .attempt (routine.run.expand engine.answer)

end EngineName

namespace EnginePreference

def firstAvailable : List EngineName → Routine (Option EngineName)
  | [] => return none
  | engine :: rest => do
    if ← engine.isAvailable then return some engine
    firstAvailable rest

/-- The engine to use on the host. One that is asked for by name has to be there. -/
def detect (preference : EnginePreference) : Routine EngineName := do
  match ← firstAvailable preference.candidates with
  | some engine => return engine
  | none =>
    let wanted := Text.joinStrings " or " (preference.candidates.map EngineName.binary)
    let host ← Site.hostName
    throw (.config s!"no container engine found on {host} (looked for {wanted})")

end EnginePreference
end PodNetwork
