import PodNetwork.Rehearsal.Script
import PodNetwork.Site

/-! A container engine that answers from a script and remembers its images. -/
namespace PodNetwork.Rehearsal

inductive EngineAction where
  | build
  | tag
  | push
  deriving DecidableEq, Repr, Inhabited

def EngineAction.name : EngineAction → String
  | .build => "build"
  | .tag => "tag"
  | .push => "push"

structure EngineFault where
  action : EngineAction
  start : String
  output : String
  deriving DecidableEq, Repr, Inhabited

structure EngineScript where
  engine : EngineName := .docker
  images : List String := []
  faults : List (Scripted EngineFault) := []
  deriving DecidableEq, Repr, Inhabited

namespace EngineScript

/-- Carries out an action on an image, unless the script says that it fails. -/
def guarded (script : EngineScript) (action : EngineAction) (image : String)
    (go : EngineScript → Attempt Unit × EngineScript) : Attempt Unit × EngineScript :=
  match take (fun f : EngineFault => f.action = action ∧ Text.startsWith image f.start)
      script.faults with
  | (some fault, faults) =>
    (.error (.command (script.engine.binary ++ " " ++ action.name) "exited with status 1"
      fault.output), { script with faults })
  | (none, _) => go script

def add (script : EngineScript) (image : String) : EngineScript :=
  if image ∈ script.images then script else { script with images := script.images ++ [image] }

def answer : (call : EngineCall) → EngineScript → call.Answer × EngineScript
  | .build options, script =>
    script.guarded .build options.image fun script => (.ok (), script.add options.image)
  | .tag source target, script =>
    script.guarded .tag source fun script =>
      if source ∈ script.images then (.ok (), script.add target)
      else (.error (.command "tag" s!"image {source} not known" ""), script)
  | .push image _, script => script.guarded .push image fun script => (.ok (), script)
  | .imageExists image, script => (decide (image ∈ script.images), script)

end EngineScript
end PodNetwork.Rehearsal
