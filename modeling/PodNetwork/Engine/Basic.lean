import PodNetwork.Text.Blank
import PodNetwork.Error
import PodNetwork.Labels

/-! Container engines: which there are, which one a user prefers, and the arguments of their
command lines. -/
namespace PodNetwork

inductive EngineName where
  | docker
  | podman
  deriving DecidableEq, Repr, Inhabited

def EngineName.binary : EngineName → String
  | .docker => "docker"
  | .podman => "podman"

def EngineName.ofName? : String → Option EngineName
  | "docker" => some .docker
  | "podman" => some .podman
  | _ => none

inductive EnginePreference where
  /-- Podman where it is installed, docker otherwise. -/
  | auto
  | only (engine : EngineName)
  deriving DecidableEq, Repr, Inhabited

namespace EnginePreference

def variableName : String := "DPU_SIM_CONTAINER_ENGINE"

/-- Reads a preference regardless of ASCII case and surrounding blanks. -/
def parse (s : String) : Attempt EnginePreference :=
  match String.ofList ((Text.trim s.toList).map Char.toLower) with
  | "" | "auto" => .ok .auto
  | "docker" => .ok (.only .docker)
  | "podman" => .ok (.only .podman)
  | other => .error (.config
      s!"unknown container engine '{other}', expected docker, podman or auto")

def name : EnginePreference → String
  | .auto => "auto"
  | .only engine => engine.binary

def candidates : EnginePreference → List EngineName
  | .auto => [.podman, .docker]
  | .only engine => [engine]

end EnginePreference

/-- What an image is built from. -/
structure BuildOptions where
  contextDir : String
  dockerfile : String
  image : String
  platform : String
  buildArgs : Labels
  /-- Further arguments, put before the context directory. -/
  extraArgs : List String
  deriving DecidableEq, Repr, Inhabited

def BuildOptions.arguments (options : BuildOptions) : List String :=
  "build" :: options.buildArgs.flatMap (fun (key, value) => ["--build-arg", key ++ "=" ++ value]) ++
    ["--platform", options.platform, "-t", options.image, "-f", options.dockerfile] ++
    options.extraArgs ++ [options.contextDir]

/-- The arguments of a push. Only podman is told that the registry has no certificate; docker
knows local registries by itself. -/
def EngineName.pushArguments (engine : EngineName) (image : String) (insecure : Bool) :
    List String :=
  let flags := if insecure && engine = .podman then ["--tls-verify=false"] else []
  "push" :: flags ++ [image]

end PodNetwork
