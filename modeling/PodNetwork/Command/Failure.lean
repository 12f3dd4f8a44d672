import PodNetwork.Config.Check
import PodNetwork.Config.Decode

/-! How commands fail, and what they take from the configuration. -/
namespace PodNetwork

inductive Failure where
  /-- Working on a cluster or on an image failed. -/
  | work (error : Error)
  /-- The configuration is not YAML of the expected form. -/
  | malformedConfig
  | unreadableConfig (path message : String)
  | unknownCluster (name : String)
  | invalid (fault : Config.Fault)
  /-- A command could not be carried out, for the reason given. -/
  | refused (reason : String)
  deriving DecidableEq, Repr, Inhabited

namespace Failure

def text : Failure → String
  | .work error => error.text
  | .malformedConfig => "yaml error"
  | .unreadableConfig path message => s!"failed to read config {path}: {message}"
  | .unknownCluster name => "cluster not found: " ++ name
  | .invalid fault => "validation error: " ++ fault.text
  | .refused reason => "command failed: " ++ reason

end Failure

abbrev Outcome := Except Failure

namespace Config

def parse (text : String) : Outcome Config :=
  match ofText? text with
  | none => .error .malformedConfig
  | some config => (config.check.mapError Failure.invalid).map fun _ => config

def cluster (config : Config) (name : String) : Outcome Cluster :=
  match config.cluster? name with
  | some cluster => .ok cluster
  | none => .error (.unknownCluster name)

def select (config : Config) : Option String → Outcome (List Cluster)
  | some name => (config.cluster name).map ([·])
  | none => .ok config.clusters

/-- The clusters to work on. A host of the API server can be asked for only if there is a single
one. -/
def selected (config : Config) (name apiServer : Option String) : Outcome (List Cluster) := do
  let clusters ← config.select name
  if apiServer.isSome && 1 < clusters.length then throw (.invalid .ambiguousApiServer)
  return clusters

def targetOf (config : Config) (cluster : Cluster) (apiServer : Option String) :
    Outcome ClusterTarget :=
  (config.target cluster apiServer).mapError .invalid

end Config
end PodNetwork
