/-! What can go wrong, and the text that tells it.

Errors carry the cluster, phase, file or image they concern, so that one line of text is enough
to diagnose a failed install. -/
namespace PodNetwork

/-- A failed request to the API server. -/
inductive ApiFault where
  /-- The server refused, with a status. -/
  | status (code : Nat) (reason message : String)
  /-- The reply is not what the request calls for. -/
  | malformedReply
  | connection
  /-- No request can be formed for the name or namespace. -/
  | badRequest
  | discovery
  | other
  deriving DecidableEq, Repr, Inhabited

def ApiFault.text : ApiFault → String
  | .status _ reason message => s!"ApiError: {message}: {reason}"
  | .malformedReply => "Error deserializing response"
  | .connection => "ServiceError: client error (Connect)"
  | .badRequest => "Failed to build request"
  | .discovery => "Error from discovery"
  | .other => "Error"

inductive Error where
  | api (fault : ApiFault)
  | sourceUnavailable (path message : String)
  | buildSpecMissing (path : String)
  | buildFailed (image message output : String)
  | refUnresolved (repo ref message : String)
  | manifestUnreadable (file phase message : String)
  | manifestRejected (manifest phase cluster message : String)
  | nodeUnlabeled (node cluster message : String)
  | dnsUnpatched (message : String)
  /-- The timeout is in milliseconds. -/
  | notReady (ns selector : String) (timeout : Nat)
  | redeployFailed (cluster message : String)
  | unsupported (operation target : String)
  | command (line message output : String)
  | config (message : String)
  | io (context message : String)
  | serialization (message : String) (kind : Option String)
  | internal (context message : String)
  deriving DecidableEq, Repr, Inhabited

abbrev Attempt := Except Error

namespace Error

def text : Error → String
  | .api fault => "kubernetes error: " ++ fault.text
  | .sourceUnavailable path message => s!"source unavailable at {path}: {message}"
  | .buildSpecMissing path => s!"build spec missing: {path} not found"
  | .buildFailed image message _ => s!"image build failed for {image}: {message}"
  | .refUnresolved repo ref message => s!"failed to resolve git ref {ref} in {repo}: {message}"
  | .manifestUnreadable file phase message =>
    s!"failed to read manifest {file} during {phase}: {message}"
  | .manifestRejected manifest phase cluster message =>
    s!"failed to apply {manifest} during {phase} on cluster {cluster}: {message}"
  | .nodeUnlabeled node cluster message =>
    s!"failed to label node {node} on cluster {cluster}: {message}"
  | .dnsUnpatched message => "coredns patch failed: " ++ message
  | .notReady ns selector timeout =>
    let seconds := timeout / 1000
    s!"timed out after {seconds}s waiting for pods in {ns} ({selector}) to become ready"
  | .redeployFailed cluster message => s!"redeploy failed on cluster {cluster}: {message}"
  | .unsupported operation target => s!"{operation} is not supported for {target}"
  | .command line message _ => s!"command failed [{line}]: {message}"
  | .config message => "configuration error: " ++ message
  | .io context message => s!"io error [{context}]: {message}"
  | .serialization message _ => "serialization error: " ++ message
  | .internal context message => s!"internal error [{context}]: {message}"

/-- Errors that an install records and survives: the cluster is usable without a patched DNS, and
pods that are not ready yet may become so on their own. -/
def isSoft : Error → Bool
  | .dnsUnpatched _ | .notReady .. => true
  | _ => false

def cluster? : Error → Option String
  | .manifestRejected _ _ cluster _ | .nodeUnlabeled _ cluster _ | .redeployFailed cluster _ =>
    some cluster
  | _ => none

def output? : Error → Option String
  | .buildFailed _ _ output | .command _ _ output => if output.isEmpty then none else some output
  | _ => none

def yaml : Error := .serialization "yaml" none

end Error
end PodNetwork
