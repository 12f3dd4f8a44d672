import PodNetwork.Cluster
import PodNetwork.Host.System
import PodNetwork.Host.Tail
import PodNetwork.Host.UserDirs
import PodNetwork.Kubernetes.Client
import PodNetwork.Site

/-! The local machine as the site of deployments.

The requests made of a host become requests to its operating system, and those made of a cluster
requests to its API server. -/
namespace PodNetwork

/-- What is kept between the requests: the host once it was looked at, and the clients of the
clusters by their names. -/
structure Session where
  host : HostCache := {}
  clients : List (String × Kubernetes.Client) := []
  deriving DecidableEq, Repr, Inhabited

abbrev Local := StateT Session (Procedure System)

namespace Local

def ask (call : SystemCall) : Local call.Answer :=
  StateT.lift (Procedure.call (I := System) call)

def hostName : String := "localhost"

def osReleasePath : String := "/etc/os-release"

def presumedMachine : String := "x86_64"

def exitMessage (status : ExitStatus) : String := "exited with " ++ status.text

def captured (line : String) (ending : Ending) : Attempt CommandOutput :=
  let output : CommandOutput := ⟨ending.stdout.decodeLossy, ending.stderr.decodeLossy⟩
  if ending.status.success then .ok output
  else .error (.command line (exitMessage ending.status) output.combined)

/-- The outcome of a long command. The error of its failure has the ends of both streams. -/
def streamed (line : String) (ending : Ending) : Attempt Unit :=
  if ending.status.success then .ok ()
  else
    let tail := Host.streamTail ending.stdout ++ Host.streamTail ending.stderr
    .error (.command line (exitMessage ending.status) (Text.joinStrings "\n" tail))

/-- The outcome of a command, given its outcome if it starts and ends in time. -/
def outcome {α : Type} (line : String) (limit : Option Nat) (finish : Ending → Attempt α) :
    Except SystemFault (Option Ending) → Attempt α
  | .error fault => .error (.command line ("failed to spawn: " ++ fault.text) "")
  | .ok none =>
    let seconds := limit.getD 0 / 1000
    .error (.command line s!"timed out after {seconds}s" "")
  | .ok (some ending) => finish ending

def execute (program : String) (args : List String) (limit : Option Nat) :
    Local (Attempt CommandOutput) := do
  let line := commandLine program args
  return outcome line limit (captured line) (← ask (.spawn program args none limit))

def runCommand (dir : Option String) (program : String) (args : List String) :
    Local (Attempt Unit) := do
  let line := match dir with
    | none => commandLine program args
    | some dir => "(cd " ++ dir ++ ") " ++ commandLine program args
  return outcome line none (streamed line) (← ask (.spawn program args dir none))

def atPath {α : Type} (path : String) (result : Except SystemFault α) : Attempt α :=
  result.mapError (·.atPath path)

def writeFile (path : String) (content : Bytes) : Local (Attempt Unit) := do
  let prepared ← match Path.parent? path with
    | none => pure (.ok ())
    | some parent => atPath parent <$> ask (.makeDirectories parent)
  match prepared with
  | .error e => return .error e
  | .ok () => atPath path <$> ask (.writeFile path content)

/-- Removes what is at a path; a link is not followed. -/
def removeAll (path : String) : Local (Attempt Unit) := do
  match ← ask (.kindOf path) with
  | .error .notFound => return .ok ()
  | .error fault => return .error (fault.atPath path)
  | .ok .directory => atPath path <$> ask (.removeTree path)
  | .ok _ => atPath path <$> ask (.removeFile path)

def machine : Local String := do
  match ← ask (.spawn "uname" ["-m"] none none) with
  | .ok (some ending) =>
    return if ending.status.success then ending.stdout.decodeLossy else presumedMachine
  | _ => return presumedMachine

def detect : Local HostInfo := do
  let content := match ← ask (.readFile osReleasePath) with
    | .ok content => content.decode?.getD ""
    | .error _ => ""
  let release := OsRelease.parse content
  return ⟨release.id, release.versionId, release.idLike, .ofMachine (← machine)⟩

/-- The host, looked at on first use only. -/
def hostInfo : Local (Attempt HostInfo) := do
  match (← get).host.info with
  | some info => return .ok info
  | none =>
    let (result, _, host) := (← get).host.getOrDetect (.ok (← detect))
    modify ({ · with host })
    return result

/-- Carries out a request made of the host. -/
def answerHost : (call : HostCall) → Local call.Answer
  | .execute program args => execute program args none
  | .executeWithin timeout program args => execute program args (some timeout)
  | .run program args => runCommand none program args
  | .runIn dir program args => runCommand (some dir) program args
  | .fileExists path => ask (.isThere path)
  | .readFile path => atPath path <$> ask (.readFile path)
  | .writeFile path content => writeFile path content
  | .removeAll path => removeAll path
  | .hostInfo => hostInfo
  | .describe => return hostName

/-- Carries out a request made of a cluster. -/
def answerCluster (access : Access) (call : ClusterCall) : Local call.Answer := do
  let name := access.cluster
  let client := ((← get).clients.find? fun c => c.1 = name).elim {} Prod.snd
  let wired := (client.answer call).expand (J := System) fun c =>
    .call (I := System) (.wire access.server c)
  let (answer, client) ← StateT.lift wired
  modify fun s => { s with clients := (name, client) :: s.clients.filter fun c => c.1 ≠ name }
  return answer

def withoutEngine : (call : EngineCall) → call.Answer
  | .imageExists _ => false
  | .build _ | .tag .. | .push .. => .error (.config "no container engine")

/-- Carries out a request made of the site. Engines are there only by their programs. -/
def answer (access : Option Access) : (call : SiteCall) → Local call.Answer
  | .cluster call => answerCluster (access.getD {}) call
  | .host call => answerHost call
  | .engine call => return withoutEngine call
  | .pause duration => ask (.pause duration)
  | .userCache => do
    return Host.cacheDir (← ask (.setting "XDG_CACHE_HOME")) (← ask (.setting "HOME"))
  | .makeDirectories path => atPath path <$> ask (.makeDirectories path)

end Local
end PodNetwork
