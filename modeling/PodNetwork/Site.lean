import PodNetwork.Procedure
import PodNetwork.Text.Utf8
import PodNetwork.Host.Basic
import PodNetwork.Engine.Basic

/-! What a deployment asks of the site it runs at: of the cluster's API, of the host that holds
the source tree, of the container engine, and of the clock.

A deployment is a `Routine`: a procedure over these calls that ends with a result or an error. The
answers are left open, so that what is proved of a routine holds for every site. -/
namespace PodNetwork

structure Node where
  name : String
  labels : Labels
  deriving DecidableEq, Repr, Inhabited

structure Pod where
  name : String
  ready : Bool
  deriving DecidableEq, Repr, Inhabited

structure Listing where
  pods : Attempt (List Pod)
  took : Nat := 0

/-- The requests that deployments make of a cluster. -/
inductive ClusterCall where
  | applyManifest (content : Bytes)
  | applyManifestFromUrl (url : String)
  /-- Forgets which kinds of resource the server has. -/
  | invalidateDiscovery
  | getConfigMap (ns name : String)
  | updateConfigMap (ns name : String) (data : Labels)
  | listPods (ns selector : String)
  | getNodes
  | labelNode (node : String) (labels : Labels)
  | removeNodeTaint (node key effect : String)
  | deleteDaemonset (ns name : String)
  | deletePodsByLabel (ns selector : String)
  | rolloutRestart (ns name : String)
  deriving DecidableEq, Repr, Inhabited

def ClusterCall.Answer : ClusterCall → Type
  | .invalidateDiscovery => Unit
  | .getConfigMap .. => Attempt Labels
  | .listPods .. => Listing
  | .getNodes => Attempt (List Node)
  | _ => Attempt Unit

/-- The requests made of a host. Timeouts are in milliseconds. -/
inductive HostCall where
  /-- Runs a command to its end and captures its output. -/
  | execute (program : String) (args : List String)
  | executeWithin (timeout : Nat) (program : String) (args : List String)
  /-- Runs a long command, of whose output only the end is kept. -/
  | run (program : String) (args : List String)
  | runIn (dir program : String) (args : List String)
  | fileExists (path : String)
  | readFile (path : String)
  /-- Writes a whole file, creating the directories above it. -/
  | writeFile (path : String) (content : Bytes)
  /-- Removes a file or a tree; that it is missing is no error. -/
  | removeAll (path : String)
  | hostInfo
  /-- The name of the host for messages. -/
  | describe
  deriving DecidableEq, Repr, Inhabited

def HostCall.Answer : HostCall → Type
  | .execute .. | .executeWithin .. => Attempt CommandOutput
  | .fileExists _ => Bool
  | .readFile _ => Attempt Bytes
  | .hostInfo => Attempt HostInfo
  | .describe => String
  | _ => Attempt Unit

/-- What a host gives in answer, whatever was asked for. -/
inductive HostReply where
  | nothing
  | output (output : CommandOutput)
  | truth (b : Bool)
  | content (bytes : Bytes)
  | info (host : HostInfo)
  | name (name : String)
  deriving DecidableEq, Repr, Inhabited

def HostCall.reply : (call : HostCall) → call.Answer → Attempt HostReply
  | .execute .., r | .executeWithin .., r => r.map .output
  | .run .., r | .runIn .., r | .writeFile .., r | .removeAll _, r => r.map fun _ => .nothing
  | .fileExists _, r => .ok (.truth r)
  | .readFile _, r => r.map .content
  | .hostInfo, r => r.map .info
  | .describe, r => .ok (.name r)

inductive EngineCall where
  | build (options : BuildOptions)
  | tag (source target : String)
  | push (image : String) (insecure : Bool)
  | imageExists (image : String)
  deriving DecidableEq, Repr, Inhabited

def EngineCall.Answer : EngineCall → Type
  | .imageExists _ => Bool
  | _ => Attempt Unit

inductive SiteCall where
  | cluster (call : ClusterCall)
  | host (call : HostCall)
  | engine (call : EngineCall)
  /-- Waits for some milliseconds. -/
  | pause (duration : Nat)
  /-- Asks for the directory of the user's caches. -/
  | userCache
  /-- Creates a directory and those above it. -/
  | makeDirectories (path : String)
  deriving DecidableEq, Repr, Inhabited

def SiteCall.Answer : SiteCall → Type
  | .cluster call => call.Answer
  | .host call => call.Answer
  | .engine call => call.Answer
  | .pause _ => Unit
  | .userCache => Option String
  | .makeDirectories _ => Attempt Unit

def Site : Interface := ⟨SiteCall, SiteCall.Answer⟩

def Host : Interface := ⟨HostCall, HostCall.Answer⟩

abbrev Routine := ExceptT Error (Procedure Site)

namespace Routine

variable {α : Type}

def attempt (p : Procedure Site (Attempt α)) : Routine α := ExceptT.mk p

def ask (p : Procedure Site α) : Routine α := ExceptT.lift p

def outcome (routine : Routine α) : Routine (Attempt α) := ask (ExceptT.run routine)

def mapError (f : Error → Error) (routine : Routine α) : Routine α :=
  attempt (routine.run.bind fun result => .done (result.mapError f))

end Routine

namespace Site

def execute (program : String) (args : List String) : Routine CommandOutput :=
  .attempt (.call (I := Site) (.host (.execute program args)))

def executeWithin (timeout : Nat) (program : String) (args : List String) : Routine CommandOutput :=
  .attempt (.call (I := Site) (.host (.executeWithin timeout program args)))

def runCommand (program : String) (args : List String) : Routine Unit :=
  .attempt (.call (I := Site) (.host (.run program args)))

def runIn (dir program : String) (args : List String) : Routine Unit :=
  .attempt (.call (I := Site) (.host (.runIn dir program args)))

def fileExists (path : String) : Routine Bool := .ask (.call (I := Site) (.host (.fileExists path)))

def readFile (path : String) : Routine Bytes :=
  .attempt (.call (I := Site) (.host (.readFile path)))

def writeFile (path : String) (content : Bytes) : Routine Unit :=
  .attempt (.call (I := Site) (.host (.writeFile path content)))

def removeAll (path : String) : Routine Unit :=
  .attempt (.call (I := Site) (.host (.removeAll path)))

def hostInfo : Routine HostInfo := .attempt (.call (I := Site) (.host .hostInfo))

def hostName : Routine String := .ask (.call (I := Site) (.host .describe))

def build (options : BuildOptions) : Routine Unit :=
  .attempt (.call (I := Site) (.engine (.build options)))

def tag (source target : String) : Routine Unit :=
  .attempt (.call (I := Site) (.engine (.tag source target)))

def push (image : String) (insecure : Bool) : Routine Unit :=
  .attempt (.call (I := Site) (.engine (.push image insecure)))

def imageExists (image : String) : Routine Bool :=
  .ask (.call (I := Site) (.engine (.imageExists image)))

def applyManifest (content : Bytes) : Routine Unit :=
  .attempt (.call (I := Site) (.cluster (.applyManifest content)))

def applyManifestFromUrl (url : String) : Routine Unit :=
  .attempt (.call (I := Site) (.cluster (.applyManifestFromUrl url)))

def invalidateDiscovery : Routine Unit :=
  .ask (.call (I := Site) (.cluster .invalidateDiscovery))

def getConfigMap (ns name : String) : Routine Labels :=
  .attempt (.call (I := Site) (.cluster (.getConfigMap ns name)))

def updateConfigMap (ns name : String) (data : Labels) : Routine Unit :=
  .attempt (.call (I := Site) (.cluster (.updateConfigMap ns name data)))

def listPods (ns selector : String) : Routine Listing :=
  .ask (.call (I := Site) (.cluster (.listPods ns selector)))

def getNodes : Routine (List Node) := .attempt (.call (I := Site) (.cluster .getNodes))

def labelNode (node : String) (labels : Labels) : Routine Unit :=
  .attempt (.call (I := Site) (.cluster (.labelNode node labels)))

def removeNodeTaint (node key effect : String) : Routine Unit :=
  .attempt (.call (I := Site) (.cluster (.removeNodeTaint node key effect)))

def deleteDaemonset (ns name : String) : Routine Unit :=
  .attempt (.call (I := Site) (.cluster (.deleteDaemonset ns name)))

def deletePodsByLabel (ns selector : String) : Routine Unit :=
  .attempt (.call (I := Site) (.cluster (.deletePodsByLabel ns selector)))

def rolloutRestart (ns name : String) : Routine Unit :=
  .attempt (.call (I := Site) (.cluster (.rolloutRestart ns name)))

def pause (duration : Nat) : Routine Unit := .ask (.call (I := Site) (.pause duration))

def userCache : Routine (Option String) := .ask (.call (I := Site) .userCache)

def makeDirectories (path : String) : Routine Unit :=
  .attempt (.call (I := Site) (.makeDirectories path))

end Site
end PodNetwork
