import PodNetwork.Command.Failure
import PodNetwork.Host.System
import PodNetwork.Kubernetes.Kubeconfig
import PodNetwork.Site

/-! What commands ask of the workstation they are run on: files to read, lines to print, and work
at the site of a deployment.

Work that concerns a cluster carries the access to that cluster, so a run shows which clusters
were contacted, and when. -/
namespace PodNetwork

inductive WorkstationCall where
  | load (path : String)
  | print (text : String)
  /-- A request at the site, with the access to a cluster if there is any to be contacted. -/
  | site (access : Option Access) (call : SiteCall)
  deriving DecidableEq, Repr, Inhabited

def WorkstationCall.Answer : WorkstationCall → Type
  | .load _ => Except SystemFault Bytes
  | .print _ => Unit
  | .site _ call => call.Answer

def Workstation : Interface := ⟨WorkstationCall, WorkstationCall.Answer⟩

abbrev Job := ExceptT Failure (Procedure Workstation)

namespace Job

variable {α : Type}

def load (path : String) : Job (Except SystemFault Bytes) :=
  ExceptT.lift (.call (I := Workstation) (.load path))

def print (text : String) : Job Unit := ExceptT.lift (.call (I := Workstation) (.print text))

def ofOutcome (outcome : Outcome α) : Job α := ExceptT.mk (.done outcome)

def ofAttempt (result : Attempt α) : Job α := ofOutcome (result.mapError .work)

def work (access : Option Access) (routine : Routine α) : Job α :=
  let procedure := routine.run.expand (J := Workstation) fun call =>
    .call (I := Workstation) (.site access call)
  ExceptT.mk (procedure.bind fun result => .done (result.mapError .work))

def notText : String := "stream did not contain valid UTF-8"

def readConfig (path : String) : Job Config := do
  match ← load path with
  | .error fault => throw (.unreadableConfig path fault.text)
  | .ok content =>
    match content.decode? with
    | none => throw (.unreadableConfig path notText)
    | some text => ofOutcome (Config.parse text)

def connect (config : Config) (cluster : String) : Job Access := do
  let path := config.kubeconfigPath cluster
  let content := (← load path).toOption
  let server ← ofAttempt (Kubernetes.Kubeconfig.connect path content)
  return { cluster, server }

end Job
end PodNetwork
