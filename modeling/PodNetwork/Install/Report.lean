import PodNetwork.Site
import PodNetwork.Cluster

/-! Network plugins, and what is reported of installing them.

A soft error does not end an install. It is kept as a warning of the report. -/
namespace PodNetwork

inductive Cni where
  | flannel
  | ovnKubernetes
  | kindnet
  deriving DecidableEq, Repr, Inhabited

namespace Cni

def name : Cni → String
  | .flannel => "flannel"
  | .ovnKubernetes => "ovn-kubernetes"
  | .kindnet => "kindnet"

def ofName? : String → Option Cni
  | "flannel" => some .flannel
  | "ovn-kubernetes" => some .ovnKubernetes
  | "kindnet" => some .kindnet
  | _ => none

def parse (s : String) : Attempt Cni :=
  match ofName? s with
  | some cni => .ok cni
  | none => .error (.config s!"unknown CNI '{s}', expected flannel, ovn-kubernetes or kindnet")

theorem ofName?_name (cni : Cni) : ofName? cni.name = some cni := by cases cni <;> rfl

end Cni

namespace Install

structure Warning where
  step : String
  message : String
  deriving DecidableEq, Repr, Inhabited

def Warning.line (warning : Warning) : String :=
  "  [" ++ warning.step ++ "] " ++ warning.message ++ "\n"

structure Report where
  cluster : String
  cni : Cni
  /-- In the order in which the steps failed. -/
  warnings : List Warning := []
  deriving DecidableEq, Repr, Inhabited

namespace Report

def hasWarnings (report : Report) : Bool := !report.warnings.isEmpty

def warn (report : Report) (step : String) (error : Error) : Report :=
  { report with warnings := report.warnings ++ [⟨step, error.text⟩] }

def tolerate (report : Report) (step : String) : Attempt Unit → Report
  | .ok () => report
  | .error e => report.warn step e

/-- Keeps a soft error as a warning; any other error passes through. -/
def soften (report : Report) (step : String) : Attempt Unit → Attempt Report
  | .ok () => .ok report
  | .error e => if e.isSoft then .ok (report.warn step e) else .error e

/-- What is printed of a report: what was done, and every warning on a line of its own. -/
def summary (report : Report) (action : String) : String :=
  let title := report.cni.name ++ " " ++ action ++ " on " ++ report.cluster
  if report.hasWarnings then
    let count := toString report.warnings.length
    title ++ " with " ++ count ++ " warning(s):\n" ++
      String.join (report.warnings.map Warning.line)
  else title ++ "\n"

end Report

inductive Redeployment where
  | redeployed (report : Report)
  /-- The plugin cannot be redeployed, and nothing was done. -/
  | unsupported (cni : Cni)
  deriving DecidableEq, Repr, Inhabited

def softly (report : Report) (step : String) (routine : Routine Unit) : Routine Report := do
  ExceptT.mk (.done (report.soften step (← routine.outcome)))

def anyway (report : Report) (step : String) (routine : Routine Unit) : Routine Report := do
  return report.tolerate step (← routine.outcome)

end Install
end PodNetwork
