import PodNetwork.Install.Installer
import PodNetwork.Proofs.Install.FlannelCourse

/-! What is told of an install or a redeploy.

A report is about the cluster that was worked on and its plugin, whatever the steps came to. Its
text has one line on that, and one line for each warning. -/
namespace PodNetwork.Install

open Routine
open Procedure (Event)

/-- The lines on some warnings, in their order. -/
inductive WarningLines : List Warning → String → Prop where
  | nil : WarningLines [] ""
  | cons {warning : Warning} {later : List Warning} {text : String} (h : WarningLines later text) :
      WarningLines (warning :: later)
        ("  [" ++ warning.step ++ "] " ++ warning.message ++ "\n" ++ text)

/-- The texts on what was done, with the plugin by the name that configurations give it. -/
inductive Report.Tells (action : String) (report : Report) : String → Prop where
  | smooth {plugin : String} (named : Cni.ofName? plugin = some report.cni)
      (unwarned : report.warnings = []) :
      report.Tells action (plugin ++ " " ++ action ++ " on " ++ report.cluster ++ "\n")
  | rough {plugin lines : String} (named : Cni.ofName? plugin = some report.cni)
      (warned : report.warnings ≠ []) (listed : WarningLines report.warnings lines) :
      report.Tells action (plugin ++ " " ++ action ++ " on " ++ report.cluster ++ " with " ++
        toString report.warnings.length ++ " warning(s):\n" ++ lines)

theorem warningLines_join (warnings : List Warning) :
    WarningLines warnings (String.join (warnings.map Warning.line)) := by
  induction warnings with
  | nil => exact .nil
  | cons warning later ih =>
    rw [List.map_cons, String.join_cons]
    exact .cons ih

theorem Report.tells_summary (report : Report) (action : String) :
    report.Tells action (report.summary action) := by
  have named := Cni.ofName?_name report.cni
  unfold summary hasWarnings
  cases h : report.warnings with
  | nil => exact .smooth named h
  | cons warning later =>
    have rough : report.Tells action _ := .rough named (by simp [h]) (warningLines_join _)
    rw [h] at rough
    simpa using rough

structure Report.Concerns (report : Report) (cluster : String) (cni : Cni) : Prop where
  cluster_eq : report.cluster = cluster
  cni_eq : report.cni = cni

section

variable {report after : Report} {cluster step : String} {cni : Cni} {events : List (Event Site)}
  {routine : Routine Unit}

theorem Report.Concerns.of_softly (h : report.Concerns cluster cni)
    (runs : Runs (softly report step routine) events (.ok after)) : after.Concerns cluster cni := by
  obtain ⟨ended, -, same⟩ := runs_softly_iff.mp runs
  cases ended with
  | ok =>
    obtain rfl := Except.ok.inj same
    exact h
  | error e =>
    unfold Report.soften at same
    split at same
    · next heq => cases heq
    · next heq =>
      split at same
      · obtain rfl := Except.ok.inj same
        exact ⟨h.cluster_eq, h.cni_eq⟩
      · cases same

theorem Report.Concerns.of_anyway (h : report.Concerns cluster cni)
    (runs : Runs (anyway report step routine) events (.ok after)) : after.Concerns cluster cni := by
  obtain ⟨_, answer, _, rfl, -, ended⟩ := runs_outcome_bind_iff.mp runs
  obtain ⟨-, same⟩ := runs_pure_iff.mp ended
  obtain rfl := Except.ok.inj same
  rw [OvnInstaller.tolerate_eq]
  exact ⟨h.cluster_eq, h.cni_eq⟩

end

section

variable {cluster : ClusterTarget} {events : List (Event Site)} {report : Report}

theorem Flannel.concerns_of_install {interval : Nat}
    (h : Runs (Flannel.install cluster interval) events (.ok report)) :
    report.Concerns cluster.name .flannel := by
  simp only [Flannel.install, runs_bind_ok_iff] at h
  obtain ⟨_, _, _, -, -, _, configured, _, -, hconfig, _, restarted, _, -, hrestart, hwait⟩ := h
  have begun : Report.Concerns { cluster := cluster.name, cni := .flannel } cluster.name .flannel :=
    ⟨rfl, rfl⟩
  exact ((begun.of_anyway hconfig).of_anyway hrestart).of_softly hwait

theorem OvnInstaller.concerns_of_install {installer : OvnInstaller}
    (h : Runs (installer.install cluster) events (.ok report)) :
    report.Concerns cluster.name .ovnKubernetes := by
  simp only [install_eq, prepare, provision, deploy, bind_assoc, pure_bind, runs_bind_ok_iff,
    runs_pure_iff] at h
  obtain ⟨_, patched, _, -, hpatch, _, _, _, -, -, _, _, _, -, -, _, _, _, -, -, _, _, _, -, -,
    _, _, _, -, -, _, awaited, _, -, hwait, _, _, _, -, -, -, same⟩ := h
  have begun : Report.Concerns { cluster := cluster.name, cni := .ovnKubernetes } cluster.name
      .ovnKubernetes := ⟨rfl, rfl⟩
  obtain rfl := Except.ok.inj same
  exact (begun.of_softly hpatch).of_softly hwait

theorem OvnInstaller.concerns_of_redeployComponents {installer : OvnInstaller}
    (h : Runs (installer.redeployComponents cluster) events (.ok report)) :
    report.Concerns cluster.name .ovnKubernetes := by
  simp only [redeployComponents, runs_bind_ok_iff] at h
  obtain ⟨_, _, _, -, -, _, _, _, -, -, _, recycled, _, -, hrecycle, hwait⟩ := h
  obtain ⟨answers, -, -, same⟩ := deletions_of_runs hrecycle
  obtain rfl := Except.ok.inj same
  exact Report.Concerns.of_softly ⟨rfl, rfl⟩ hwait

namespace Installer

variable {installer : Installer}

/-- An install reports on its own cluster. -/
theorem concerns_of_install (h : Runs (installer.install cluster) events (.ok report)) :
    report.Concerns cluster.name installer.cni := by
  cases installer with
  | flannel => exact Flannel.concerns_of_install h
  | ovnKubernetes installer => exact OvnInstaller.concerns_of_install h
  | kindnet containerNodes =>
    cases containerNodes with
    | false => cases (runs_throw_iff.mp h).2
    | true =>
      obtain rfl := Except.ok.inj (runs_pure_iff.mp h).2
      exact ⟨rfl, rfl⟩

/-- A redeploy reports on its own cluster, or says that its plugin cannot be redeployed. -/
theorem concerns_of_redeploy {redeployment : Redeployment}
    (h : Runs (installer.redeploy cluster) events (.ok redeployment)) :
    (∃ report, redeployment = .redeployed report ∧
      report.Concerns cluster.name installer.cni) ∨ redeployment = .unsupported installer.cni := by
  cases installer with
  | ovnKubernetes installer =>
    obtain ⟨_, report, _, -, hcomponents, hend⟩ := runs_bind_ok_iff.mp h
    obtain rfl := Except.ok.inj (runs_pure_iff.mp hend).2
    exact .inl ⟨report, rfl,
      OvnInstaller.concerns_of_redeployComponents (runs_mapError_ok_iff.mp hcomponents)⟩
  | _ => exact .inr (Except.ok.inj (runs_pure_iff.mp h).2)

end Installer

end

end PodNetwork.Install
