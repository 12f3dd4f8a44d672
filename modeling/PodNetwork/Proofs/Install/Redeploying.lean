import PodNetwork.Proofs.Install.Stages
import PodNetwork.Proofs.Manifest.Sequence
import PodNetwork.Proofs.Procedure.Views
import PodNetwork.Proofs.Readiness.Polling

/-! What a redeploy does, whatever comes of its steps.

Providing the tree and applying the deployments may fail, and nothing is done after that. Once all
deployments are applied, the pods of every component are deleted and then awaited, and what goes
wrong there ends up in the report. -/
namespace PodNetwork.Install

open Routine
open Procedure (Event only_call)

namespace OvnInstaller

open OvnKubernetes

def deletions (labels : List String) (answers : List (Attempt Unit)) : List (Event Site) :=
  List.zipWith (fun label answer =>
    ⟨.cluster (.deletePodsByLabel ns ("name=" ++ label)), answer⟩) labels answers

def warning? (step : String) : Attempt Unit → Option Warning
  | .ok () => none
  | .error e => some ⟨step, e.text⟩

theorem tolerate_eq (report : Report) (step : String) (answer : Attempt Unit) :
    report.tolerate step answer =
      { report with warnings := report.warnings ++ (warning? step answer).toList } := by
  cases answer with
  | ok => simp [Report.tolerate, warning?]
  | error e => rfl

theorem runs_recycle_iff {report : Report} {label : String} {events : List (Event Site)}
    {result : Attempt Report} :
    Runs (recycle report label) events result ↔ ∃ answer : Attempt Unit,
      events = [⟨.cluster (.deletePodsByLabel ns ("name=" ++ label)), answer⟩] ∧
      result = .ok (report.tolerate "delete-pods" answer) := by
  unfold recycle anyway
  rw [runs_outcome_bind_iff]
  constructor
  · rintro ⟨_, answer, _, rfl, h, h'⟩
    obtain ⟨rfl, rfl⟩ := runs_pure_iff.mp h'
    exact ⟨answer, by rw [List.append_nil, Procedure.runs_call_iff.mp h], rfl⟩
  · rintro ⟨answer, rfl, rfl⟩
    exact ⟨_, answer, [], rfl, Procedure.runs_call_iff.mpr rfl, runs_pure_iff.mpr ⟨rfl, rfl⟩⟩

/-- The pods of all components are deleted, whatever becomes of each deletion. -/
theorem deletions_of_runs {labels : List String} {report : Report} {events : List (Event Site)}
    {result : Attempt Report} (h : Runs (labels.foldlM recycle report) events result) :
    ∃ answers : List (Attempt Unit), answers.length = labels.length ∧
      events = deletions labels answers ∧ result = .ok { report with
        warnings := report.warnings ++ answers.filterMap (warning? "delete-pods") } := by
  induction labels generalizing report events with
  | nil =>
    obtain ⟨rfl, rfl⟩ := runs_pure_iff.mp h
    exact ⟨[], rfl, rfl, by simp⟩
  | cons label labels ih =>
    rw [List.foldlM_cons] at h
    rcases runs_bind_iff.mp h with ⟨e, hl, rfl⟩ | ⟨before, next, after, rfl, hl, hr⟩ <;>
      obtain ⟨answer, rfl, hnext⟩ := runs_recycle_iff.mp hl
    · cases hnext
    · obtain ⟨answers, hlength, rfl, rfl⟩ := ih hr
      obtain rfl := Except.ok.inj hnext
      refine ⟨answer :: answers, congrArg (· + 1) hlength, rfl, ?_⟩
      rw [tolerate_eq, List.filterMap_cons]
      cases warning? "delete-pods" answer <;> simp

/-- Events by which the deployments of a tree are applied, each after its file was read. -/
structure Applying (cluster : ClusterTarget) (tree : String) (contents : List (String × Bytes))
    (events : List (Event Site)) (result : Attempt Unit) : Prop where
  runs : Runs (Manifest.applyFiles .deployment (manifestDir tree) cluster.name
    (Manifest.deploymentFiles false)) events result
  files : contents.map Prod.fst = Manifest.deploymentFiles false
  inSequence : Manifest.InSequence (manifestDir tree) cluster.name
    (Manifest.fileActions .deployment contents) events result

theorem applying_of_runs {cluster : ClusterTarget} {tree : String} {events : List (Event Site)}
    {result : Attempt Unit} (h : Runs (Manifest.applyFiles .deployment (manifestDir tree)
      cluster.name (Manifest.deploymentFiles false)) events result) :
    ∃ contents, Applying cluster tree contents events result := by
  obtain ⟨_, ⟨contents, hfiles, rfl⟩, follows⟩ := Manifest.keeps_applyFiles.follows _ _ h
  exact ⟨contents, h, hfiles, follows.inSequence⟩

/-- The report of a redeploy whose deletions and whose wait ended in given ways. -/
def reportOf (cluster : ClusterTarget) (answers : List (Attempt Unit)) (ended : Attempt Unit) :
    Report where
  cluster := cluster.name
  cni := .ovnKubernetes
  warnings := answers.filterMap (warning? "delete-pods") ++ (warning? "readiness" ended).toList

/-- The ways in which the components of a cluster can be redeployed. -/
inductive Course (installer : OvnInstaller) (cluster : ClusterTarget) :
    List (Event Site) → Attempt Report → Prop where
  | unprovided {source : List (Event Site)} {e : Error}
      (provided : Runs installer.source.ensure source (.error e)) :
      Course installer cluster source (.error e)
  | unapplied {source applying : List (Event Site)} {tree : String}
      {contents : List (String × Bytes)} {e : Error}
      (provided : Runs installer.source.ensure source (.ok tree))
      (applied : Applying cluster tree contents applying (.error e)) :
      Course installer cluster (source ++ applying) (.error e)
  | redeployed {source applying : List (Event Site)} {tree : String}
      {contents : List (String × Bytes)} {answers : List (Attempt Unit)}
      {polls : List Readiness.Poll} {ended : Attempt Unit}
      (provided : Runs installer.source.ensure source (.ok tree))
      (applied : Applying cluster tree contents applying (.ok ()))
      (deleted : answers.length = componentLabels.length)
      (awaited : Readiness.Waits ns "" installer.options.readinessTimeout 0 polls ended) :
      Course installer cluster (source ++ (applying ++ (deletions componentLabels answers ++
        polls.flatMap (Readiness.Poll.events ns "")))) (.ok (reportOf cluster answers ended))

/-- A wait that ended in some way never ends what it is a step of. -/
theorem soften_eq_of_waits {report : Report} {space selector : String} {timeout now : Nat}
    {polls : List Readiness.Poll} {ended : Attempt Unit}
    (h : Readiness.Waits space selector timeout now polls ended) :
    report.soften "readiness" ended = .ok { report with
      warnings := report.warnings ++ (warning? "readiness" ended).toList } := by
  cases ended with
  | ok => simp [Report.soften, warning?]
  | error e =>
    obtain rfl := h.error_eq
    rfl

theorem course_of_runs {installer : OvnInstaller} {cluster : ClusterTarget}
    {events : List (Event Site)} {result : Attempt Report}
    (positive : 0 < installer.options.pollInterval)
    (h : Runs (installer.redeployComponents cluster) events result) :
    Course installer cluster events result := by
  rcases runs_bind_iff.mp h with ⟨e, hs, rfl⟩ | ⟨source, tree, after, rfl, hs, ha⟩
  · exact .unprovided hs
  · rcases runs_bind_iff.mp ha with ⟨e, hf, rfl⟩ | ⟨applying, _, rest, rfl, hf, hd⟩
    · obtain ⟨contents, applied⟩ := applying_of_runs hf
      exact .unapplied hs applied
    · obtain ⟨contents, applied⟩ := applying_of_runs hf
      rcases runs_bind_iff.mp hd with ⟨e, hr, rfl⟩ | ⟨deleting, report, waiting, rfl, hr, hw⟩ <;>
        obtain ⟨answers, hlength, rfl, hreport⟩ := deletions_of_runs hr
      · cases hreport
      · obtain ⟨ended, hwait, rfl⟩ := runs_softly_iff.mp hw
        obtain ⟨polls, rfl, awaited⟩ := Readiness.waits_of_runs positive hwait
        obtain rfl := Except.ok.inj hreport
        rw [soften_eq_of_waits awaited]
        exact .redeployed hs applied hlength awaited

def requestOf? : Site.Call → Option ClusterCall
  | .cluster call => some call
  | _ => none

theorem clusterCalls_eq_filterMap (events : List (Event Site)) :
    Site.clusterCalls events = (events.map Event.call).filterMap requestOf? := by
  rw [List.filterMap_map]
  refine congrArg (events.filterMap ·) (funext fun e => ?_)
  obtain ⟨call, answer⟩ := e
  cases call <;> rfl

def applications (contents : List (String × Bytes)) : List ClusterCall :=
  contents.map fun c => .applyManifest c.2

theorem filterMap_fileActions (dir : String) (contents : List (String × Bytes)) :
    ((Manifest.fileActions .deployment contents).map (Manifest.Action.call dir)).filterMap
      requestOf? = applications contents := by
  induction contents with
  | nil => rfl
  | cons c contents ih => exact congrArg (ClusterCall.applyManifest c.2 :: ·) ih

theorem Applying.clusterCalls_prefix {cluster : ClusterTarget} {tree : String}
    {contents : List (String × Bytes)} {events : List (Event Site)} {result : Attempt Unit}
    (h : Applying cluster tree contents events result) :
    Site.clusterCalls events <+: applications contents := by
  rw [clusterCalls_eq_filterMap, ← filterMap_fileActions (manifestDir tree)]
  exact h.inSequence.calls.filterMap requestOf?

theorem Applying.clusterCalls_eq {cluster : ClusterTarget} {tree : String}
    {contents : List (String × Bytes)} {events : List (Event Site)}
    (h : Applying cluster tree contents events (.ok ())) :
    Site.clusterCalls events = applications contents := by
  have all : events.map Event.call =
      (Manifest.fileActions .deployment contents).map
        (Manifest.Action.call (manifestDir tree)) := by
    refine h.inSequence.calls.eq_of_length ?_
    rw [List.length_map, List.length_map, (h.inSequence.success.mp rfl).length_eq]
  rw [clusterCalls_eq_filterMap, all, filterMap_fileActions]

theorem clusterCalls_deletions {labels : List String} {answers : List (Attempt Unit)}
    (h : answers.length = labels.length) :
    Site.clusterCalls (deletions labels answers) =
      labels.map fun label => .deletePodsByLabel ns ("name=" ++ label) := by
  induction labels generalizing answers with
  | nil => rw [List.length_eq_zero_iff.mp h]; rfl
  | cons label labels ih =>
    obtain ⟨answer, answers, rfl⟩ := List.exists_cons_of_length_eq_add_one h
    exact congrArg (ClusterCall.deletePodsByLabel ns ("name=" ++ label) :: ·)
      (ih (Nat.succ.inj h))

theorem clusterCalls_polls (polls : List Readiness.Poll) :
    Site.clusterCalls (polls.flatMap (Readiness.Poll.events ns "")) =
      List.replicate polls.length (.listPods ns "") := by
  induction polls with
  | nil => rfl
  | cons poll polls ih => exact congrArg (ClusterCall.listPods ns "" :: ·) ih

theorem Course.requests {installer : OvnInstaller} {cluster : ClusterTarget}
    {events : List (Event Site)} {inner : Attempt Report}
    (h : installer.Course cluster events inner) :
    ∃ (contents : List (String × Bytes)) (polls : Nat),
      contents.map Prod.fst = Manifest.deploymentFiles false ∧
      Site.clusterCalls events <+: applications contents ++
        ((componentLabels.map fun label => .deletePodsByLabel ns ("name=" ++ label)) ++
          List.replicate polls (.listPods ns "")) := by
  have quiet {source : List (Event Site)} {provided : Attempt String}
      (h : Runs installer.source.ensure source provided) : Site.clusterCalls source = [] :=
    Site.clusterCalls_eq_nil fun e he =>
      (h.only installer.source.only_ensure e he).isPreparation.isLocal
  cases h with
  | unprovided provided =>
    rw [quiet provided]
    exact ⟨(Manifest.deploymentFiles false).map (·, []), 0,
      by simp [Function.comp_def], List.nil_prefix⟩
  | unapplied provided applied =>
    rw [Site.clusterCalls_append, quiet provided, List.nil_append]
    exact ⟨_, 0, applied.files, applied.clusterCalls_prefix.trans (List.prefix_append _ _)⟩
  | redeployed provided applied deleted =>
    simp only [Site.clusterCalls_append, quiet provided, applied.clusterCalls_eq,
      clusterCalls_deletions deleted, clusterCalls_polls, List.nil_append]
    exact ⟨_, _, applied.files, List.prefix_refl _⟩

theorem Course.ok_iff {installer : OvnInstaller} {cluster : ClusterTarget}
    {events : List (Event Site)} {inner : Attempt Report}
    (h : installer.Course cluster events inner) :
    (∃ report, inner = .ok report) ↔
      ∃ source tree applying rest, events = source ++ (applying ++ rest) ∧
        Runs installer.source.ensure source (.ok tree) ∧
        Runs (Manifest.applyFiles .deployment (manifestDir tree) cluster.name
          (Manifest.deploymentFiles false)) applying (.ok ()) := by
  constructor
  · rintro ⟨report, rfl⟩
    cases h with
    | redeployed provided applied => exact ⟨_, _, _, _, rfl, provided, applied.runs⟩
  · rintro ⟨source, tree, applying, rest, hevents, hsource, happlying⟩
    -- The parts of a run cannot be told apart in two ways.
    cases h with
    | unprovided provided =>
      obtain ⟨-, -, heq⟩ := provided.eq_of_append_eq hsource ((List.append_nil _).trans hevents)
      cases heq
    | unapplied provided applied =>
      obtain ⟨rfl, hrest, heq⟩ := provided.eq_of_append_eq hsource hevents
      obtain rfl := Except.ok.inj heq
      obtain ⟨-, -, heq⟩ := applied.runs.eq_of_append_eq happlying ((List.append_nil _).trans hrest)
      cases heq
    | redeployed => exact ⟨_, rfl⟩

end OvnInstaller
end PodNetwork.Install
