import PodNetwork.Install.Flannel
import PodNetwork.Proofs.Install.Redeploying

/-! How an install of Flannel goes.

Only the manifest has to be applied. What comes after it is done in any case, and what fails of it
ends up in the report. -/
namespace PodNetwork.Install.Flannel

open Routine
open Procedure (Event)
open OvnInstaller (warning? tolerate_eq soften_eq_of_waits)

section

variable {cluster : ClusterTarget} {interval : Nat} {events : List (Event Site)}
  {result : Attempt Report}

def applying (answer : Attempt Unit) : Event Site :=
  ⟨.cluster (.applyManifestFromUrl manifestUrl), answer⟩

/-- The request that gives the network the addresses of a cluster, answered in some way. -/
def configuring (cluster : ClusterTarget) (answer : Attempt Unit) : Event Site :=
  ⟨.cluster (.updateConfigMap ns configMap [(netConfKey, netConf cluster.podCidr)]), answer⟩

def restarting (answer : Attempt Unit) : Event Site :=
  ⟨.cluster (.rolloutRestart ns daemonset), answer⟩

/-- The report of an install whose steps behind the manifest ended in given ways. -/
def reportOf (cluster : ClusterTarget) (configured restarted ended : Attempt Unit) : Report where
  cluster := cluster.name
  cni := .flannel
  warnings := (warning? "flannel-config" configured).toList ++
    (warning? "flannel-restart" restarted).toList ++ (warning? "readiness" ended).toList

/-- The ways in which an install can go. -/
inductive Course (cluster : ClusterTarget) (interval : Nat) :
    List (Event Site) → Attempt Report → Prop where
  /-- The manifest is not applied, and nothing else is done. -/
  | rejected {e : Error} : Course cluster interval [applying (.error e)]
      (.error (.manifestRejected manifestUrl "flannel" cluster.name e.text))
  /-- All other steps are done, whatever becomes of each. -/
  | installed {configured restarted ended : Attempt Unit} {polls : List Readiness.Poll}
      (awaited : Readiness.Waits ns "" readinessTimeout 0 polls ended)
      (paced : Readiness.Paced readinessTimeout interval 0 polls) :
      Course cluster interval
        (applying (.ok ()) :: configuring cluster configured :: restarting restarted ::
          polls.flatMap (Readiness.Poll.events ns ""))
        (.ok (reportOf cluster configured restarted ended))

/-- A step that may fail in any way never ends a sequence, and leaves a warning if it fails. -/
theorem runs_anyway_bind_iff {report : Report} {step : String} {routine : Routine Unit}
    {f : Report → Routine Report} :
    Runs (anyway report step routine >>= f) events result ↔
      ∃ before answer after, events = before ++ after ∧ Runs routine before answer ∧
        Runs (f { report with
          warnings := report.warnings ++ (warning? step answer).toList }) after result := by
  have looked : anyway report step routine >>= f =
      routine.outcome >>= fun answer => f (report.tolerate step answer) := by
    unfold anyway
    rw [bind_assoc]
    simp only [pure_bind]
  rw [looked, runs_outcome_bind_iff]
  simp only [tolerate_eq]

/-- The report does not fail for want of ready pods. -/
theorem runs_awaiting_iff {report : Report} (positive : 0 < interval) :
    Runs (softly report "readiness" (Readiness.wait ns "" readinessTimeout interval))
        events result ↔
      ∃ polls ended, events = polls.flatMap (Readiness.Poll.events ns "") ∧
        Readiness.Waits ns "" readinessTimeout 0 polls ended ∧
        Readiness.Paced readinessTimeout interval 0 polls ∧
        result = .ok { report with
          warnings := report.warnings ++ (warning? "readiness" ended).toList } := by
  rw [runs_softly_iff]
  constructor
  · rintro ⟨ended, hwait, rfl⟩
    obtain ⟨polls, rfl, awaited, paced⟩ := (Readiness.runs_iff positive).mp hwait
    exact ⟨polls, ended, rfl, awaited, paced, soften_eq_of_waits awaited⟩
  · rintro ⟨polls, ended, rfl, awaited, paced, rfl⟩
    have hwait := (Readiness.runs_iff positive).mpr ⟨polls, rfl, awaited, paced⟩
    exact ⟨ended, hwait, (soften_eq_of_waits awaited).symm⟩

/-- The runs of an install are those that go in one of the ways of its course. -/
theorem runs_iff_course (positive : 0 < interval) :
    Runs (install cluster interval) events result ↔ Course cluster interval events result := by
  unfold install
  rw [runs_bind_iff]
  constructor
  · rintro (⟨e, happly, rfl⟩ | ⟨before, _, after, rfl, happly, hrest⟩)
    · obtain ⟨answer, hcall, hanswer⟩ := runs_mapError_iff.mp happly
      cases answer with
      | ok => cases hanswer
      | error inner =>
        obtain rfl := Except.error.inj hanswer
        rw [Procedure.runs_call_iff.mp hcall]
        exact .rejected
    · rw [Procedure.runs_call_iff.mp (runs_mapError_ok_iff.mp happly)]
      obtain ⟨_, configured, _, rfl, hconfig, hrest⟩ := runs_anyway_bind_iff.mp hrest
      rw [Procedure.runs_call_iff.mp hconfig]
      obtain ⟨_, restarted, _, rfl, hrestart, hrest⟩ := runs_anyway_bind_iff.mp hrest
      rw [Procedure.runs_call_iff.mp hrestart]
      obtain ⟨polls, ended, rfl, awaited, paced, rfl⟩ := (runs_awaiting_iff positive).mp hrest
      exact .installed awaited paced
  · intro course
    cases course with
    | @rejected e =>
      have hcall : Runs (Site.applyManifestFromUrl manifestUrl) [applying (.error e)] (.error e) :=
        Procedure.runs_call_iff.mpr rfl
      exact .inl ⟨_, runs_mapError_iff.mpr ⟨_, hcall, rfl⟩, rfl⟩
    | @installed configured restarted ended polls awaited paced =>
      have hcall : Runs (Site.applyManifestFromUrl manifestUrl) [applying (.ok ())] (.ok ()) :=
        Procedure.runs_call_iff.mpr rfl
      refine .inr ⟨_, (), _, rfl, runs_mapError_ok_iff.mpr hcall, ?_⟩
      refine runs_anyway_bind_iff.mpr
        ⟨[configuring cluster configured], configured, _, rfl, Procedure.runs_call_iff.mpr rfl, ?_⟩
      refine runs_anyway_bind_iff.mpr
        ⟨[restarting restarted], restarted, _, rfl, Procedure.runs_call_iff.mpr rfl, ?_⟩
      exact (runs_awaiting_iff positive).mpr ⟨polls, ended, rfl, awaited, paced, rfl⟩

/-- A listing is no request for the manifest, and neither is a pause. -/
theorem applying_notMem_polls (answer : Attempt Unit) (polls : List Readiness.Poll) :
    applying answer ∉ polls.flatMap (Readiness.Poll.events ns "") := by
  intro h
  obtain ⟨poll, -, hpoll⟩ := List.mem_flatMap.mp h
  rcases List.mem_cons.mp hpoll with heq | hlisting
  · cases heq
  · cases List.mem_singleton.mp hlisting

/-- An install fails exactly if the manifest was not applied. -/
theorem Course.error_iff (h : Course cluster interval events result) :
    (∃ e, result = .error e) ↔ ∃ e, applying (.error e) ∈ events := by
  cases h with
  | @rejected e => exact ⟨fun _ => ⟨e, List.mem_cons_self⟩, fun _ => ⟨_, rfl⟩⟩
  | @installed configured restarted ended polls awaited paced =>
    constructor
    · rintro ⟨_, h⟩
      cases h
    · rintro ⟨e, h⟩
      simp only [List.mem_cons] at h
      rcases h with heq | heq | heq | polled
      · cases heq
      · cases heq
      · cases heq
      · exact absurd polled (applying_notMem_polls _ polls)

/-- How an install bears with what fails. -/
structure Tolerates (cluster : ClusterTarget) (interval : Nat) (events : List (Event Site))
    (result : Attempt Report) : Prop where
  /-- If the manifest is applied all other steps are done, and those that failed make up the
  warnings. Otherwise nothing else is done, and the error names the manifest and the cluster. -/
  course : Course cluster interval events result
  failure : (∃ e, result = .error e) ↔ ∃ e, applying (.error e) ∈ events

/-- What runs an install can have, whatever the answers are. -/
theorem install_tolerates (positive : 0 < interval) :
    Runs (install cluster interval) events result ↔ Tolerates cluster interval events result := by
  rw [runs_iff_course positive]
  exact ⟨fun course => ⟨course, course.error_iff⟩, fun h => h.course⟩

end

/-- A site at which the network cannot be configured or restarted, and no pods ever get ready. -/
def barrenSite : (c : SiteCall) → c.Answer
  | .cluster (.updateConfigMap ..) => .error (.api .badRequest)
  | .cluster (.rolloutRestart ..) => .error (.api .connection)
  | .cluster (.listPods ..) => ⟨.error (.api .connection), 0⟩
  | c => Site.obliging c

theorem install_tolerates_barren :
    let run := Procedure.recorded (I := Site) barrenSite (install OvnInstaller.alpha 100000).run
    0 < 100000 ∧
      run.2.toOption = some ⟨"alpha", .flannel,
        [⟨"flannel-config", (Error.api .badRequest).text⟩,
          ⟨"flannel-restart", (Error.api .connection).text⟩,
          ⟨"readiness", (Error.notReady ns "" readinessTimeout).text⟩]⟩ ∧
      Tolerates OvnInstaller.alpha 100000 run.1 run.2 :=
  ⟨by decide, by decide +kernel,
    (install_tolerates (by decide)).mp (Procedure.runs_recorded (I := Site) barrenSite _)⟩

end PodNetwork.Install.Flannel
