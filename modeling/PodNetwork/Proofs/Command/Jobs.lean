import PodNetwork.Command.Run
import PodNetwork.Proofs.Procedure.Runs

/-! Runs of jobs put together from runs of their parts.

A job may end early with a failure, as a routine may with an error. Work at the site is a run of a
routine whose events all carry the access under which the work is done. -/
namespace PodNetwork.Job

open Procedure (Event)

/-- A run of a job, which ends with a result or a failure. -/
abbrev Runs {α : Type} (job : Job α) (events : List (Event Workstation)) (outcome : Outcome α) :
    Prop := Procedure.Runs (I := Workstation) (ExceptT.run job) events outcome

/-- An event of a site, as a request under a given access. -/
def under (access : Option Access) (e : Event Site) : Event Workstation :=
  ⟨.site access e.call, e.answer⟩

variable {α β : Type} {events : List (Event Workstation)}

theorem runs_pure_iff {a : α} {outcome : Outcome α} :
    Runs (pure a) events outcome ↔ events = [] ∧ outcome = .ok a := Procedure.runs_done_iff

theorem runs_bind_iff {x : Job α} {f : α → Job β} {outcome : Outcome β} :
    Runs (x >>= f) events outcome ↔
      (∃ failure, Runs x events (.error failure) ∧ outcome = .error failure) ∨
      ∃ before a after, events = before ++ after ∧ Runs x before (.ok a) ∧
        Runs (f a) after outcome := Procedure.runs_exceptT_bind_iff

/-- The successful runs of a sequence. -/
theorem runs_bind_ok_iff {x : Job α} {f : α → Job β} {b : β} :
    Runs (x >>= f) events (.ok b) ↔
      ∃ before a after, events = before ++ after ∧ Runs x before (.ok a) ∧
        Runs (f a) after (.ok b) := by
  simp [runs_bind_iff]

/-- What is known already goes on as a value or ends a sequence as a failure. -/
theorem runs_ofOutcome_bind_iff {known : Outcome α} {f : α → Job β} {outcome : Outcome β} :
    Runs (ofOutcome known >>= f) events outcome ↔
      (∃ failure, known = .error failure ∧ events = [] ∧ outcome = .error failure) ∨
      ∃ a, known = .ok a ∧ Runs (f a) events outcome := by
  cases known with
  | error failure =>
    have ended : Runs (ofOutcome (.error failure) >>= f) events outcome ↔
        events = [] ∧ outcome = .error failure := Procedure.runs_done_iff
    simp [ended]
  | ok a =>
    have goes_on : Runs (ofOutcome (.ok a) >>= f) events outcome ↔
        Runs (f a) events outcome := Iff.rfl
    simp [goes_on]

theorem runs_ofAttempt_bind_iff {known : Attempt α} {f : α → Job β} {outcome : Outcome β} :
    Runs (ofAttempt known >>= f) events outcome ↔
      (∃ e, known = .error e ∧ events = [] ∧ outcome = .error (.work e)) ∨
      ∃ a, known = .ok a ∧ Runs (f a) events outcome := by
  cases known with
  | error e =>
    have ended : Runs (ofAttempt (.error e) >>= f) events outcome ↔
        events = [] ∧ outcome = .error (.work e) := Procedure.runs_done_iff
    simp [ended]
  | ok a =>
    have goes_on : Runs (ofAttempt (.ok a) >>= f) events outcome ↔
        Runs (f a) events outcome := Iff.rfl
    simp [goes_on]

theorem runs_print_bind_iff {text : String} {f : Unit → Job β} {outcome : Outcome β} :
    Runs (print text >>= f) events outcome ↔
      ∃ after, events = ⟨.print text, ()⟩ :: after ∧ Runs (f ()) after outcome := by
  refine Procedure.runs_ask_iff.trans ⟨?_, ?_⟩
  · rintro ⟨_, after, rfl, h⟩
    exact ⟨after, rfl, h⟩
  · rintro ⟨after, rfl, h⟩
    exact ⟨(), after, rfl, h⟩

/-- Reading the credentials of a cluster is reading one file, whose content tells the server. -/
theorem runs_connect_bind_iff {config : Config} {cluster : String} {f : Access → Job β}
    {outcome : Outcome β} :
    Runs (connect config cluster >>= f) events outcome ↔
      ∃ content after, events = ⟨.load (config.kubeconfigPath cluster), content⟩ :: after ∧
        ((∃ e, Kubernetes.Kubeconfig.connect (config.kubeconfigPath cluster) content.toOption =
            .error e ∧ after = [] ∧ outcome = .error (.work e)) ∨
          ∃ server, Kubernetes.Kubeconfig.connect (config.kubeconfigPath cluster)
              content.toOption = .ok server ∧ Runs (f ⟨cluster, server⟩) after outcome) := by
  unfold connect
  simp only [bind_assoc, pure_bind]
  refine Procedure.runs_ask_iff.trans ?_
  exact exists_congr fun content => exists_congr fun after =>
    and_congr_right fun _ => runs_ofAttempt_bind_iff

/-- A procedure at a site has the same runs under an access. -/
theorem runs_expand_iff {access : Option Access} {p : Procedure Site α} {a : α} :
    Procedure.Runs (I := Workstation)
        (p.expand (J := Workstation) fun call => .call (I := Workstation) (.site access call))
        events a ↔
      ∃ inner, Procedure.Runs p inner a ∧ events = inner.map (under access) := by
  induction p generalizing events with
  | done b =>
    simp only [Procedure.expand, Procedure.runs_done_iff]
    constructor
    · rintro ⟨rfl, rfl⟩
      exact ⟨[], ⟨rfl, rfl⟩, rfl⟩
    · rintro ⟨_, ⟨rfl, rfl⟩, rfl⟩
      exact ⟨rfl, rfl⟩
  | ask c next ih =>
    refine Procedure.runs_ask_iff.trans ?_
    simp only [Procedure.runs_ask_iff]
    constructor
    · rintro ⟨answer, rest, rfl, h⟩
      obtain ⟨inner, hinner, rfl⟩ := (ih answer).mp h
      exact ⟨⟨c, answer⟩ :: inner, ⟨answer, inner, rfl, hinner⟩, rfl⟩
    · rintro ⟨_, ⟨answer, inner, rfl, hinner⟩, rfl⟩
      exact ⟨answer, inner.map (under access), rfl, (ih answer).mpr ⟨inner, hinner, rfl⟩⟩

theorem runs_work_iff {access : Option Access} {routine : Routine α} {outcome : Outcome α} :
    Runs (work access routine) events outcome ↔
      ∃ inner result, Routine.Runs routine inner result ∧ events = inner.map (under access) ∧
        outcome = result.mapError .work := by
  refine Procedure.runs_bind_iff.trans ⟨?_, ?_⟩
  · rintro ⟨before, result, after, rfl, h, h'⟩
    obtain ⟨rfl, rfl⟩ := Procedure.runs_done_iff.mp h'
    obtain ⟨inner, hinner, rfl⟩ := runs_expand_iff.mp h
    exact ⟨inner, result, hinner, List.append_nil _, rfl⟩
  · rintro ⟨inner, result, hinner, rfl, rfl⟩
    refine ⟨_, result, [], (List.append_nil _).symm, runs_expand_iff.mpr ⟨inner, hinner, rfl⟩, ?_⟩
    exact .done _

theorem runs_work_ok_iff {access : Option Access} {routine : Routine α} {a : α} :
    Runs (work access routine) events (.ok a) ↔
      ∃ inner, Routine.Runs routine inner (.ok a) ∧ events = inner.map (under access) := by
  rw [runs_work_iff]
  constructor
  · rintro ⟨inner, e | value, runs, rfl, told⟩
    · cases told
    · cases told
      exact ⟨inner, runs, rfl⟩
  · rintro ⟨inner, runs, rfl⟩
    exact ⟨inner, .ok a, runs, rfl, rfl⟩

end PodNetwork.Job
