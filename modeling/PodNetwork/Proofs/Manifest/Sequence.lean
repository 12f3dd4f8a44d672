import Mathlib.Data.List.Forall2
import PodNetwork.Manifest.Deploy
import PodNetwork.Proofs.Procedure.Runs

/-! The sequence of calls by which a plan is carried out.

A plan lays down its calls in advance, but for the contents of its files and the nodes that the
cluster lists. Whatever the answers are, a run makes these calls in their order and stops at the
first one that fails. Only a taint may fail to be removed without ending the run. -/
namespace PodNetwork.Manifest

open Routine
open Procedure (Event)

/-- A call of the sequence, with what the calls after it take from its answer. -/
inductive Action where
  | read (phase : Phase) (file : String) (content : Bytes)
  | apply (phase : Phase) (file : String) (content : Bytes)
  | applyUrl (url : String)
  | refresh
  | listNodes (listed : List Node)
  | label (node : String)
  | untaint (node key : String)

namespace Action

def call (dir : String) : Action → Site.Call
  | .read _ file _ => .host (.readFile (Path.join dir file))
  | .apply _ _ content => .cluster (.applyManifest content)
  | .applyUrl url => .cluster (.applyManifestFromUrl url)
  | .refresh => .cluster .invalidateDiscovery
  | .listNodes _ => .cluster .getNodes
  | .label node => .cluster (.labelNode node controlPlaneLabels)
  | .untaint node key => .cluster (.removeNodeTaint node key noSchedule)

/-- Whether an event is the action, answered so that the sequence goes on. It does not matter how
the removal of a taint is answered. -/
def Done (dir : String) : Action → Event Site → Prop
  | .read _ file content, e => e = ⟨.host (.readFile (Path.join dir file)), .ok content⟩
  | .apply _ _ content, e => e = ⟨.cluster (.applyManifest content), .ok ()⟩
  | .applyUrl url, e => e = ⟨.cluster (.applyManifestFromUrl url), .ok ()⟩
  | .refresh, e => e = ⟨.cluster .invalidateDiscovery, ()⟩
  | .listNodes listed, e => e = ⟨.cluster .getNodes, .ok listed⟩
  | .label node, e => e = ⟨.cluster (.labelNode node controlPlaneLabels), .ok ()⟩
  | .untaint node key, e =>
    ∃ answer, e = ⟨.cluster (.removeNodeTaint node key noSchedule), answer⟩

/-- Whether an event is the action, answered with an error, and which error ends the sequence
then. -/
def Fails (dir cluster : String) : Action → Event Site → Error → Prop
  | .read phase file _, e, error => ∃ inner : Error,
    e = ⟨.host (.readFile (Path.join dir file)), .error inner⟩ ∧
      error = .manifestUnreadable (Path.join dir file) phase.name inner.text
  | .apply phase file content, e, error => ∃ inner : Error,
    e = ⟨.cluster (.applyManifest content), .error inner⟩ ∧
      error = .manifestRejected file phase.name cluster inner.text
  | .applyUrl url, e, error => ∃ inner : Error,
    e = ⟨.cluster (.applyManifestFromUrl url), .error inner⟩ ∧
      error = .manifestRejected url Phase.externalCrds.name cluster inner.text
  | .listNodes _, e, error => e = ⟨.cluster .getNodes, .error error⟩
  | .label node, e, error => ∃ inner : Error,
    e = ⟨.cluster (.labelNode node controlPlaneLabels), .error inner⟩ ∧
      error = .nodeUnlabeled node cluster inner.text
  | .refresh, _, _ | .untaint .., _, _ => False

variable {dir cluster : String} {action : Action} {e : Event Site} {error : Error}

theorem Done.call_eq (h : action.Done dir e) : e.call = action.call dir := by
  cases action with
  | untaint node key =>
    obtain ⟨answer, rfl⟩ := h
    rfl
  | _ =>
    cases h
    rfl

theorem Fails.call_eq (h : action.Fails dir cluster e error) : e.call = action.call dir := by
  cases action with
  | refresh => exact h.elim
  | untaint node key => exact h.elim
  | listNodes listed =>
    cases h
    rfl
  | _ =>
    obtain ⟨inner, rfl, -⟩ := h
    rfl

theorem Fails.not_done (h : action.Fails dir cluster e error) : ¬action.Done dir e := by
  intro done
  cases action with
  | refresh => exact h
  | untaint node key => exact h
  | listNodes listed =>
    cases h
    cases done
  | _ =>
    obtain ⟨inner, rfl, -⟩ := h
    cases done

/-- The removal of a taint never ends the sequence. -/
theorem Fails.ne_removeNodeTaint (h : action.Fails dir cluster e error) (node key effect : String) :
    e.call ≠ .cluster (.removeNodeTaint node key effect) := by
  rw [h.call_eq]
  cases action with
  | untaint node key => exact h.elim
  | _ => exact nofun

end Action

/-- Events that follow a sequence of actions, up to its end or to the first action that fails. -/
inductive Follows (dir cluster : String) : List Action → List (Event Site) → Attempt Unit → Prop
  | finished : Follows dir cluster [] [] (.ok ())
  | step {action : Action} {rest : List Action} {e : Event Site} {events : List (Event Site)}
      {result : Attempt Unit} (done : action.Done dir e)
      (later : Follows dir cluster rest events result) :
      Follows dir cluster (action :: rest) (e :: events) result
  | stopped {action : Action} {rest : List Action} {e : Event Site} {error : Error}
      (fails : action.Fails dir cluster e error) :
      Follows dir cluster (action :: rest) [e] (.error error)

namespace Follows

variable {dir cluster : String} {actions later : List Action} {events more : List (Event Site)}
  {result : Attempt Unit} {error : Error}

theorem append (h : Follows dir cluster actions events (.ok ()))
    (hl : Follows dir cluster later more result) :
    Follows dir cluster (actions ++ later) (events ++ more) result := by
  generalize hr : (.ok () : Attempt Unit) = done at h
  induction h with
  | finished => exact hl
  | step done _ ih => exact .step done (ih hr)
  | stopped => cases hr

theorem append_error (h : Follows dir cluster actions events (.error error))
    (later : List Action) : Follows dir cluster (actions ++ later) events (.error error) := by
  generalize hr : (.error error : Attempt Unit) = ended at h
  induction h with
  | finished => cases hr
  | step done _ ih => exact .step done (ih hr)
  | stopped fails =>
    cases hr
    exact .stopped fails

theorem calls_prefix (h : Follows dir cluster actions events result) :
    events.map Event.call <+: actions.map (Action.call dir) := by
  induction h with
  | finished => exact List.prefix_refl _
  | step done _ ih =>
    rw [List.map_cons, List.map_cons, done.call_eq]
    exact (List.prefix_cons_inj _).mpr ih
  | stopped fails =>
    rw [List.map_cons, List.map_cons, fails.call_eq]
    exact (List.prefix_cons_inj _).mpr List.nil_prefix

theorem ok_iff (h : Follows dir cluster actions events result) :
    result = .ok () ↔ List.Forall₂ (Action.Done dir) actions events := by
  induction h with
  | finished => simp
  | step done _ ih => simp [ih, done]
  | stopped fails => simp [fails.not_done]

/-- A sequence that does not come to its end stops with its last event. -/
theorem exists_failure (h : Follows dir cluster actions events (.error error)) :
    ∃ made action rest before last, actions = made ++ action :: rest ∧ events = before ++ [last] ∧
      List.Forall₂ (Action.Done dir) made before ∧ action.Fails dir cluster last error := by
  generalize hr : (.error error : Attempt Unit) = ended at h
  induction h with
  | finished => cases hr
  | @step action rest e events result done _ ih =>
    obtain ⟨made, failing, unmade, before, last, rfl, rfl, hmade, hlast⟩ := ih hr
    exact ⟨action :: made, failing, unmade, e :: before, last, rfl, rfl, .cons done hmade, hlast⟩
  | @stopped action rest e error' fails =>
    cases hr
    exact ⟨[], action, rest, [], e, rfl, rfl, .nil, fails⟩

end Follows

/-- How a run that makes a sequence of actions goes, whatever the answers are. -/
structure InSequence (dir cluster : String) (actions : List Action) (events : List (Event Site))
    (result : Attempt Unit) : Prop where
  /-- The calls are made in the order of the sequence, none twice and none left out. -/
  calls : events.map Event.call <+: actions.map (Action.call dir)
  /-- The run succeeds exactly if every action is made, each with a good answer. -/
  success : result = .ok () ↔ List.Forall₂ (Action.Done dir) actions events
  /-- A failed run makes the actions up to some action, and that one fails as its last call. The
  error is that of this action, which is not the removal of a taint. -/
  failure : ∀ error, result = .error error →
    ∃ made action rest before last, actions = made ++ action :: rest ∧ events = before ++ [last] ∧
      List.Forall₂ (Action.Done dir) made before ∧ action.Fails dir cluster last error ∧
      ∀ node key effect, last.call ≠ .cluster (.removeNodeTaint node key effect)

theorem Follows.inSequence {dir cluster : String} {actions : List Action}
    {events : List (Event Site)} {result : Attempt Unit}
    (h : Follows dir cluster actions events result) :
    InSequence dir cluster actions events result := by
  refine ⟨h.calls_prefix, h.ok_iff, ?_⟩
  rintro error rfl
  obtain ⟨made, action, rest, before, last, hactions, hevents, hmade, hlast⟩ := h.exists_failure
  exact ⟨made, action, rest, before, last, hactions, hevents, hmade, hlast,
    hlast.ne_removeNodeTaint⟩

/-- A routine whose runs all follow one of some sequences. There is always one that may stand for
what is not made. -/
structure Keeps (dir cluster : String) (routine : Routine Unit) (possible : List Action → Prop) :
    Prop where
  some_possible : ∃ actions, possible actions
  follows : ∀ events result, Runs routine events result →
    ∃ actions, possible actions ∧ Follows dir cluster actions events result

section Keeps

variable {dir cluster : String} {routine later : Routine Unit} {possible next : List Action → Prop}

theorem Keeps.mono (h : Keeps dir cluster routine possible)
    (himp : ∀ actions, possible actions → next actions) : Keeps dir cluster routine next := by
  refine ⟨h.some_possible.imp himp, fun events result hruns => ?_⟩
  obtain ⟨actions, hpossible, hfollows⟩ := h.follows events result hruns
  exact ⟨actions, himp actions hpossible, hfollows⟩

theorem keeps_pure : Keeps dir cluster (pure ()) (· = []) := by
  refine ⟨⟨_, rfl⟩, fun events result h => ?_⟩
  obtain ⟨rfl, rfl⟩ := runs_pure_iff.mp h
  exact ⟨[], rfl, .finished⟩

/-- A sequence of routines follows the sequence of their actions. -/
theorem Keeps.bind (h : Keeps dir cluster routine possible) (hl : Keeps dir cluster later next) :
    Keeps dir cluster (routine >>= fun _ => later) fun actions =>
      ∃ first last, actions = first ++ last ∧ possible first ∧ next last := by
  obtain ⟨first, hfirst⟩ := h.some_possible
  obtain ⟨last, hlast⟩ := hl.some_possible
  refine ⟨⟨first ++ last, first, last, rfl, hfirst, hlast⟩, fun events result hruns => ?_⟩
  rcases runs_bind_iff.mp hruns with ⟨e, hx, rfl⟩ | ⟨before, _, after, rfl, hx, hy⟩
  · obtain ⟨made, hmade, hfollows⟩ := h.follows _ _ hx
    exact ⟨made ++ last, ⟨made, last, rfl, hmade, hlast⟩, hfollows.append_error last⟩
  · obtain ⟨made, hmade, hfollows⟩ := h.follows _ _ hx
    obtain ⟨more, hmore, hlater⟩ := hl.follows _ _ hy
    exact ⟨made ++ more, ⟨made, more, rfl, hmade, hmore⟩, hfollows.append hlater⟩

end Keeps

def fileActions (phase : Phase) (files : List (String × Bytes)) : List Action :=
  files.flatMap fun (file, content) => [.read phase file content, .apply phase file content]

def nodeActions (node : String) : List Action :=
  [.label node, .untaint node masterTaint, .untaint node controlPlaneLabel]

/-- The nodes of a control plane, given the nodes that the cluster lists. -/
def targets (roles : RoleAssignment) (cluster : String) (listed : List Node) : List String :=
  match roles.nodes cluster .master with
  | [] => (listed.filter fun n => n.labels.has controlPlaneLabel).map Node.name
  | assigned => assigned

/-- The cluster is asked for its nodes only if no masters are assigned. -/
def listingActions (roles : RoleAssignment) (cluster : String) (listed : List Node) :
    List Action :=
  if roles.nodes cluster .master = [] then [.listNodes listed] else []

def controlPlaneActions (roles : RoleAssignment) (cluster : String) (listed : List Node) :
    List Action :=
  listingActions roles cluster listed ++ (targets roles cluster listed).flatMap nodeActions

/-- What a plan does not lay down: the contents of its files, each phase with the names of the
files, and the nodes of the cluster. -/
structure Course where
  crds : List (String × Bytes)
  setup : List (String × Bytes)
  deployments : List (String × Bytes)
  listed : List Node

namespace Course

/-- Whether the contents are those of the files of a plan. -/
structure Fits (course : Course) (plan : Plan) : Prop where
  crds : course.crds.map Prod.fst = plan.crds
  setup : course.setup.map Prod.fst = plan.setup
  deployments : course.deployments.map Prod.fst = plan.deployments

/-- The whole sequence of actions. -/
def actions (course : Course) (plan : Plan) (cluster : String) (roles : RoleAssignment) :
    List Action :=
  fileActions .crds course.crds ++ (plan.externalCrds.map .applyUrl ++ ([.refresh] ++
    (fileActions .setup course.setup ++ (controlPlaneActions roles cluster course.listed ++
      fileActions .deployment course.deployments))))

end Course

section Phases

variable {dir cluster : String} {events : List (Event Site)}

/-- Reading and applying one file. Where it cannot be read, any content may stand for its own. -/
theorem keeps_applyFile {phase : Phase} {file : String} :
    Keeps dir cluster (applyFile phase dir cluster file) fun actions =>
      ∃ content, actions = [.read phase file content, .apply phase file content] := by
  refine ⟨⟨_, [], rfl⟩, fun events result h => ?_⟩
  rcases runs_bind_iff.mp h with ⟨e, hr, rfl⟩ | ⟨reading, content, applying, rfl, hr, ha⟩
  · obtain ⟨inner, hr, he⟩ := runs_mapError_iff.mp hr
    rw [Procedure.runs_call_iff.mp hr]
    cases inner with
    | ok content => cases he
    | error inner =>
      cases he
      exact ⟨_, ⟨[], rfl⟩, .stopped ⟨inner, rfl, rfl⟩⟩
  · obtain ⟨answer, hc, rfl⟩ := runs_mapError_iff.mp ha
    rw [Procedure.runs_call_iff.mp (runs_mapError_ok_iff.mp hr), Procedure.runs_call_iff.mp hc]
    refine ⟨_, ⟨content, rfl⟩, .step rfl ?_⟩
    cases answer with
    | ok => exact .step rfl .finished
    | error inner => exact .stopped ⟨inner, rfl, rfl⟩

theorem keeps_applyFiles {phase : Phase} {files : List String} :
    Keeps dir cluster (applyFiles phase dir cluster files) fun actions =>
      ∃ contents, contents.map Prod.fst = files ∧ actions = fileActions phase contents := by
  induction files with
  | nil => exact keeps_pure.mono fun _ h => ⟨[], rfl, h⟩
  | cons file files ih =>
    refine (Keeps.bind keeps_applyFile ih).mono ?_
    rintro _ ⟨_, _, rfl, ⟨content, rfl⟩, contents, rfl, rfl⟩
    exact ⟨(file, content) :: contents, rfl, rfl⟩

theorem keeps_applyUrls {urls : List String} :
    Keeps dir cluster (applyUrls .externalCrds cluster urls) (· = urls.map .applyUrl) := by
  have applied {url : String} :
      Keeps dir cluster (applyUrl .externalCrds cluster url) (· = [.applyUrl url]) := by
    refine ⟨⟨_, rfl⟩, fun events result h => ⟨_, rfl, ?_⟩⟩
    obtain ⟨answer, hc, rfl⟩ := runs_mapError_iff.mp h
    rw [Procedure.runs_call_iff.mp hc]
    cases answer with
    | ok => exact .step rfl .finished
    | error inner => exact .stopped ⟨inner, rfl, rfl⟩
  induction urls with
  | nil => exact keeps_pure
  | cons url urls ih =>
    refine (Keeps.bind applied ih).mono ?_
    rintro _ ⟨_, _, rfl, rfl, rfl⟩
    rfl

theorem keeps_invalidateDiscovery :
    Keeps dir cluster Site.invalidateDiscovery (· = [.refresh]) := by
  refine ⟨⟨_, rfl⟩, fun events result h => ⟨_, rfl, ?_⟩⟩
  obtain ⟨_, hc, rfl⟩ := runs_ask_iff.mp h
  rw [Procedure.runs_call_iff.mp hc]
  exact .step rfl .finished

theorem keeps_prepareNode {node : String} :
    Keeps dir cluster (prepareNode cluster node) (· = nodeActions node) := by
  refine ⟨⟨_, rfl⟩, fun events result h => ⟨_, rfl, ?_⟩⟩
  rcases runs_bind_iff.mp h with ⟨e, hl, rfl⟩ | ⟨labelling, _, taints, rfl, hl, ht⟩
  · obtain ⟨inner, hl, he⟩ := runs_mapError_iff.mp hl
    rw [Procedure.runs_call_iff.mp hl]
    cases inner with
    | ok => cases he
    | error inner =>
      cases he
      exact .stopped ⟨inner, rfl, rfl⟩
  · rw [Procedure.runs_call_iff.mp (runs_mapError_ok_iff.mp hl)]
    refine .step rfl ?_
    obtain ⟨_, _, _, rfl, hfirst, ht⟩ := runs_discard_outcome_bind_iff.mp ht
    obtain ⟨_, _, _, rfl, hsecond, ht⟩ := runs_discard_outcome_bind_iff.mp ht
    obtain ⟨rfl, rfl⟩ := runs_pure_iff.mp ht
    rw [Procedure.runs_call_iff.mp hfirst, Procedure.runs_call_iff.mp hsecond]
    exact .step ⟨_, rfl⟩ (.step ⟨_, rfl⟩ .finished)

theorem keeps_prepareNodes {nodes : List String} :
    Keeps dir cluster (prepareNodes cluster nodes) (· = nodes.flatMap nodeActions) := by
  induction nodes with
  | nil => exact keeps_pure
  | cons node nodes ih =>
    refine (Keeps.bind keeps_prepareNode ih).mono ?_
    rintro _ ⟨_, _, rfl, rfl, rfl⟩
    rfl

/-- The control plane of a cluster is prepared: its nodes are found out, and each is labelled. -/
def prepareControlPlane (cluster : String) (roles : RoleAssignment) : Routine Unit := do
  prepareNodes cluster (← controlPlaneNodes cluster roles)

theorem keeps_prepareControlPlane {roles : RoleAssignment} :
    Keeps dir cluster (prepareControlPlane cluster roles) fun actions =>
      ∃ listed, actions = controlPlaneActions roles cluster listed := by
  refine ⟨⟨_, [], rfl⟩, fun events result h => ?_⟩
  unfold prepareControlPlane controlPlaneNodes at h
  unfold controlPlaneActions listingActions targets
  cases hnodes : roles.nodes cluster .master with
  | nil =>
    rw [hnodes] at h
    simp only [bind_assoc, pure_bind] at h
    rcases runs_bind_iff.mp h with ⟨e, hg, rfl⟩ | ⟨listing, listed, after, rfl, hg, hp⟩
    · rw [Procedure.runs_call_iff.mp hg]
      exact ⟨_, ⟨[], rfl⟩, .stopped rfl⟩
    · obtain ⟨_, rfl, hfollows⟩ := keeps_prepareNodes.follows _ _ hp
      rw [Procedure.runs_call_iff.mp hg]
      exact ⟨_, ⟨listed, rfl⟩, .step rfl hfollows⟩
  | cons node nodes =>
    rw [hnodes, pure_bind] at h
    obtain ⟨_, rfl, hfollows⟩ := keeps_prepareNodes.follows _ _ h
    exact ⟨_, ⟨[], rfl⟩, hfollows⟩

theorem applyAll_eq (dir : String) (plan : Plan) (cluster : String) (roles : RoleAssignment) :
    applyAll dir plan cluster roles = (do
      applyFiles .crds dir cluster plan.crds
      applyUrls .externalCrds cluster plan.externalCrds
      Site.invalidateDiscovery
      applyFiles .setup dir cluster plan.setup
      prepareControlPlane cluster roles
      applyFiles .deployment dir cluster plan.deployments) := by
  simp only [applyAll, prepareControlPlane, bind_assoc]

theorem keeps_applyAll {plan : Plan} {roles : RoleAssignment} :
    Keeps dir cluster (applyAll dir plan cluster roles) fun actions =>
      ∃ course : Course, course.Fits plan ∧ actions = course.actions plan cluster roles := by
  rw [applyAll_eq]
  refine (keeps_applyFiles.bind <| keeps_applyUrls.bind <| keeps_invalidateDiscovery.bind <|
    keeps_applyFiles.bind <| keeps_prepareControlPlane.bind keeps_applyFiles).mono ?_
  rintro _ ⟨_, _, rfl, ⟨crds, hcrds, rfl⟩, _, _, rfl, rfl, _, _, rfl, rfl,
    _, _, rfl, ⟨setup, hsetup, rfl⟩, _, _, rfl, ⟨listed, rfl⟩, deployments, hdeployments, rfl⟩
  exact ⟨⟨crds, setup, deployments, listed⟩, ⟨hcrds, hsetup, hdeployments⟩, rfl⟩

end Phases

end PodNetwork.Manifest
