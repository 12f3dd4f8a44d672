import PodNetwork.Proofs.Command.Jobs
import PodNetwork.Proofs.Config.Acceptance
import PodNetwork.Proofs.Engine.Driving
import PodNetwork.Proofs.Install.Telling

/-! How commands work on clusters.

The clusters that a command is asked to work on have their turns one after the other, in the order
of the configuration. A turn that succeeds is told of before the next one begins, and the first one
that fails is the last. All that is asked for in a turn concerns its own cluster, so a cluster that
had no turn was not contacted. -/
namespace PodNetwork

open Procedure (Event)

namespace Job

/-- The work on a cluster: what was asked for, and what there is to tell of it or why it failed. -/
structure Turn where
  cluster : Config.Cluster
  events : List (Event Workstation)
  result : Outcome String

def Turn.record (turn : Turn) : List (Event Workstation) :=
  turn.events ++ turn.result.toOption.toList.map fun text => ⟨.print text, ()⟩

@[simp] theorem Turn.record_ok (cluster : Config.Cluster) (events : List (Event Workstation))
    (text : String) :
    (⟨cluster, events, .ok text⟩ : Turn).record = events ++ [⟨.print text, ()⟩] := rfl

@[simp] theorem Turn.record_error (cluster : Config.Cluster) (events : List (Event Workstation))
    (failure : Failure) : (⟨cluster, events, .error failure⟩ : Turn).record = events :=
  List.append_nil _

/-- How turns end the work on clusters: with that of the last cluster, or with the first that
fails, whatever clusters come later. -/
inductive Ends (clusters : List Config.Cluster) : List Turn → Outcome Unit → Prop where
  | finished {turns : List Turn} (told : ∀ turn ∈ turns, ∃ text, turn.result = .ok text)
      (all : clusters = turns.map Turn.cluster) : Ends clusters turns (.ok ())
  | stopped (done : List Turn) {last : Turn} {later : List Config.Cluster} {failure : Failure}
      (told : ∀ turn ∈ done, ∃ text, turn.result = .ok text)
      (failed : last.result = .error failure)
      (next : clusters = done.map Turn.cluster ++ last.cluster :: later) :
      Ends clusters (done ++ [last]) (.error failure)

section

variable {events : List (Event Workstation)} {clusters : List Config.Cluster}
  {turns : List Turn} {outcome : Outcome Unit}

theorem Ends.cons (turn : Turn) (told : ∃ text, turn.result = .ok text)
    (h : Ends clusters turns outcome) :
    Ends (turn.cluster :: clusters) (turn :: turns) outcome := by
  cases h with
  | finished rest all =>
    exact .finished (List.forall_mem_cons.mpr ⟨told, rest⟩) (congrArg (turn.cluster :: ·) all)
  | @stopped done last later failure rest failed next =>
    exact .stopped (turn :: done) (List.forall_mem_cons.mpr ⟨told, rest⟩) failed
      (congrArg (turn.cluster :: ·) next)

theorem Ends.split (h : Ends clusters turns outcome) :
    clusters = turns.map Turn.cluster ++ clusters.drop turns.length := by
  cases h with
  | finished _ all => simp [all]
  | @stopped done last later failure _ _ next =>
    have split : clusters = (done ++ [last]).map Turn.cluster ++ later := by simp [next]
    have length : (done ++ [last]).length = ((done ++ [last]).map Turn.cluster).length := by simp
    rw [length, split, List.drop_left]

theorem Ends.cluster_mem (h : Ends clusters turns outcome) {turn : Turn} (hturn : turn ∈ turns) :
    turn.cluster ∈ clusters := by
  rw [h.split]
  exact List.mem_append_left _ (List.mem_map_of_mem hturn)

/-- A cluster that comes after the turns has another name than any cluster that had one. -/
theorem Ends.name_ne (h : Ends clusters turns outcome)
    (distinct : (clusters.map Config.Cluster.name).Nodup) {turn : Turn} (hturn : turn ∈ turns)
    {cluster : Config.Cluster} (later : cluster ∈ clusters.drop turns.length) :
    turn.cluster.name ≠ cluster.name := by
  rw [h.split, List.map_append] at distinct
  exact (List.nodup_append.mp distinct).2.2 _ (List.mem_map_of_mem (List.mem_map_of_mem hturn)) _
    (List.mem_map_of_mem later)

/-- Work on each of some clusters is made up of turns. -/
theorem ends_of_runs_onEach {work : Config.Cluster → Job String}
    (h : Runs (onEach work clusters) events outcome) :
    ∃ turns, Ends clusters turns outcome ∧ events = turns.flatMap Turn.record ∧
      ∀ turn ∈ turns, Runs (work turn.cluster) turn.events turn.result := by
  induction clusters generalizing events with
  | nil =>
    obtain ⟨rfl, rfl⟩ := runs_pure_iff.mp h
    exact ⟨[], .finished (by simp) rfl, rfl, by simp⟩
  | cons cluster rest ih =>
    rw [onEach] at h
    rcases runs_bind_iff.mp h with ⟨failure, failed, rfl⟩ | ⟨before, text, after, rfl, hwork, h⟩
    · let turn : Turn := ⟨cluster, events, .error failure⟩
      refine ⟨[turn], .stopped [] (by simp) (rfl : turn.result = _) rfl, ?_, ?_⟩
      · simp [turn]
      · simpa [turn] using failed
    · obtain ⟨after, rfl, hrest⟩ := runs_print_bind_iff.mp h
      obtain ⟨turns, ends, rfl, each⟩ := ih hrest
      let turn : Turn := ⟨cluster, before, .ok text⟩
      refine ⟨turn :: turns, ends.cons turn ⟨text, rfl⟩, ?_, ?_⟩
      · simp [turn]
      · exact List.forall_mem_cons.mpr ⟨hwork, each⟩

end

/-! ### What events show -/

section

variable {events more : List (Event Workstation)}

def accesses (events : List (Event Workstation)) : List Access :=
  events.filterMap fun e => match e.call with
    | .site access _ => access
    | _ => none

/-- The clusters that are contacted, as often as they are. -/
def contacts (events : List (Event Workstation)) : List String :=
  (accesses events).map Access.cluster

def loads (events : List (Event Workstation)) : List String :=
  events.filterMap fun e => match e.call with
    | .load path => some path
    | _ => none

def printed (events : List (Event Workstation)) : List String :=
  events.filterMap fun e => match e.call with
    | .print text => some text
    | _ => none

/-- A request at the site that is made without access to any cluster, as only those are by which an
engine is looked for. -/
def IsDetection (e : Event Workstation) : Prop := ∃ call, e.call = .site none call

@[simp] theorem loads_load_cons {path : String} {content : Except SystemFault Bytes} :
    loads (⟨.load path, content⟩ :: events) = path :: loads events := rfl

@[simp] theorem printed_load_cons {path : String} {content : Except SystemFault Bytes} :
    printed (⟨.load path, content⟩ :: events) = printed events := rfl

@[simp] theorem accesses_load_cons {path : String} {content : Except SystemFault Bytes} :
    accesses (⟨.load path, content⟩ :: events) = accesses events := rfl

@[simp] theorem accesses_append : accesses (events ++ more) = accesses events ++ accesses more :=
  List.filterMap_append

@[simp] theorem loads_append : loads (events ++ more) = loads events ++ loads more :=
  List.filterMap_append

@[simp] theorem printed_append : printed (events ++ more) = printed events ++ printed more :=
  List.filterMap_append

section

variable {access : Option Access} {inner : List (Event Site)}

@[simp] theorem loads_under : loads (inner.map (under access)) = [] := by simp [loads, under]

@[simp] theorem printed_under : printed (inner.map (under access)) = [] := by simp [printed, under]

/-- Work at the site makes its requests under the access that it has. -/
theorem eq_of_mem_accesses {a : Access} (h : a ∈ accesses (inner.map (under access))) :
    access = some a := by
  obtain ⟨e, he, contact⟩ := List.mem_filterMap.mp h
  obtain ⟨_, -, rfl⟩ := List.mem_map.mp he
  exact contact

end

end

/-- An access made in a turn: to its own cluster, at the server that the credentials name which the
turn read. -/
def Turn.Reaches (config : Config) (turn : Turn) (access : Access) : Prop :=
  access.cluster = turn.cluster.name ∧
    ∃ content, ⟨.load (config.kubeconfigPath turn.cluster.name), content⟩ ∈ turn.events ∧
      Kubernetes.Kubeconfig.connect (config.kubeconfigPath turn.cluster.name) content.toOption =
        .ok access.server

end Job

namespace Setting

open Job

/-- Everything that the installer of a cluster needs. -/
def context (setting : Setting) (ref : Option String) : Install.Context where
  engine := setting.engine
  source := setting.source
  roles := setting.config.roles
  containerNodes := setting.config.isContainerized
  ovn := setting.config.ovnOptions ref

/-- A routine whose requests of an engine, if there is one, go to its program. -/
def driven {α : Type} (setting : Setting) (routine : Routine α) : Routine α :=
  match setting.engine with
  | some engine => engine.drive routine
  | none => routine

/-- How the result of a routine shows in that of a turn: by a text that tells of it, or as the
failure. -/
inductive Shows {α : Type} (tells : α → String → Prop) : Attempt α → Outcome String → Prop where
  | told {a : α} {text : String} (h : tells a text) : Shows tells (.ok a) (.ok text)
  | failed (e : Error) : Shows tells (.error e) (.error (.work e))

/-- The ways in which the turn of a cluster can go, given the target, the routine that is carried
out with the installer and which texts tell of its result. The credentials of the cluster come
first, and all requests are made under the access that they give. -/
inductive Works {α : Type} (setting : Setting) (ref apiServer : Option String)
    (routine : Install.Installer → ClusterTarget → Routine α)
    (tells : Config.Cluster → α → String → Prop) : Turn → Prop where
  | untargeted {cluster : Config.Cluster} {failure : Failure}
      (untargeted : setting.config.targetOf cluster apiServer = .error failure) :
      Works setting ref apiServer routine tells ⟨cluster, [], .error failure⟩
  | unconnected {cluster : Config.Cluster} {target : ClusterTarget} {e : Error}
      {content : Except SystemFault Bytes}
      (targeted : setting.config.targetOf cluster apiServer = .ok target)
      (unconnected : Kubernetes.Kubeconfig.connect (setting.config.kubeconfigPath cluster.name)
        content.toOption = .error e) :
      Works setting ref apiServer routine tells
        ⟨cluster, [⟨.load (setting.config.kubeconfigPath cluster.name), content⟩],
          .error (.work e)⟩
  | worked {cluster : Config.Cluster} {target : ClusterTarget} {server : String}
      {content : Except SystemFault Bytes} {installer : Install.Installer}
      {inner : List (Event Site)} {result : Attempt α} {shown : Outcome String}
      (targeted : setting.config.targetOf cluster apiServer = .ok target)
      (connected : Kubernetes.Kubeconfig.connect (setting.config.kubeconfigPath cluster.name)
        content.toOption = .ok server)
      (equipped : Install.Installer.ofCni (setting.context ref) cluster.cni = .ok installer)
      (runs : Routine.Runs (setting.driven (routine installer target)) inner result)
      (shows : Shows (tells cluster) result shown) :
      Works setting ref apiServer routine tells
        ⟨cluster, ⟨.load (setting.config.kubeconfigPath cluster.name), content⟩ ::
          inner.map (under (some ⟨cluster.name, server⟩)), shown⟩

/-- Whether a text tells that a cluster was worked on, and the warnings of that. -/
def TellsOf (action : String) (cluster : Config.Cluster) (report : Install.Report)
    (text : String) : Prop :=
  report.Concerns cluster.name cluster.cni ∧ report.Tells action text

/-- Whether a text tells of a redeploy, or that the plugin of the cluster has none. -/
inductive TellsOfRedeploy (cluster : Config.Cluster) : Install.Redeployment → String → Prop where
  | redeployed {report : Install.Report} {text : String}
      (h : TellsOf "redeployed" cluster report text) :
      TellsOfRedeploy cluster (.redeployed report) text
  | skipped {plugin : String} (named : Cni.ofName? plugin = some cluster.cni) :
      TellsOfRedeploy cluster (.unsupported cluster.cni)
        (plugin ++ " does not support redeploy, skipped " ++ cluster.name ++ "\n")

def Installs (setting : Setting) (ref apiServer : Option String) : Turn → Prop :=
  setting.Works ref apiServer (fun installer target => installer.install target)
    (TellsOf "installed")

def Redeploys (setting : Setting) : Turn → Prop :=
  setting.Works none none (fun installer target => installer.redeploy target) TellsOfRedeploy

section

variable {α : Type} {setting : Setting} {ref apiServer : Option String} {cluster : Config.Cluster}
  {target : ClusterTarget} {installer : Install.Installer} {events : List (Event Workstation)}

theorem name_of_targetOf {config : Config}
    (h : config.targetOf cluster apiServer = .ok target) : target.name = cluster.name := by
  unfold Config.targetOf Config.target at h
  cases apiServer with
  | some host =>
    obtain rfl := Except.ok.inj h
    rfl
  | none =>
    cases found : config.apiServerHost cluster.name with
    | error fault =>
      rw [found] at h
      cases h
    | ok host =>
      rw [found] at h
      obtain rfl := Except.ok.inj h
      rfl

/-- A driven routine runs as it does by itself, and what it asks of an engine is carried out. -/
theorem runs_of_driven {routine : Routine α} {commands : List (Event Site)} {result : Attempt α}
    (h : Routine.Runs (setting.driven routine) commands result) :
    ∃ requests, Routine.Runs routine requests result ∧
      (setting.engine = none ∧ requests = commands ∨
        ∃ engine, setting.engine = some engine ∧
          List.Forall₂ (EngineName.Carries engine) requests commands) := by
  unfold driven at h
  cases known : setting.engine with
  | none =>
    rw [known] at h
    exact ⟨commands, h, .inl ⟨rfl, rfl⟩⟩
  | some engine =>
    rw [known] at h
    obtain ⟨requests, runs, carried⟩ := EngineName.runs_drive_iff.mp h
    exact ⟨requests, runs, .inr ⟨engine, rfl, carried⟩⟩

/-- Work that goes on with the result of a routine, once the ways in which it tells of it are
known. -/
theorem works_of_runs {routine : Install.Installer → ClusterTarget → Routine α}
    {tell : α → String} {tells : Config.Cluster → α → String → Prop} {result : Outcome String}
    (equipped : ∃ installer, Install.Installer.ofCni (setting.context ref) cluster.cni =
      .ok installer)
    (telling : ∀ {installer target requests a}, installer.cni = cluster.cni →
      target.name = cluster.name → Routine.Runs (routine installer target) requests (.ok a) →
      tells cluster a (tell a))
    (h : Runs (do
      let target ← ofOutcome (setting.config.targetOf cluster apiServer)
      let access ← connect setting.config cluster.name
      let installer ← setting.installer cluster ref
      let a ← setting.perform access (routine installer target)
      return tell a) events result) :
    setting.Works ref apiServer routine tells ⟨cluster, events, result⟩ := by
  obtain ⟨installer, equipped⟩ := equipped
  have known : setting.installer cluster ref = ofAttempt (.ok installer) := by
    rw [← equipped]
    rfl
  rcases runs_ofOutcome_bind_iff.mp h with ⟨failure, htarget, rfl, rfl⟩ | ⟨target, htarget, h⟩
  · exact .untargeted htarget
  obtain ⟨content, after, rfl, ⟨e, unconnected, rfl, rfl⟩ | ⟨server, connected, h⟩⟩ :=
    runs_connect_bind_iff.mp h
  · exact .unconnected htarget unconnected
  rw [known] at h
  rcases runs_ofAttempt_bind_iff.mp h with ⟨_, absent, -⟩ | ⟨_, here, h⟩
  · cases absent
  obtain rfl := Except.ok.inj here
  rcases runs_bind_iff.mp h with ⟨failure, failed, rfl⟩ | ⟨_, a, _, rfl, hwork, hpure⟩
  · obtain ⟨inner, result, runs, rfl, told⟩ := runs_work_iff.mp failed
    cases result with
    | ok a => cases told
    | error e =>
      cases told
      exact .worked htarget connected equipped runs (.failed e)
  · obtain ⟨inner, runs, rfl⟩ := runs_work_ok_iff.mp hwork
    obtain ⟨rfl, rfl⟩ := runs_pure_iff.mp hpure
    rw [List.append_nil]
    obtain ⟨requests, asked, -⟩ := runs_of_driven runs
    exact .worked htarget connected equipped runs
      (.told (telling (Install.Installer.cni_ofCni equipped) (name_of_targetOf htarget) asked))

theorem installs_of_runs {result : Outcome String}
    (equipped : ∃ installer, Install.Installer.ofCni (setting.context ref) cluster.cni =
      .ok installer)
    (h : Runs (setting.install ref apiServer cluster) events result) :
    setting.Installs ref apiServer ⟨cluster, events, result⟩ := by
  refine works_of_runs equipped (fun {installer target requests report} kind named runs => ?_) h
  have concerns := Install.Installer.concerns_of_install runs
  rw [kind, named] at concerns
  exact ⟨concerns, report.tells_summary "installed"⟩

def redeployLine (cluster : Config.Cluster) : Install.Redeployment → String
  | .redeployed report => report.summary "redeployed"
  | .unsupported cni => skipLine cni cluster.name

theorem redeploys_of_runs {result : Outcome String}
    (equipped : ∃ installer, Install.Installer.ofCni (setting.context none) cluster.cni =
      .ok installer)
    (h : Runs (setting.redeploy cluster) events result) :
    setting.Redeploys ⟨cluster, events, result⟩ := by
  have told : setting.redeploy cluster = (do
      let target ← ofOutcome (setting.config.targetOf cluster none)
      let access ← connect setting.config cluster.name
      let installer ← setting.installer cluster none
      let redeployment ← setting.perform access (installer.redeploy target)
      return redeployLine cluster redeployment) := by
    refine bind_congr fun target => bind_congr fun access => bind_congr fun installer =>
      bind_congr fun redeployment => ?_
    cases redeployment <;> rfl
  rw [told] at h
  refine works_of_runs equipped (fun {installer target requests _} kind named runs => ?_) h
  rcases Install.Installer.concerns_of_redeploy runs with ⟨report, rfl, concerns⟩ | rfl
  · rw [kind, named] at concerns
    exact .redeployed ⟨concerns, report.tells_summary "redeployed"⟩
  · rw [kind]
    exact .skipped (Cni.ofName?_name _)

end

/-! ### What a turn shows -/

section

variable {α : Type} {setting : Setting} {ref apiServer : Option String}
  {routine : Install.Installer → ClusterTarget → Routine α}
  {tells : Config.Cluster → α → String → Prop} {turn : Turn}

/-- Only the cluster whose turn it is is contacted, and where its credentials lead. -/
theorem Works.reached (h : setting.Works ref apiServer routine tells turn) :
    ∀ access ∈ accesses turn.events, turn.Reaches setting.config access := by
  intro access haccess
  cases h with
  | untargeted _ => cases haccess
  | unconnected _ _ => cases haccess
  | worked _ connected =>
    cases eq_of_mem_accesses haccess
    exact ⟨rfl, _, List.mem_cons_self, connected⟩

theorem Works.loads_sublist (h : setting.Works ref apiServer routine tells turn) :
    (loads turn.events).Sublist [setting.config.kubeconfigPath turn.cluster.name] := by
  cases h with
  | untargeted _ => exact List.nil_sublist _
  | unconnected _ _ => exact List.Sublist.refl _
  | worked => simp

theorem Works.printed_eq (h : setting.Works ref apiServer routine tells turn) :
    printed turn.events = [] := by
  cases h with
  | untargeted _ => rfl
  | unconnected _ _ => rfl
  | worked => simp

theorem Works.not_isDetection (h : setting.Works ref apiServer routine tells turn) :
    ∀ e ∈ turn.events, ¬ IsDetection e := by
  rintro e he ⟨call, hcall⟩
  cases h with
  | untargeted _ => cases he
  | unconnected _ _ =>
    obtain rfl := List.mem_singleton.mp he
    cases hcall
  | worked =>
    rcases List.mem_cons.mp he with rfl | he
    · cases hcall
    · obtain ⟨_, -, rfl⟩ := List.mem_map.mp he
      cases hcall

end

end Setting

end PodNetwork
