import PodNetwork.Proofs.Command.Turns

/-! How commands that work on clusters go from beginning to end.

A command picks its clusters, looks for an engine if one of them needs one, and then works on them
turn by turn. Looking for an engine is done before anything is asked of a cluster, for the same
clusters that then have their turns, so no turn fails for want of an engine. -/
namespace PodNetwork

open Procedure (Event)

namespace Config

variable {config : Config} {name apiServer : Option String} {clusters : List Cluster}

theorem cluster_mem {wanted : String} {cluster : Cluster} (h : config.cluster wanted = .ok cluster) :
    cluster ∈ config.clusters := by
  unfold Config.cluster at h
  split at h
  · next found =>
    obtain rfl := Except.ok.inj h
    exact List.mem_of_find?_eq_some found
  · cases h

theorem select_sublist (h : config.select name = .ok clusters) :
    clusters.Sublist config.clusters := by
  cases name with
  | none =>
    obtain rfl := Except.ok.inj h
    exact List.Sublist.refl _
  | some wanted =>
    rw [select] at h
    cases found : config.cluster wanted with
    | error failure =>
      rw [found] at h
      cases h
    | ok cluster =>
      rw [found] at h
      obtain rfl := Except.ok.inj h
      exact List.singleton_sublist.mpr (cluster_mem found)

/-- What is picked are clusters of the configuration, in its order, and at most one of them if a
host of the API server is asked for. -/
theorem selected_ok (h : config.selected name apiServer = .ok clusters) :
    clusters.Sublist config.clusters ∧ (apiServer.isSome = true → clusters.length ≤ 1) := by
  unfold selected at h
  cases picked : config.select name with
  | error failure =>
    rw [picked] at h
    cases h
  | ok all =>
    rw [picked] at h
    by_cases ambiguous : apiServer.isSome = true ∧ 1 < all.length
    · simp [bind, Except.bind, ambiguous, throw, throwThe, MonadExceptOf.throw] at h
    · have same : all = clusters := by
        simpa [bind, Except.bind, ambiguous, pure, Except.pure] using h
      subst same
      refine ⟨select_sublist picked, fun asked => ?_⟩
      by_contra several
      exact ambiguous ⟨asked, by omega⟩

end Config

namespace EnginePreference

/-- An engine cannot be found without asking the host. -/
theorem detect_asks (preference : EnginePreference) {events : List (Event Site)}
    {result : Attempt EngineName} (h : Routine.Runs preference.detect events result) :
    events ≠ [] := by
  have asks : ∃ call next, ExceptT.run preference.detect = Procedure.ask (I := Site) call next := by
    cases preference <;> exact ⟨_, _, rfl⟩
  obtain ⟨call, next, asks⟩ := asks
  rw [Routine.Runs, asks] at h
  obtain ⟨_, _, rfl, -⟩ := Procedure.runs_ask_iff.mp h
  exact List.cons_ne_nil _ _

end EnginePreference

namespace Job

/-- The setting of working on clusters with an engine, or with none. -/
def settingWith (config : Config) (host : HostOptions) (engine : Option EngineName) : Setting :=
  { config, engine, source := { projectRoot := host.projectRoot } }

/-- What comes before the turns: nothing, unless a cluster needs an engine. -/
inductive Prepares (config : Config) (host : HostOptions) (clusters : List Config.Cluster) :
    List (Event Workstation) → Outcome Setting → Prop where
  | plain (unneeded : ∀ cluster ∈ clusters, cluster.cni ≠ .ovnKubernetes) :
      Prepares config host clusters [] (.ok (settingWith config host none))
  | equipped {inner : List (Event Site)} {engine : EngineName}
      (needed : ∃ cluster ∈ clusters, cluster.cni = .ovnKubernetes)
      (detected : Routine.Runs host.engine.detect inner (.ok engine)) :
      Prepares config host clusters (inner.map (under none))
        (.ok (settingWith config host (some engine)))
  | missing {inner : List (Event Site)} {e : Error}
      (needed : ∃ cluster ∈ clusters, cluster.cni = .ovnKubernetes)
      (undetected : Routine.Runs host.engine.detect inner (.error e)) :
      Prepares config host clusters (inner.map (under none)) (.error (.work e))

section

variable {config : Config} {host : HostOptions} {clusters : List Config.Cluster}
  {events : List (Event Workstation)}

theorem needsEngine_iff :
    Setting.needsEngine clusters = true ↔ ∃ cluster ∈ clusters, cluster.cni = .ovnKubernetes := by
  simp [Setting.needsEngine]

theorem prepares_of_runs {outcome : Outcome Setting}
    (h : Runs (Setting.prepare config host clusters) events outcome) :
    Prepares config host clusters events outcome := by
  unfold Setting.prepare at h
  cases need : Setting.needsEngine clusters with
  | false =>
    rw [need] at h
    obtain ⟨rfl, rfl⟩ := runs_pure_iff.mp h
    refine .plain fun cluster listed needed => ?_
    have found := needsEngine_iff.mpr ⟨cluster, listed, needed⟩
    exact absurd (need.symm.trans found) Bool.false_ne_true
  | true =>
    have needed := needsEngine_iff.mp need
    rw [need, if_pos rfl] at h
    simp only [map_eq_pure_bind, bind_assoc, pure_bind] at h
    rcases runs_bind_iff.mp h with ⟨failure, failed, rfl⟩ | ⟨_, engine, _, rfl, found, rest⟩
    · obtain ⟨inner, result, runs, rfl, told⟩ := runs_work_iff.mp failed
      cases result with
      | ok engine => cases told
      | error e =>
        cases told
        exact .missing needed runs
    · obtain ⟨inner, result, runs, rfl, told⟩ := runs_work_iff.mp found
      obtain ⟨rfl, rfl⟩ := runs_pure_iff.mp rest
      cases result with
      | error e => cases told
      | ok value =>
        cases told
        rw [List.append_nil]
        exact .equipped needed runs

theorem Prepares.isDetection {outcome : Outcome Setting}
    (h : Prepares config host clusters events outcome) : ∀ e ∈ events, IsDetection e := by
  have asked (inner : List (Event Site)) : ∀ e ∈ inner.map (under none), IsDetection e := by
    intro e he
    obtain ⟨event, -, rfl⟩ := List.mem_map.mp he
    exact ⟨event.call, rfl⟩
  cases h with
  | plain _ => exact fun e he => absurd he List.not_mem_nil
  | equipped _ _ => exact asked _
  | missing _ _ => exact asked _

theorem Prepares.ne_nil_iff {outcome : Outcome Setting}
    (h : Prepares config host clusters events outcome) :
    events ≠ [] ↔ ∃ cluster ∈ clusters, cluster.cni = .ovnKubernetes := by
  cases h with
  | plain unneeded =>
    refine iff_of_false (fun ne => ne rfl) ?_
    rintro ⟨cluster, listed, needed⟩
    exact unneeded cluster listed needed
  | equipped needed detected =>
    refine iff_of_true ?_ needed
    simpa using EnginePreference.detect_asks _ detected
  | missing needed undetected =>
    refine iff_of_true ?_ needed
    simpa using EnginePreference.detect_asks _ undetected

/-- With what was prepared there is an installer for each of the clusters. -/
theorem Prepares.installer {setting : Setting}
    (h : Prepares config host clusters events (.ok setting)) (ref : Option String) :
    ∀ cluster ∈ clusters, ∃ installer,
      Install.Installer.ofCni (setting.context ref) cluster.cni = .ok installer := by
  intro cluster listed
  cases hcni : cluster.cni with
  | flannel => exact ⟨_, rfl⟩
  | kindnet => exact ⟨_, rfl⟩
  | ovnKubernetes =>
    cases h with
    | plain unneeded => exact absurd hcni (unneeded cluster listed)
    | equipped _ _ => exact ⟨_, rfl⟩

/-- How the chosen clusters are dealt with: they have their turns if there is what they need. -/
inductive Course (config : Config) (host : HostOptions) (clusters : List Config.Cluster)
    (works : Setting → Turn → Prop) : List (Event Workstation) → List Turn → Outcome Unit → Prop
    where
  | unprepared {events : List (Event Workstation)} {failure : Failure}
      (unprepared : Prepares config host clusters events (.error failure)) :
      Course config host clusters works events [] (.error failure)
  | worked {before : List (Event Workstation)} {setting : Setting} {turns : List Turn}
      {outcome : Outcome Unit}
      (prepared : Prepares config host clusters before (.ok setting))
      (installers : ∀ ref, ∀ cluster ∈ clusters, ∃ installer,
        Install.Installer.ofCni (setting.context ref) cluster.cni = .ok installer)
      (ends : Ends clusters turns outcome)
      (each : ∀ turn ∈ turns, works setting turn) :
      Course config host clusters works (before ++ turns.flatMap Turn.record) turns outcome

/-- What the events of a command tell of its clusters. -/
structure Orderly (config : Config) (apiServer : Option String) (clusters : List Config.Cluster)
    (events : List (Event Workstation)) (turns : List Turn) : Prop where
  order : clusters.Sublist config.clusters
  /-- The turns are those of the first clusters. -/
  taken : turns.map Turn.cluster <+: clusters
  /-- All that is told is what there is to tell of the turns that succeed. -/
  told : printed events = turns.filterMap fun turn => turn.result.toOption
  /-- Requests are made in the turn of the cluster, where its credentials lead. -/
  reached : ∀ access ∈ accesses events, ∃ turn ∈ turns, turn.Reaches config access
  /-- Credentials are read in the turn of their cluster, and only once. -/
  loaded : (loads events).Sublist
    (turns.map fun turn => config.kubeconfigPath turn.cluster.name)
  /-- No cluster that comes after the turns is contacted. -/
  spared : ∀ cluster ∈ clusters.drop turns.length, cluster.name ∉ contacts events
  /-- Where names are no absolute paths, the credentials of these clusters are not read either. A
  name that is one can make them those of a cluster before it, and they are read in its turn. -/
  unread : ∀ cluster ∈ clusters.drop turns.length,
    config.kubeconfigPath cluster.name ∈ loads events →
    ∃ turn ∈ turns, config.kubeconfigPath turn.cluster.name = config.kubeconfigPath cluster.name ∧
      (turn.cluster.name.startsWith "/" = true ∨ cluster.name.startsWith "/" = true)
  /-- An engine is looked for if a cluster needs one, and before all else. -/
  detection : ∃ before after, events = before ++ after ∧ (∀ e ∈ before, IsDetection e) ∧
    (∀ e ∈ after, ¬ IsDetection e) ∧
    (before ≠ [] ↔ ∃ cluster ∈ clusters, cluster.cni = .ovnKubernetes)
  single : apiServer.isSome = true → ∀ name ∈ contacts events, ∀ other ∈ contacts events,
    name = other

/-! ### What shows in the events of a course -/

section

variable {events : List (Event Workstation)}

theorem silent_of_isDetection (h : ∀ e ∈ events, IsDetection e) :
    accesses events = [] ∧ loads events = [] ∧ printed events = [] := by
  refine ⟨?_, ?_, ?_⟩
  all_goals
    refine List.filterMap_eq_nil_iff.mpr fun e he => ?_
    obtain ⟨call, hcall⟩ := h e he
    simp [hcall]

end

@[simp] theorem accesses_record (turn : Turn) : accesses turn.record = accesses turn.events := by
  obtain ⟨cluster, events, _ | text⟩ := turn <;> simp [accesses]

@[simp] theorem loads_record (turn : Turn) : loads turn.record = loads turn.events := by
  obtain ⟨cluster, events, _ | text⟩ := turn <;> simp [loads]

theorem printed_record (turn : Turn) :
    printed turn.record = printed turn.events ++ turn.result.toOption.toList := by
  obtain ⟨cluster, events, failure | text⟩ := turn
  · exact (congrArg printed (Turn.record_error ..)).trans (List.append_nil _).symm
  · exact congrArg printed (Turn.record_ok ..) |>.trans printed_append

theorem mem_record {e : Event Workstation} {turn : Turn} (h : e ∈ turn.record) :
    e ∈ turn.events ∨ ∃ text, e.call = .print text := by
  obtain ⟨cluster, events, _ | text⟩ := turn
  · rw [Turn.record_error] at h
    exact .inl h
  · rw [Turn.record_ok] at h
    rcases List.mem_append.mp h with h | h
    · exact .inl h
    · obtain rfl := List.mem_singleton.mp h
      exact .inr ⟨text, rfl⟩

section

variable {α : Type} {setting : Setting} {ref apiServer : Option String}
  {routine : Install.Installer → ClusterTarget → Routine α}
  {tells : Config.Cluster → α → String → Prop} {turns : List Turn}

theorem accesses_turns
    (each : ∀ turn ∈ turns, setting.Works ref apiServer routine tells turn) :
    ∀ access ∈ accesses (turns.flatMap Turn.record),
      ∃ turn ∈ turns, turn.Reaches setting.config access := by
  intro access haccess
  rw [accesses, List.filterMap_flatMap] at haccess
  obtain ⟨turn, hturn, haccess⟩ := List.mem_flatMap.mp haccess
  exact ⟨turn, hturn, (each turn hturn).reached access (accesses_record turn ▸ haccess)⟩

theorem loads_turns
    (each : ∀ turn ∈ turns, setting.Works ref apiServer routine tells turn) :
    (loads (turns.flatMap Turn.record)).Sublist
      (turns.map fun turn => setting.config.kubeconfigPath turn.cluster.name) := by
  induction turns with
  | nil => exact List.nil_sublist _
  | cons turn rest ih =>
    obtain ⟨first, later⟩ := List.forall_mem_cons.mp each
    rw [List.flatMap_cons, loads_append, loads_record]
    exact first.loads_sublist.append (ih later)

theorem printed_turns
    (each : ∀ turn ∈ turns, setting.Works ref apiServer routine tells turn) :
    printed (turns.flatMap Turn.record) = turns.filterMap fun turn => turn.result.toOption := by
  induction turns with
  | nil => rfl
  | cons turn rest ih =>
    obtain ⟨first, later⟩ := List.forall_mem_cons.mp each
    rw [List.flatMap_cons, printed_append, printed_record, first.printed_eq, List.nil_append,
      ih later, List.filterMap_cons]
    cases turn.result.toOption <;> rfl

theorem not_isDetection_turns
    (each : ∀ turn ∈ turns, setting.Works ref apiServer routine tells turn) :
    ∀ e ∈ turns.flatMap Turn.record, ¬ IsDetection e := by
  rintro e he ⟨call, hcall⟩
  obtain ⟨turn, hturn, he⟩ := List.mem_flatMap.mp he
  rcases mem_record he with he | ⟨text, told⟩
  · exact (each turn hturn).not_isDetection e he ⟨call, hcall⟩
  · cases told.symm.trans hcall

end

/-! ### Order -/

section

variable {config : Config} {host : HostOptions} {name apiServer : Option String}
  {clusters : List Config.Cluster} {events : List (Event Workstation)} {turns : List Turn}
  {outcome : Outcome Unit}

/-- Files of credentials are apart as the names are, if no name is an absolute path. -/
theorem kubeconfigPath_inj {a b : String} (ha : a.startsWith "/" = false)
    (hb : b.startsWith "/" = false)
    (same : config.kubeconfigPath a = config.kubeconfigPath b) : a = b := by
  have relative (name : String) (h : name.startsWith "/" = false) :
      (name ++ ".yaml").startsWith "/" = false := by
    rw [← Bool.not_eq_true, Path.startsWith_slash_iff] at h ⊢
    rw [String.toList_append, List.head?_append]
    cases first : name.toList.head? with
    | none => decide
    | some c =>
      rw [first] at h
      exact h
  exact (String.append_left_inj _).mp (Path.join_right_inj (relative a ha) (relative b hb) same)

theorem Prepares.config_eq {setting : Setting}
    (h : Prepares config host clusters events (.ok setting)) : setting.config = config := by
  cases h <;> rfl

theorem Course.orderly {α : Type} {ref asked : Option String}
    {routine : Install.Installer → ClusterTarget → Routine α}
    {tells : Config.Cluster → α → String → Prop}
    (distinct : (config.clusters.map Config.Cluster.name).Nodup)
    (selected : config.selected name apiServer = .ok clusters)
    (h : Course config host clusters (fun setting => setting.Works ref asked routine tells) events
      turns outcome) : Orderly config apiServer clusters events turns := by
  obtain ⟨order, one⟩ := Config.selected_ok selected
  have apart : (clusters.map Config.Cluster.name).Nodup := distinct.sublist (order.map _)
  cases h with
  | unprepared unprepared =>
    obtain ⟨silent, unloaded, untold⟩ := silent_of_isDetection unprepared.isDetection
    exact {
      order
      taken := List.nil_prefix
      told := untold
      reached := by simp [silent]
      loaded := by simp [unloaded]
      spared := by simp [contacts, silent]
      unread := by simp [unloaded]
      detection := ⟨events, [], by simp, unprepared.isDetection, by simp, unprepared.ne_nil_iff⟩
      single := by simp [contacts, silent] }
  | @worked before setting _ _ prepared _ ends each =>
    obtain ⟨silent, unloaded, untold⟩ := silent_of_isDetection prepared.isDetection
    have reached : ∀ access ∈ accesses (before ++ turns.flatMap Turn.record),
        ∃ turn ∈ turns, turn.Reaches config access := by
      rw [accesses_append, silent, ← prepared.config_eq]
      exact accesses_turns each
    have contacted : ∀ name ∈ contacts (before ++ turns.flatMap Turn.record),
        ∃ turn ∈ turns, turn.cluster.name = name := by
      intro name hname
      obtain ⟨access, haccess, rfl⟩ := List.mem_map.mp hname
      obtain ⟨turn, hturn, own, -⟩ := reached access haccess
      exact ⟨turn, hturn, own.symm⟩
    have loaded : (loads (before ++ turns.flatMap Turn.record)).Sublist
        (turns.map fun turn => config.kubeconfigPath turn.cluster.name) := by
      rw [loads_append, unloaded, ← prepared.config_eq]
      exact loads_turns each
    exact {
      order
      taken := ⟨_, ends.split.symm⟩
      told := by rw [printed_append, untold, List.nil_append, printed_turns each]
      reached
      loaded
      spared := by
        intro cluster hlater hcontact
        obtain ⟨turn, hturn, same⟩ := contacted _ hcontact
        exact ends.name_ne apart hturn hlater same
      unread := by
        intro cluster hlater hload
        obtain ⟨turn, hturn, same⟩ := List.mem_map.mp (loaded.subset hload)
        refine ⟨turn, hturn, same, ?_⟩
        by_contra relative
        rw [not_or, Bool.not_eq_true, Bool.not_eq_true] at relative
        exact ends.name_ne apart hturn hlater (kubeconfigPath_inj relative.1 relative.2 same)
      detection := ⟨before, _, rfl, prepared.isDetection, not_isDetection_turns each,
        prepared.ne_nil_iff⟩
      single := by
        intro asked name hname other hother
        obtain ⟨turn, hturn, rfl⟩ := contacted name hname
        obtain ⟨turn', hturn', rfl⟩ := contacted other hother
        obtain ⟨i, hi, here⟩ := List.getElem_of_mem (ends.cluster_mem hturn)
        obtain ⟨j, hj, there⟩ := List.getElem_of_mem (ends.cluster_mem hturn')
        have few := one asked
        obtain rfl : i = j := by omega
        rw [← here, there] }

theorem course_of_runs {work : Setting → Config.Cluster → Job String}
    {works : Setting → Turn → Prop}
    (each : ∀ {setting cluster events result},
      (∀ ref, ∃ installer, Install.Installer.ofCni (setting.context ref) cluster.cni =
        .ok installer) →
      Runs (work setting cluster) events result → works setting ⟨cluster, events, result⟩)
    (h : Runs (Setting.prepare config host clusters >>= fun setting =>
      onEach (work setting) clusters) events outcome) :
    ∃ turns, Course config host clusters works events turns outcome := by
  rcases runs_bind_iff.mp h with ⟨failure, failed, rfl⟩ | ⟨before, setting, after, rfl, ready, rest⟩
  · exact ⟨[], .unprepared (prepares_of_runs failed)⟩
  · have prepared := prepares_of_runs ready
    obtain ⟨turns, ends, rfl, runs⟩ := ends_of_runs_onEach rest
    have installers (ref : Option String) := prepared.installer ref
    refine ⟨turns, .worked prepared installers ends fun turn hturn => ?_⟩
    exact each (fun ref => installers ref turn.cluster (ends.cluster_mem hturn)) (runs turn hturn)

end

/-- What a command does with the clusters it is asked to work on. -/
inductive Conduct (config : Config) (host : HostOptions) (name apiServer : Option String)
    (works : Setting → Turn → Prop) : List (Event Workstation) → Outcome Unit → Prop where
  | unselected {failure : Failure} (unselected : config.selected name apiServer = .error failure) :
      Conduct config host name apiServer works [] (.error failure)
  | selected {clusters : List Config.Cluster} {events : List (Event Workstation)}
      {turns : List Turn} {outcome : Outcome Unit}
      (selected : config.selected name apiServer = .ok clusters)
      (course : Course config host clusters works events turns outcome)
      (orderly : Orderly config apiServer clusters events turns) :
      Conduct config host name apiServer works events outcome

end

theorem conduct_of_turns {α : Type} {config : Config} (accepted : config.check = .ok ())
    {host : HostOptions} {name apiServer ref asked : Option String}
    {routine : Install.Installer → ClusterTarget → Routine α}
    {tells : Config.Cluster → α → String → Prop} {work : Setting → Config.Cluster → Job String}
    {events : List (Event Workstation)} {outcome : Outcome Unit}
    (each : ∀ {setting cluster events result},
      (∀ ref, ∃ installer, Install.Installer.ofCni (setting.context ref) cluster.cni =
        .ok installer) →
      Runs (work setting cluster) events result →
      setting.Works ref asked routine tells ⟨cluster, events, result⟩)
    (h : Runs (do
      let clusters ← ofOutcome (config.selected name apiServer)
      let setting ← Setting.prepare config host clusters
      onEach (work setting) clusters) events outcome) :
    Conduct config host name apiServer (fun setting => setting.Works ref asked routine tells)
      events outcome := by
  rcases runs_ofOutcome_bind_iff.mp h with ⟨failure, unselected, rfl, rfl⟩ | ⟨clusters, selected, h⟩
  · exact .unselected unselected
  · obtain ⟨turns, course⟩ := course_of_runs each h
    have distinct := (Config.faultless_of_check accepted).distinct
    exact .selected selected course (course.orderly distinct selected)

/-- Both commands that work on clusters conduct themselves so, whatever the work on each of the
clusters comes to. -/
theorem conduct_of_runs {config : Config} (accepted : config.check = .ok ()) (host : HostOptions)
    (name : Option String) :
    (∀ ref apiServer events outcome, Runs (install config host name ref apiServer) events outcome →
      Conduct config host name apiServer (fun setting => setting.Installs ref apiServer) events
        outcome) ∧
    (∀ events outcome, Runs (redeploy config host name) events outcome →
      Conduct config host name none Setting.Redeploys events outcome) := by
  constructor
  · intro ref apiServer events outcome h
    exact conduct_of_turns accepted
      (fun installers h => Setting.installs_of_runs (installers ref) h) h
  · intro events outcome h
    exact conduct_of_turns accepted
      (fun installers h => Setting.redeploys_of_runs (installers none) h) h

def hostCredentials : Bytes := .ofString <|
  "current-context: host\n" ++
    "contexts:\n- name: host\n  context:\n    cluster: host\n" ++
    "clusters:\n- name: host\n  cluster:\n    server: http://192.168.100.10:6443\n"

theorem connect_hostCredentials (path : String) :
    Kubernetes.Kubeconfig.connect path (some hostCredentials) =
      .ok "http://192.168.100.10:6443" := by
  have known : (Kubernetes.Kubeconfig.ofBytes? hostCredentials).bind Kubernetes.Kubeconfig.server =
      some "http://192.168.100.10:6443" := by
    rw [Kubernetes.Kubeconfig.ofBytes?, hostCredentials, Bytes.decode?_ofString]
    decide +kernel
  obtain ⟨credentials, read, server⟩ := Option.bind_eq_some_iff.mp known
  rw [Kubernetes.Kubeconfig.connect, Option.bind_some, read]
  simp only [server]

/-- The events of a redeploy on three clusters. The first is told of as skipped, the second has no
credentials, and nothing is asked for the third. -/
def cutShort : List (Event Workstation) := [
  ⟨.load (Config.threeClusters.kubeconfigPath "host"), .ok hostCredentials⟩,
  ⟨.print "flannel does not support redeploy, skipped host\n", ()⟩,
  ⟨.load (Config.threeClusters.kubeconfigPath "dpu"), .error .notFound⟩]

def unreadableCredentials : Failure :=
  .work (.config ("failed to read kubeconfig " ++ Config.threeClusters.kubeconfigPath "dpu"))

theorem runs_cutShort :
    Runs (redeploy Config.threeClusters {} none) cutShort (.error unreadableCredentials) := by
  refine runs_ofOutcome_bind_iff.mpr (.inr ⟨Config.threeClusters.clusters, rfl, ?_⟩)
  refine runs_bind_iff.mpr (.inr ⟨[], settingWith Config.threeClusters {} none, _, rfl, .done _, ?_⟩)
  refine runs_bind_iff.mpr (.inr ⟨[_], "flannel does not support redeploy, skipped host\n", _, rfl,
    ?skipped, ?failed⟩)
  case skipped =>
    refine runs_ofOutcome_bind_iff.mpr (.inr ⟨_, rfl, ?_⟩)
    refine runs_connect_bind_iff.mpr ⟨_, _, rfl, .inr ⟨_, connect_hostCredentials _, ?_⟩⟩
    exact .done _
  case failed =>
    refine runs_print_bind_iff.mpr ⟨_, rfl, ?_⟩
    refine runs_bind_iff.mpr (.inl ⟨_, ?_, rfl⟩)
    refine runs_ofOutcome_bind_iff.mpr (.inr ⟨_, rfl, ?_⟩)
    exact runs_connect_bind_iff.mpr ⟨_, _, rfl, .inl ⟨_, rfl, rfl, rfl⟩⟩

theorem conduct_cutShort :
    Config.threeClusters.check = .ok () ∧
      Runs (redeploy Config.threeClusters {} none) cutShort (.error unreadableCredentials) ∧
      Conduct Config.threeClusters {} none none Setting.Redeploys cutShort
        (.error unreadableCredentials) :=
  ⟨by decide, runs_cutShort, (conduct_of_runs (by decide) {} none).2 _ _ runs_cutShort⟩

/-! ### Credentials that clusters share -/

/-- No credentials of the clusters that come after the turns are read. -/
def Unread (config : Config) (clusters : List Config.Cluster) (turns : List Turn)
    (events : List (Event Workstation)) : Prop :=
  ∀ cluster ∈ clusters.drop turns.length, config.kubeconfigPath cluster.name ∉ loads events

/-- Two clusters of virtual machines. The name of the second one is an absolute path, to where the
first one has its credentials. -/
def sharedCredentials : Config where
  vms := [
    { name := "b-1", type := "host", cluster := "b", role := .master,
      nodeIp := some "192.168.100.10" },
    { name := "b-2", type := "host", cluster := "/k/b", role := .master,
      nodeIp := some "192.168.100.20" }]
  kubernetes := {
    kubeconfigDir := "/k"
    clusters := [{ name := "b", cni := .kindnet }, { name := "/k/b", cni := .kindnet }] }

/-- Why the machines of the first cluster cannot have its plugin. -/
def refusal : Failure := .work (.unsupported "kindnet install" "VM cluster b")

def refusedTurn : Turn where
  cluster := { name := "b", cni := .kindnet }
  events := [⟨.load (sharedCredentials.kubeconfigPath "b"), .ok hostCredentials⟩]
  result := .error refusal

theorem kubeconfigPath_sharedCredentials :
    sharedCredentials.kubeconfigPath "b" = "/k/b.yaml" ∧
      sharedCredentials.kubeconfigPath "/k/b" = "/k/b.yaml" := by
  constructor <;> decide +kernel

/-- Credentials of a cluster that gets no turn can be read, as those of one that had its turn. -/
theorem not_unread_of_absoluteName :
    sharedCredentials.check = .ok () ∧
      Runs (install sharedCredentials {} none none none) refusedTurn.events (.error refusal) ∧
      Course sharedCredentials {} sharedCredentials.clusters
        (fun setting => setting.Installs none none) refusedTurn.events [refusedTurn]
        (.error refusal) ∧
      ¬ Unread sharedCredentials sharedCredentials.clusters [refusedTurn] refusedTurn.events := by
  have prepared : Prepares sharedCredentials {} sharedCredentials.clusters []
      (.ok (settingWith sharedCredentials {} none)) := .plain (by decide)
  have turn : Runs ((settingWith sharedCredentials {} none).install none none refusedTurn.cluster)
      refusedTurn.events (.error refusal) := by
    refine runs_ofOutcome_bind_iff.mpr (.inr ⟨_, rfl, ?_⟩)
    refine runs_connect_bind_iff.mpr ⟨_, _, rfl, .inr ⟨_, connect_hostCredentials _, ?_⟩⟩
    exact .done _
  refine ⟨by decide, ?runs, ?course, ?read⟩
  case runs =>
    refine runs_ofOutcome_bind_iff.mpr (.inr ⟨sharedCredentials.clusters, rfl, ?_⟩)
    refine runs_bind_iff.mpr
      (.inr ⟨[], settingWith sharedCredentials {} none, _, rfl, .done _, ?_⟩)
    exact runs_bind_iff.mpr (.inl ⟨_, turn, rfl⟩)
  case course =>
    have equipped := prepared.installer
    have installs := Setting.installs_of_runs (equipped none _ List.mem_cons_self) turn
    have ends : Ends sharedCredentials.clusters [refusedTurn] (.error refusal) :=
      .stopped [] (by simp) rfl rfl
    exact .worked prepared equipped ends (List.forall_mem_singleton.mpr installs)
  case read =>
    intro unread
    obtain ⟨own, other⟩ := kubeconfigPath_sharedCredentials
    refine unread { name := "/k/b", cni := .kindnet } (List.mem_singleton_self _) ?_
    rw [other, ← own]
    exact List.mem_singleton_self _

end Job

end PodNetwork
