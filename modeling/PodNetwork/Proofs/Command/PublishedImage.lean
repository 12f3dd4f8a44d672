import PodNetwork.Proofs.Command.Conduct
import PodNetwork.Proofs.Image.Providing
import PodNetwork.Proofs.Install.Publishing

/-! The one name of a published image.

A build and an install look up the container of OVN-Kubernetes each for itself, and an install
carries what it finds in three settings. All of these agree: what a build pushes, what an install
pushes, and what its manifests refer to go by one name. Without a container nothing is pushed, and
the manifests refer to the image that is published elsewhere. -/
namespace PodNetwork

open Procedure (Event only_call)
open Install.OvnKubernetes

theorem Config.registryImage_ne (tag : String) : tag ≠ Config.registryImage tag := by
  intro same
  have lengths := congrArg String.length same
  simp [Config.registryImage, Config.registryEndpoint] at lengths

namespace EnginePreference

open Routine

theorem unhandled_firstAvailable (engines : List EngineName) :
    Only (·.handling? = none) (firstAvailable engines) := by
  induction engines with
  | nil => exact only_pure
  | cons engine rest ih =>
    have probe : Only (·.handling? = none)
        (Site.executeWithin EngineName.probeTimeout engine.binary ["--version"]) :=
      only_attempt (only_call rfl)
    refine (probe.outcome.bind fun _ => only_pure).bind fun available => ?_
    split
    · exact only_pure
    · exact ih

/-- Looking for an engine has nothing to do with images. -/
theorem unhandled_detect (preference : EnginePreference) :
    Only (·.handling? = none) preference.detect := by
  refine (unhandled_firstAvailable _).bind fun found => ?_
  cases found with
  | some engine => exact only_pure
  | none => exact Only.bind (only_ask (only_call rfl)) fun _ => only_throw

end EnginePreference

namespace Job

variable {events more : List (Event Workstation)} {inner : List (Event Site)}

def handlings (events : List (Event Workstation)) : List Handling :=
  events.filterMap fun e => match e.call with
    | .site _ call => call.handling?
    | _ => none

@[simp] theorem handlings_append :
    handlings (events ++ more) = handlings events ++ handlings more := List.filterMap_append

@[simp] theorem handlings_load_cons {path : String} {content : Except SystemFault Bytes} :
    handlings (⟨.load path, content⟩ :: events) = handlings events := rfl

@[simp] theorem handlings_print_cons {text : String} {told : Unit} :
    handlings (⟨.print text, told⟩ :: events) = handlings events := rfl

@[simp] theorem handlings_under {access : Option Access} :
    handlings (inner.map (under access)) = Site.handlings inner := by
  rw [handlings, List.filterMap_map]
  rfl

theorem handlings_record (turn : Turn) : handlings turn.record = handlings turn.events := by
  obtain ⟨cluster, events, _ | text⟩ := turn
  · rw [Turn.record_error]
  · rw [Turn.record_ok, handlings_append]
    exact List.append_nil _

theorem handlings_flatMap {turns : List Turn} :
    handlings (turns.flatMap Turn.record) = turns.flatMap fun turn => handlings turn.events := by
  induction turns with
  | nil => rfl
  | cons turn rest ih =>
    rw [List.flatMap_cons, handlings_append, handlings_record, ih, List.flatMap_cons]

/-! ### Builds -/

/-- A step of publishing that succeeds does with images what its routine does. -/
theorem handlings_publishing {engine : EngineName} {routine : Routine Unit} {handling : Handling}
    (asks : ∀ requests, Routine.Runs routine requests (.ok ()) →
      Site.handlings requests = [handling])
    (h : Runs (publishing (engine.drive routine)) events (.ok ())) :
    handlings events = [handling] := by
  obtain ⟨before, result, after, rfl, hwork, rest⟩ := runs_bind_ok_iff.mp h
  obtain ⟨commands, asked, rfl⟩ := runs_work_ok_iff.mp hwork
  obtain ⟨_, runs, same⟩ := Routine.runs_outcome_iff.mp asked
  obtain rfl := Except.ok.inj same
  cases result with
  | error e => cases (Procedure.runs_done_iff.mp rest).2
  | ok =>
    obtain ⟨rfl, -⟩ := runs_pure_iff.mp rest
    obtain ⟨requests, runs, carried⟩ := EngineName.runs_drive_iff.mp runs
    rw [List.append_nil, handlings_under, EngineName.handlings_carried carried, asks requests runs]

theorem handlings_publish {engine : EngineName} {image remote : String}
    (h : Runs (publish engine image remote) events (.ok ())) :
    handlings events = [.tag image remote, .push remote] := by
  obtain ⟨tagging, _, _, rfl, htag, hrest⟩ := runs_bind_ok_iff.mp h
  obtain ⟨pushing, _, telling, rfl, hpush, htell⟩ := runs_bind_ok_iff.mp hrest
  have tagged : handlings tagging = [.tag image remote] := by
    refine handlings_publishing (fun requests asked => ?_) htag
    rw [Procedure.runs_call_iff.mp asked]
    rfl
  have pushed : handlings pushing = [.push remote] := by
    refine handlings_publishing (fun requests asked => ?_) hpush
    rw [Procedure.runs_call_iff.mp asked]
    rfl
  obtain ⟨_, _, rfl, told⟩ := Procedure.runs_ask_iff.mp htell
  obtain ⟨rfl, -⟩ := Procedure.runs_done_iff.mp told
  rw [handlings_append, handlings_append, tagged, pushed]
  rfl

/-- The name that an image is published under. -/
theorem handlings_build {config : Config} {host : HostOptions} {name ref : Option String}
    (h : Runs (build config host name ref true) events (.ok ())) :
    ∃ cached, handlings events = [.tag cached (name.getD config.buildImage),
      .tag (name.getD config.buildImage) (publishedImage config (name.getD config.buildImage)),
      .push (publishedImage config (name.getD config.buildImage))] := by
  unfold build at h
  dsimp only at h
  generalize name.getD config.buildImage = image at h ⊢
  obtain ⟨_, engine, _, rfl, hdetect, hrest⟩ := runs_bind_ok_iff.mp h
  obtain ⟨_, built, _, rfl, hbuild, hprint⟩ := runs_bind_ok_iff.mp hrest
  obtain ⟨publication, rfl, hpublish⟩ := runs_print_bind_iff.mp hprint
  obtain ⟨looking, detected, rfl⟩ := runs_work_ok_iff.mp hdetect
  obtain ⟨commands, driven, rfl⟩ := runs_work_ok_iff.mp hbuild
  obtain ⟨requests, runs, carried⟩ := EngineName.runs_drive_iff.mp driven
  rw [if_pos rfl] at hpublish
  have available := (Image.Builder.available_of_runs runs).1
  refine ⟨built.cachedImage, ?_⟩
  simp only [handlings_append, handlings_under, handlings_print_cons, handlings_publish hpublish,
    EngineName.handlings_carried carried, Image.Builder.handlings_of_runs runs,
    available.requested, Site.handlings_eq_nil (detected.only (host.engine.unhandled_detect))]
  rfl

/-! ### Installs -/

/-- A turn in which the image of OVN-Kubernetes is published. The requests are those of a run of an
installer, and the commands carry them out. -/
structure Ships (image reference : String) (setting : Setting) (turn : Turn) : Prop where
  handled : ∃ cached target, handlings turn.events = [.tag cached image, .tag image reference,
    .push reference, .render (renderArguments reference target)] ∧
    NamesImage reference (renderArguments reference target)
  asked : ∃ engine installer target requests commands content access report,
    setting.engine = some engine ∧
    turn.events = ⟨.load (setting.config.kubeconfigPath turn.cluster.name), content⟩ ::
      commands.map (under (some access)) ∧
    List.Forall₂ (EngineName.Carries engine) requests commands ∧
    Routine.Runs (Install.OvnInstaller.install installer target) requests (.ok report) ∧
    Install.OvnInstaller.Publishes image reference target requests

/-- What configurations with a container of OVN-Kubernetes have in common. -/
structure Published (config : Config) (host : HostOptions) (ref : Option String)
    (image reference : String) : Prop where
  /-- A build that is to push tags and pushes last under the name. -/
  built : ∀ asked events, Runs (build config host asked ref true) events (.ok ()) →
    ∃ cached, handlings events = [.tag cached (asked.getD image),
      .tag (asked.getD image) reference, .push reference]
  /-- Every cluster on which OVN-Kubernetes is installed with success. -/
  installed : ∀ name apiServer clusters events outcome,
    config.selected name apiServer = .ok clusters →
    Runs (install config host name ref apiServer) events outcome →
    ∃ turns, Course config host clusters (fun setting turn =>
      turn.cluster.cni = .ovnKubernetes → (∃ text, turn.result = .ok text) →
        Ships image reference setting turn) events turns outcome

/-- What configurations without such a container have in common. -/
structure Unpublished (config : Config) (host : HostOptions) (ref : Option String)
    (image reference : String) : Prop where
  unpushed : ∀ name apiServer events outcome,
    Runs (install config host name ref apiServer) events outcome →
    ∀ handling ∈ handlings events, handling.IsUnpublished reference
  installed : ∀ name apiServer clusters events outcome,
    config.selected name apiServer = .ok clusters →
    Runs (install config host name ref apiServer) events outcome →
    ∃ turns, Course config host clusters (fun _ turn =>
      turn.cluster.cni = .ovnKubernetes → (∃ text, turn.result = .ok text) →
        ∃ cached target, handlings turn.events =
          [.tag cached image, .render (renderArguments reference target)] ∧
          NamesImage reference (renderArguments reference target)) events turns outcome

end Job

namespace Setting

open Job

variable {setting : Setting} {ref apiServer : Option String} {turn : Turn}

theorem handlings_of_commands {path : String} {content : Except SystemFault Bytes}
    {access : Option Access} {commands : List (Event Site)}
    (h : turn.events = ⟨.load path, content⟩ :: commands.map (under access)) :
    handlings turn.events = Site.handlings commands := by
  rw [h, handlings_load_cons, handlings_under]

/-- The commands of a driven routine do with images what the routine asks for. -/
theorem handlings_driven {α : Type} {routine : Routine α} {events : List (Event Site)}
    {result : Attempt α} (h : Routine.Runs (setting.driven routine) events result) :
    ∃ requests, Routine.Runs routine requests result ∧
      Site.handlings events = Site.handlings requests ∧
      ∀ engine, setting.engine = some engine →
        List.Forall₂ (EngineName.Carries engine) requests events := by
  obtain ⟨requests, runs, ⟨missing, rfl⟩ | ⟨known, found, carried⟩⟩ := runs_of_driven h
  · exact ⟨requests, runs, rfl, fun engine found => absurd (missing.symm.trans found) nofun⟩
  · refine ⟨requests, runs, EngineName.handlings_carried carried, fun engine same => ?_⟩
    obtain rfl := Option.some.inj (found.symm.trans same)
    exact carried

/-- An installer of OVN-Kubernetes has an engine and the settings of the configuration. -/
theorem ovn_of_equipped {cni : Cni} {installer : Install.OvnInstaller}
    (h : Install.Installer.ofCni (setting.context ref) cni = .ok (.ovnKubernetes installer)) :
    setting.engine = some installer.engine ∧
      installer.options.daemonsetImage = setting.config.daemonsetImage ∧
      installer.options.buildImage = setting.config.buildImage ∧
      installer.options.pushDaemonsetImage =
        (setting.config.container? .ovnKubernetes).isSome := by
  cases cni with
  | flannel => cases h
  | kindnet => cases h
  | ovnKubernetes =>
    unfold Install.Installer.ofCni at h
    dsimp only at h
    split at h
    · cases h
    · next engine found =>
      cases h
      exact ⟨found, rfl, rfl, rfl⟩

/-- A turn that installs OVN-Kubernetes with success is a run of its installer. -/
theorem Installs.ovn (h : setting.Installs ref apiServer turn)
    (cni : turn.cluster.cni = .ovnKubernetes) (told : ∃ text, turn.result = .ok text) :
    ∃ installer target content access commands report,
      Install.Installer.ofCni (setting.context ref) turn.cluster.cni =
        .ok (.ovnKubernetes installer) ∧
      turn.events = ⟨.load (setting.config.kubeconfigPath turn.cluster.name), content⟩ ::
        commands.map (under (some access)) ∧
      Routine.Runs (setting.driven (Install.OvnInstaller.install installer target)) commands
        (.ok report) := by
  obtain ⟨text, told⟩ := told
  cases h with
  | untargeted _ => cases told
  | unconnected _ _ => cases told
  | @worked cluster target server content installer commands result shown _ _ equipped runs shows =>
    have kind := Install.Installer.cni_ofCni equipped
    dsimp only at cni told
    rw [cni] at kind
    cases installer with
    | ovnKubernetes installer =>
      cases shows with
      | failed e => cases told
      | told => exact ⟨installer, target, content, _, commands, _, equipped, rfl, runs⟩
    | _ => cases kind

/-- A turn in which the image is published. -/
theorem Installs.ships (h : setting.Installs ref apiServer turn) {container : Config.Container}
    (found : setting.config.container? .ovnKubernetes = some container)
    (cni : turn.cluster.cni = .ovnKubernetes) (told : ∃ text, turn.result = .ok text) :
    Ships container.tag (Config.registryImage container.tag) setting turn := by
  obtain ⟨installer, target, content, access, commands, report, equipped, asked, driven⟩ :=
    h.ovn cni told
  obtain ⟨engine, daemonset, own, push⟩ := ovn_of_equipped equipped
  obtain ⟨requests, runs, same, carried⟩ := handlings_driven driven
  have reference : setting.config.daemonsetImage = Config.registryImage container.tag := by
    simp [Config.daemonsetImage, found]
  have image : setting.config.buildImage = container.tag := by simp [Config.buildImage, found]
  have published := Install.OvnInstaller.publishes_of_runs (by rw [push, found]; rfl)
    (by rw [own, daemonset, image, reference]; exact Config.registryImage_ne _) runs
  rw [own, daemonset, image, reference] at published
  refine ⟨?_, installer.engine, installer, target, requests, commands, content, access, report,
    engine, asked, carried _ engine, runs, published⟩
  obtain ⟨cached, handled⟩ := published.handled
  exact ⟨cached, target, (handlings_of_commands asked).trans (same.trans handled),
    namesImage_renderArguments _ target⟩

/-- A turn in which nothing is published. -/
theorem Installs.deploys (h : setting.Installs ref apiServer turn)
    (absent : setting.config.container? .ovnKubernetes = none)
    (cni : turn.cluster.cni = .ovnKubernetes) (told : ∃ text, turn.result = .ok text) :
    ∃ cached target, handlings turn.events = [.tag cached ({} : Install.OvnOptions).buildImage,
      .render (renderArguments ({} : Install.OvnOptions).daemonsetImage target)] ∧
      NamesImage ({} : Install.OvnOptions).daemonsetImage
        (renderArguments ({} : Install.OvnOptions).daemonsetImage target) := by
  obtain ⟨installer, target, content, access, commands, report, equipped, asked, driven⟩ :=
    h.ovn cni told
  obtain ⟨-, daemonset, own, push⟩ := ovn_of_equipped equipped
  obtain ⟨requests, runs, same, -⟩ := handlings_driven driven
  obtain ⟨cached, handled⟩ :=
    Install.OvnInstaller.handlings_of_unpublished (by rw [push, absent]; rfl) runs
  have reference : setting.config.daemonsetImage = ({} : Install.OvnOptions).daemonsetImage := by
    simp [Config.daemonsetImage, absent]
  have image : setting.config.buildImage = ({} : Install.OvnOptions).buildImage := by
    simp [Config.buildImage, absent]
  rw [own, daemonset, image, reference] at handled
  exact ⟨cached, target, (handlings_of_commands asked).trans (same.trans handled),
    namesImage_renderArguments _ target⟩

theorem Installs.unpublished (h : setting.Installs ref apiServer turn)
    (absent : setting.config.container? .ovnKubernetes = none) :
    ∀ handling ∈ handlings turn.events,
      handling.IsUnpublished ({} : Install.OvnOptions).daemonsetImage := by
  cases h with
  | untargeted _ => exact fun _ hmem => absurd hmem List.not_mem_nil
  | unconnected _ _ => exact fun _ hmem => absurd hmem List.not_mem_nil
  | @worked cluster target server content installer commands result _ _ _ equipped driven =>
    obtain ⟨requests, runs, same, -⟩ := handlings_driven driven
    have unpublished : Routine.Only
        (SiteCall.IsUnpublished ({} : Install.OvnOptions).daemonsetImage)
        (installer.install target) := by
      refine Install.Installer.unpublished_install ?_
      rintro inner rfl
      obtain ⟨-, daemonset, -, push⟩ := ovn_of_equipped equipped
      refine ⟨by rw [push, absent]; rfl, daemonset.trans ?_⟩
      simp [Config.daemonsetImage, absent]
    intro handling hmem
    rw [handlings_of_commands rfl, same] at hmem
    obtain ⟨e, he, handled⟩ := List.mem_filterMap.mp hmem
    exact runs.only unpublished e he handling handled

end Setting

namespace Job

variable {config : Config} {host : HostOptions} {clusters : List Config.Cluster}
  {events : List (Event Workstation)} {turns : List Turn} {outcome : Outcome Unit}

theorem Course.imp {works other : Setting → Turn → Prop}
    (h : Course config host clusters works events turns outcome)
    (himp : ∀ setting turn, setting.config = config → works setting turn → other setting turn) :
    Course config host clusters other events turns outcome := by
  cases h with
  | unprepared unprepared => exact .unprepared unprepared
  | @worked before setting _ _ prepared installers ends each =>
    exact .worked prepared installers ends fun turn hturn =>
      himp setting turn prepared.config_eq (each turn hturn)

theorem Prepares.handlings_eq {prepared : Outcome Setting}
    (h : Prepares config host clusters events prepared) : handlings events = [] := by
  have unhandled {inner : List (Event Site)} {result : Attempt EngineName}
      (h : Routine.Runs host.engine.detect inner result) :
      handlings (inner.map (under none)) = [] := by
    rw [handlings_under]
    exact Site.handlings_eq_nil (h.only (host.engine.unhandled_detect))
  cases h with
  | plain _ => rfl
  | equipped _ detected => exact unhandled detected
  | missing _ undetected => exact unhandled undetected

theorem Course.unpublished {ref apiServer : Option String}
    (h : Course config host clusters (fun setting => setting.Installs ref apiServer) events turns
      outcome) (absent : config.container? .ovnKubernetes = none) :
    ∀ handling ∈ handlings events,
      handling.IsUnpublished ({} : Install.OvnOptions).daemonsetImage := by
  cases h with
  | unprepared unprepared =>
    rw [unprepared.handlings_eq]
    exact fun _ hmem => absurd hmem List.not_mem_nil
  | worked prepared _ _ each =>
    rw [handlings_append, prepared.handlings_eq, List.nil_append, handlings_flatMap]
    intro handling hmem
    obtain ⟨turn, hturn, hmem⟩ := List.mem_flatMap.mp hmem
    exact (each turn hturn).unpublished (prepared.config_eq ▸ absent) handling hmem

/-- The course of an install, whatever it comes to. -/
theorem course_of_install {name ref apiServer : Option String}
    (selected : config.selected name apiServer = .ok clusters)
    (h : Runs (install config host name ref apiServer) events outcome) :
    ∃ turns, Course config host clusters (fun setting => setting.Installs ref apiServer) events
      turns outcome := by
  rcases runs_ofOutcome_bind_iff.mp h with ⟨failure, unselected, -⟩ | ⟨known, same, h⟩
  · rw [selected] at unselected
    cases unselected
  · rw [selected] at same
    obtain rfl := Except.ok.inj same
    exact course_of_runs (fun installers h => Setting.installs_of_runs (installers ref) h) h

/-! ### A cluster that goes well -/

/-- A cluster of one machine, with what there is in the registry. -/
def loneCluster (registry : Option (List Config.Container)) : Config where
  vms := [
    { name := "host-1", type := "host", cluster := "host", role := .master,
      nodeIp := some "192.168.100.10" }]
  kubernetes.clusters := [{ name := "host", cni := .ovnKubernetes }]
  registry

/-- Two containers of the same plugin, of which the first counts. -/
def twoContainers : List Config.Container := [
  { name := "ovn-kube", cni := .ovnKubernetes, tag := "ovn-kube-fedora:dev" },
  { name := "ovn-kube-old", cni := .ovnKubernetes, tag := "ovn-kube-fedora:old" }]

/-- The answers at a workstation whose site obliges. -/
def obliging : (c : WorkstationCall) → c.Answer
  | .load _ => .ok hostCredentials
  | .print _ => ()
  | .site _ call => Site.obliging call

theorem exists_runs_work {α : Type} {routine : Routine α} {a : α} (access : Option Access)
    (h : Image.Builder.resultAt Site.obliging routine = some a) :
    ∃ events, Runs (work access routine) events (.ok a) :=
  ⟨_, runs_work_ok_iff.mpr ⟨_, Image.Builder.runs_of_resultAt h, rfl⟩⟩

/-- An install on one cluster succeeds if the credentials lead to it and every step at the site
does. -/
theorem exists_runs_install {config : Config} {cluster : Config.Cluster} {target : ClusterTarget}
    {installer : Install.Installer} {engine : EngineName}
    (selected : config.selected none none = .ok [cluster])
    (needed : cluster.cni = .ovnKubernetes)
    (detected : Image.Builder.resultAt Site.obliging ({} : HostOptions).engine.detect = some engine)
    (targeted : config.targetOf cluster none = .ok target)
    (equipped : Install.Installer.ofCni ((settingWith config {} (some engine)).context none)
      cluster.cni = .ok installer)
    (performed : (Image.Builder.resultAt Site.obliging
      ((settingWith config {} (some engine)).driven (installer.install target))).isSome) :
    ∃ events, Runs (install config {} none none none) events (.ok ()) := by
  obtain ⟨report, performed⟩ := Option.isSome_iff_exists.mp performed
  have need : Setting.needsEngine [cluster] = true :=
    needsEngine_iff.mpr ⟨cluster, List.mem_singleton_self _, needed⟩
  have prepared : ∃ events, Runs (Setting.prepare config {} [cluster]) events
      (.ok (settingWith config {} (some engine))) := by
    unfold Setting.prepare
    rw [need, if_pos rfl]
    simp only [map_eq_pure_bind, bind_assoc, pure_bind]
    obtain ⟨_, looked⟩ := exists_runs_work none detected
    exact ⟨_, runs_bind_ok_iff.mpr ⟨_, _, [], rfl, looked, runs_pure_iff.mpr ⟨rfl, rfl⟩⟩⟩
  obtain ⟨before, prepared⟩ := prepared
  obtain ⟨asked, worked⟩ :=
    exists_runs_work (some ⟨cluster.name, "http://192.168.100.10:6443"⟩) performed
  obtain ⟨spent, turn⟩ : ∃ spent, Runs
      ((settingWith config {} (some engine)).install none none cluster) spent
      (.ok (report.summary "installed")) := by
    refine ⟨⟨.load (config.kubeconfigPath cluster.name), .ok hostCredentials⟩ :: (asked ++ []), ?_⟩
    refine runs_ofOutcome_bind_iff.mpr (.inr ⟨target, targeted, ?_⟩)
    refine runs_connect_bind_iff.mpr ⟨_, _, rfl, .inr ⟨_, connect_hostCredentials _, ?_⟩⟩
    refine runs_ofAttempt_bind_iff.mpr (.inr ⟨installer, equipped, ?_⟩)
    exact runs_bind_ok_iff.mpr ⟨_, report, _, rfl, worked, runs_pure_iff.mpr ⟨rfl, rfl⟩⟩
  refine ⟨before ++ (spent ++ [⟨.print (report.summary "installed"), ()⟩]), ?_⟩
  refine runs_ofOutcome_bind_iff.mpr (.inr ⟨_, selected, ?_⟩)
  refine runs_bind_ok_iff.mpr ⟨_, _, _, rfl, prepared, ?_⟩
  refine runs_bind_ok_iff.mpr ⟨_, _, _, rfl, turn, ?_⟩
  exact runs_print_bind_iff.mpr ⟨[], rfl, runs_pure_iff.mpr ⟨rfl, rfl⟩⟩

theorem exists_runs_install_loneCluster {registry : Option (List Config.Container)}
    (h : registry = some twoContainers ∨ registry = none) :
    ∃ events, Runs (install (loneCluster registry) {} none none none) events (.ok ()) := by
  have detected : Image.Builder.resultAt Site.obliging ({} : HostOptions).engine.detect =
      some .podman := by decide +kernel
  have targeted : (loneCluster registry).targetOf { name := "host", cni := .ovnKubernetes } none =
      .ok (.ofHost "host" "10.244.0.0/16" "10.245.0.0/16" "192.168.100.10") := rfl
  refine exists_runs_install rfl rfl detected targeted rfl ?_
  rcases h with rfl | rfl
  · decide +kernel
  · decide +kernel

/-! ### The name -/

/-- Builds and installs agree on the name of the image of OVN-Kubernetes: with a container of it all
of them publish under one name and deploy what has that name, and without one nothing is pushed. -/
theorem published_reference (config : Config) (host : HostOptions) (ref : Option String) :
    (∀ container, config.container? .ovnKubernetes = some container →
      Published config host ref container.tag (Config.registryImage container.tag)) ∧
    (config.container? .ovnKubernetes = none →
      Unpublished config host ref ({} : Install.OvnOptions).buildImage
        ({} : Install.OvnOptions).daemonsetImage) := by
  constructor
  · intro container found
    constructor
    · intro asked events h
      have image : config.buildImage = container.tag := by simp [Config.buildImage, found]
      have reference (own : String) :
          publishedImage config own = Config.registryImage container.tag := by
        simp [publishedImage, found]
      simpa only [image, reference] using handlings_build h
    · intro name apiServer clusters events outcome selected h
      obtain ⟨turns, course⟩ := course_of_install selected h
      refine ⟨turns, course.imp fun setting turn same installs => ?_⟩
      exact installs.ships (same ▸ found)
  · intro absent
    constructor
    · intro name apiServer events outcome h
      rcases runs_ofOutcome_bind_iff.mp h with ⟨failure, -, rfl, -⟩ | ⟨clusters, selected, -⟩
      · exact fun _ hmem => absurd hmem List.not_mem_nil
      · obtain ⟨turns, course⟩ := course_of_install selected h
        exact course.unpublished absent
    · intro name apiServer clusters events outcome selected h
      obtain ⟨turns, course⟩ := course_of_install selected h
      refine ⟨turns, course.imp fun setting turn same installs => ?_⟩
      exact installs.deploys (same ▸ absent)

theorem published_reference_loneCluster :
    ((∃ events, Runs (build (loneCluster (some twoContainers)) {} none none true) events (.ok ())) ∧
      (∃ events, Runs (install (loneCluster (some twoContainers)) {} none none none) events
        (.ok ())) ∧
      Published (loneCluster (some twoContainers)) {} none "ovn-kube-fedora:dev"
        "localhost:5000/ovn-kube-fedora:dev") ∧
    (∃ events, Runs (install (loneCluster none) {} none none none) events (.ok ())) ∧
      Unpublished (loneCluster none) {} none "ovn-kube-fedora:dpu-sim"
        "ghcr.io/ovn-kubernetes/ovn-kubernetes/ovn-kube-fedora:master" := by
  refine ⟨⟨?built, exists_runs_install_loneCluster (.inl rfl), ?published⟩,
    exists_runs_install_loneCluster (.inr rfl), ?unpublished⟩
  case built =>
    have succeeds : (Procedure.recorded (I := Workstation) obliging
        (ExceptT.run (build (loneCluster (some twoContainers)) {} none none true))).2 = .ok () := by
      decide +kernel
    exact ⟨_, succeeds ▸ Procedure.runs_recorded (I := Workstation) obliging _⟩
  case published =>
    exact (published_reference (loneCluster (some twoContainers)) {} none).1
      { name := "ovn-kube", cni := .ovnKubernetes, tag := "ovn-kube-fedora:dev" } rfl
  case unpublished => exact (published_reference (loneCluster none) {} none).2 rfl

end Job
end PodNetwork
