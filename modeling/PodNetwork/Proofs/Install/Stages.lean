import PodNetwork.Proofs.Install.Preparation

/-! The order of the stages of an install.

Up to the first manifest the cluster is asked for nothing but its DNS, and the proxy is removed
last, after all that makes it dispensable. The statements are about every run, so about every way
in which the calls may be answered. -/
namespace PodNetwork.Install

open Routine
open Procedure (Event only_call)

theorem runs_softly_iff {report : Report} {step : String} {routine : Routine Unit}
    {events : List (Event Site)} {result : Attempt Report} :
    Runs (softly report step routine) events result ↔
      ∃ inner, Runs routine events inner ∧ result = report.soften step inner := by
  rw [softly, runs_outcome_bind_iff]
  constructor
  · rintro ⟨_, inner, _, rfl, h, h'⟩
    obtain ⟨rfl, rfl⟩ := Procedure.runs_done_iff.mp h'
    exact ⟨inner, by rwa [List.append_nil], rfl⟩
  · rintro ⟨inner, h, rfl⟩
    exact ⟨events, inner, [], by rw [List.append_nil], h, .done _⟩

namespace OvnInstaller

def builder (installer : OvnInstaller) : Image.Builder :=
  { engine := installer.engine, tree := installer.source }

def publishing (installer : OvnInstaller) (image : String) : Routine Unit :=
  if installer.options.pushDaemonsetImage then installer.publish image else pure ()

/-- The part of an install before its manifests are rendered: the report so far, and the tree. -/
def provision (installer : OvnInstaller) (cluster : ClusterTarget) : Routine (Report × String) := do
  let options := installer.options
  let report : Report := { cluster := cluster.name, cni := .ovnKubernetes }
  let report ← softly report "coredns" <| Corefile.patch installer.policy options.dnsServer
  let tree ← installer.source.ensure
  let built ← installer.builder.buildOrReuse options.buildImage options.ovnGitRef
  installer.publishing built.image
  return (report, tree)

/-- The part of an install before its manifests are applied. -/
def prepare (installer : OvnInstaller) (cluster : ClusterTarget) : Routine (Report × String) := do
  let (report, tree) ← installer.provision cluster
  installer.render tree cluster
  return (report, tree)

/-- The rest of an install. -/
def deploy (installer : OvnInstaller) (cluster : ClusterTarget) (report : Report)
    (tree : String) : Routine Report := do
  Manifest.applyAll (manifestDir tree) (.ovnKubernetes installer.options.ovsNode) cluster.name
    installer.roles
  let report ← softly report "readiness" installer.waitReady
  Site.deleteDaemonset systemNamespace OvnKubernetes.kubeProxy
  return report

theorem install_eq (installer : OvnInstaller) (cluster : ClusterTarget) :
    installer.install cluster =
      installer.prepare cluster >>= fun (report, tree) => installer.deploy cluster report tree := by
  simp only [install, prepare, provision, deploy, publishing, builder, bind_assoc, pure_bind]
  refine congrArg _ (funext fun report => congrArg _ (funext fun tree => ?_))
  refine congrArg _ (funext fun built => ?_)
  split <;> simp only [pure_bind]

/-- Events by which an install is prepared: the patch of the cluster's DNS, whatever came of it,
and then, all with success, the source tree, the image, its publication if there is to be one, and
the rendering. -/
def Prepared (installer : OvnInstaller) (cluster : ClusterTarget) (tree : String)
    (events : List (Event Site)) : Prop :=
  let options := installer.options
  ∃ dns source image publication rendering patched built,
    events = dns ++ (source ++ (image ++ (publication ++ rendering))) ∧
    Runs (Corefile.patch installer.policy options.dnsServer) dns patched ∧
    Runs installer.source.ensure source (.ok tree) ∧
    Runs (installer.builder.buildOrReuse options.buildImage options.ovnGitRef) image (.ok built) ∧
    Runs (installer.publishing built.image) publication (.ok ()) ∧
    Runs (installer.render tree cluster) rendering (.ok ())

theorem prepared_of_runs {installer : OvnInstaller} {cluster : ClusterTarget}
    {events : List (Event Site)} {report : Report} {tree : String}
    (h : Runs (installer.prepare cluster) events (.ok (report, tree))) :
    Prepared installer cluster tree events := by
  simp only [prepare, provision, bind_assoc, pure_bind, runs_bind_ok_iff, runs_pure_iff] at h
  obtain ⟨dns, report', _, rfl, hd, source, tree', _, rfl, hs, image, built, _, rfl, hi,
    publication, _, _, rfl, hp, rendering, _, _, rfl, hr, rfl, h⟩ := h
  obtain ⟨patched, hpatch, _⟩ := runs_softly_iff.mp hd
  obtain ⟨rfl, rfl⟩ := Prod.mk.inj (Except.ok.inj h)
  exact ⟨dns, source, image, publication, rendering, patched, built, by rw [List.append_nil],
    hpatch, hs, hi, hp, hr⟩

/-- A publication that succeeds gives the image its public name, if that is another one, and pushes
that name. -/
theorem runs_publishing_ok_iff {installer : OvnInstaller} {image : String}
    {events : List (Event Site)} :
    Runs (installer.publishing image) events (.ok ()) ↔
      events = if installer.options.pushDaemonsetImage = true then
        (if image = installer.options.daemonsetImage then []
          else [⟨.engine (.tag image installer.options.daemonsetImage), .ok ()⟩]) ++
          [⟨.engine (.push installer.options.daemonsetImage true), .ok ()⟩]
      else [] := by
  unfold publishing publish
  by_cases push : installer.options.pushDaemonsetImage = true
  · rw [if_pos push, if_pos push]
    by_cases named : image = installer.options.daemonsetImage
    · simp only [named, ne_eq, not_true_eq_false, ↓reduceIte]
      exact Procedure.runs_call_iff
    · simp only [named, ne_eq, not_false_eq_true, ↓reduceIte, runs_bind_ok_iff]
      constructor
      · rintro ⟨_, _, _, rfl, htag, hpush⟩
        rw [Procedure.runs_call_iff.mp htag, Procedure.runs_call_iff.mp hpush]
      · rintro rfl
        exact ⟨_, (), _, rfl, Procedure.runs_call_iff.mpr rfl, Procedure.runs_call_iff.mpr rfl⟩
  · rw [if_neg push, if_neg push]
    simp [runs_pure_iff]

/-- A rendering that succeeds finds the script of the tree and runs it, beside itself, with the
arguments of the cluster. -/
theorem runs_render_ok_iff {installer : OvnInstaller} {tree : String} {cluster : ClusterTarget}
    {events : List (Event Site)} :
    Runs (installer.render tree cluster) events (.ok ()) ↔
      let dir := Path.join (Path.join tree "dist") "images"
      events = [⟨.host (.fileExists (Path.join dir "daemonset.sh")), true⟩,
        ⟨.host (.runIn dir "bash" ("./daemonset.sh" ::
          OvnKubernetes.renderArguments installer.options.daemonsetImage cluster)), .ok ()⟩] := by
  refine runs_question_bind_iff.trans ⟨?_, ?_⟩
  · rintro ⟨there, _, rfl, rest⟩
    cases there with
    | false => cases (runs_throw_iff.mp rest).2
    | true =>
      rw [Procedure.runs_call_iff.mp rest]
      rfl
  · rintro rfl
    exact ⟨true, _, rfl, Procedure.runs_call_iff.mpr rfl⟩

def dnsCalls (data : Labels) : List ClusterCall :=
  [.getConfigMap systemNamespace Corefile.configMap,
    .updateConfigMap systemNamespace Corefile.configMap data]

theorem clusterCalls_patch {policy : Corefile.Policy} {server : String}
    {events : List (Event Site)} {result : Attempt Unit}
    (h : Runs (Corefile.patch policy server) events result) :
    ∃ data, Site.clusterCalls events <+: dnsCalls data := by
  have read {events result} (h : Runs (Site.getConfigMap systemNamespace Corefile.configMap) events
      result) : Site.clusterCalls events = [.getConfigMap systemNamespace Corefile.configMap] := by
    rw [Procedure.runs_call_iff.mp h]
    rfl
  rcases runs_bind_iff.mp h with ⟨e, h, _⟩ | ⟨before, data, after, rfl, h, h'⟩
  · obtain ⟨_, h, _⟩ := runs_mapError_iff.mp h
    exact ⟨[], by rw [read h]; simp [dnsCalls]⟩
  · rw [Site.clusterCalls_append, read (runs_mapError_ok_iff.mp h)]
    split at h'
    · obtain ⟨rfl, _⟩ := runs_throw_iff.mp h'
      exact ⟨[], by simp [dnsCalls]⟩
    · obtain ⟨_, h', _⟩ := runs_mapError_iff.mp h'
      rw [Procedure.runs_call_iff.mp h']
      exact ⟨_, List.prefix_refl _⟩

theorem only_publishing (installer : OvnInstaller) (image : String) :
    Only SiteCall.IsPreparation (installer.publishing image) := by
  have push : Only SiteCall.IsPreparation (Site.push installer.options.daemonsetImage true) :=
    only_attempt (only_call trivial)
  unfold publishing publish
  split
  · dsimp only
    split
    · exact Only.bind (only_attempt (only_call trivial)) fun _ => push
    · exact push
  · exact only_pure

theorem only_render (installer : OvnInstaller) (tree : String) (cluster : ClusterTarget) :
    Only SiteCall.IsLocal (installer.render tree cluster) := by
  unfold render
  refine Only.bind (only_ask (only_call nofun)) fun there => ?_
  dsimp only
  split
  · exact only_throw
  · exact only_attempt (only_call nofun)

theorem clusterCalls_provision {installer : OvnInstaller} {cluster : ClusterTarget}
    {events : List (Event Site)} {result : Attempt (Report × String)}
    (h : Runs (installer.provision cluster) events result) :
    ∃ data, Site.clusterCalls events <+: dnsCalls data := by
  rcases runs_bind_iff.mp h with ⟨e, hd, _⟩ | ⟨before, report, after, rfl, hd, h'⟩ <;>
    obtain ⟨_, hd, _⟩ := runs_softly_iff.mp hd
  · exact clusterCalls_patch hd
  · have prepares : ∀ e ∈ after, SiteCall.IsPreparation e.call := by
      refine h'.only (Only.bind (installer.source.only_ensure.mono fun _ =>
        SiteCall.IsErrand.isPreparation) fun tree => ?_)
      refine (installer.builder.only_buildOrReuse _ _).bind fun built => ?_
      exact (installer.only_publishing _).bind fun _ => only_pure
    rw [Site.clusterCalls_append, Site.clusterCalls_eq_nil fun e he => (prepares e he).isLocal,
      List.append_nil]
    exact clusterCalls_patch hd

/-- Until an install is prepared, the cluster is asked for nothing but its DNS. -/
theorem clusterCalls_prepare {installer : OvnInstaller} {cluster : ClusterTarget}
    {events : List (Event Site)} {result : Attempt (Report × String)}
    (h : Runs (installer.prepare cluster) events result) :
    ∃ data, Site.clusterCalls events <+: dnsCalls data := by
  rcases runs_bind_iff.mp h with ⟨e, hp, _⟩ | ⟨before, ⟨report, tree⟩, after, rfl, hp, hr⟩
  · exact clusterCalls_provision hp
  · have isLocal := hr.only ((installer.only_render tree cluster).bind fun _ => only_pure)
    rw [Site.clusterCalls_append, Site.clusterCalls_eq_nil isLocal, List.append_nil]
    exact clusterCalls_provision hp

def planFiles (plan : Manifest.Plan) : List String := plan.crds ++ plan.setup ++ plan.deployments

/-- The nodes of a control plane, as far as some events tell: those assigned, and when there are
none, the labelled ones among those that the cluster listed. -/
def IsControlPlane (roles : RoleAssignment) (cluster : String) (events : List (Event Site))
    (nodes : List String) : Prop :=
  nodes = roles.nodes cluster .master ∧ nodes ≠ [] ∨
    roles.nodes cluster .master = [] ∧ ∃ listed : List Node,
      (⟨.cluster .getNodes, .ok listed⟩ : Event Site) ∈ events ∧
      nodes = (listed.filter fun n => n.labels.has Manifest.controlPlaneLabel).map Node.name

theorem IsControlPlane.mono {cluster : String} {roles : RoleAssignment}
    {events more : List (Event Site)} {nodes : List String}
    (h : IsControlPlane roles cluster events nodes) (hm : events ⊆ more) :
    IsControlPlane roles cluster more nodes :=
  h.imp_right fun ⟨unassigned, listed, hl, hn⟩ => ⟨unassigned, listed, hm hl, hn⟩

def IsRollout : SiteCall → Prop
  | .cluster (.deleteDaemonset ..) => False
  | .cluster _ | .host (.readFile _) | .pause _ => True
  | _ => False

def IsWaiting : SiteCall → Prop
  | .cluster (.listPods ..) | .pause _ => True
  | _ => False

theorem IsWaiting.isRollout {c : SiteCall} (h : IsWaiting c) : IsRollout c := by
  unfold IsWaiting at h
  split at h
  · exact trivial
  · exact trivial
  · exact h.elim

theorem only_applyFiles {phase : Manifest.Phase} {dir cluster : String} {files : List String} :
    Only IsRollout (Manifest.applyFiles phase dir cluster files) :=
  only_forM fun _ _ => Only.bind (Only.mapError (only_attempt (only_call trivial)) _) fun _ =>
    Only.mapError (only_attempt (only_call trivial)) _

theorem only_applyUrls {phase : Manifest.Phase} {cluster : String} {urls : List String} :
    Only IsRollout (Manifest.applyUrls phase cluster urls) :=
  only_forM fun _ _ => Only.mapError (only_attempt (only_call trivial)) _

theorem only_controlPlaneNodes {cluster : String} {roles : RoleAssignment} :
    Only IsRollout (Manifest.controlPlaneNodes cluster roles) := by
  unfold Manifest.controlPlaneNodes
  split
  · exact Only.bind (only_attempt (only_call trivial)) fun _ => only_pure
  · exact only_pure

theorem only_prepareNode {cluster node : String} :
    Only IsRollout (Manifest.prepareNode cluster node) := by
  refine Only.bind (Only.mapError (only_attempt (only_call trivial)) _) fun _ => ?_
  exact only_forM fun key _ => Only.map (Only.outcome (only_attempt (only_call trivial))) _

theorem only_applyAll {dir : String} {plan : Manifest.Plan} {cluster : String}
    {roles : RoleAssignment} : Only IsRollout (Manifest.applyAll dir plan cluster roles) := by
  refine Only.bind only_applyFiles fun _ => Only.bind only_applyUrls fun _ => ?_
  refine Only.bind (only_ask (only_call trivial)) fun _ => Only.bind only_applyFiles fun _ => ?_
  refine Only.bind only_controlPlaneNodes fun nodes => ?_
  exact Only.bind (only_forM fun _ _ => only_prepareNode) fun _ => only_applyFiles

theorem only_waitFrom {ns selector : String} {timeout interval fuel now : Nat} :
    Only IsWaiting (Readiness.waitFrom ns selector timeout interval fuel now) := by
  induction fuel generalizing now with
  | zero => exact only_throw
  | succ fuel ih =>
    refine Only.bind (only_ask (only_call trivial)) fun _ => ?_
    refine Only.bind (only_ask (only_call trivial)) fun listing => ?_
    dsimp only
    split
    · exact only_pure
    · split
      · exact only_throw_bind
      · exact ih

theorem only_waitReady {installer : OvnInstaller} : Only IsWaiting installer.waitReady :=
  only_waitFrom

def proxyRemoval : ClusterCall := .deleteDaemonset systemNamespace OvnKubernetes.kubeProxy

theorem append_cons_cases {α : Type} {before after first last : List α} {a : α}
    (h : before ++ a :: after = first ++ last) :
    (∃ rest, first = before ++ a :: rest) ∨
      ∃ rest, before = first ++ rest ∧ last = rest ++ a :: after := by
  rcases List.append_eq_append_iff.mp h with ⟨rest, hf, hl⟩ | ⟨rest, hb, hl⟩
  · cases rest with
    | nil => exact .inr ⟨[], by simpa using hf.symm, hl.symm⟩
    | cons b rest =>
      obtain ⟨rfl, -⟩ := List.cons.inj hl
      exact .inl ⟨rest, hf⟩
  · exact .inr ⟨rest, hb, hl⟩

def publishingInstaller : OvnInstaller :=
  .offline .docker ⟨"/work", "ovn-kubernetes", "https://git.example/ovn.git", "master"⟩
    ⟨[("alpha", .master, "alpha-1")]⟩ { pushDaemonsetImage := true }

def alpha : ClusterTarget := ⟨"alpha", "10.1.0.0/16", "10.2.0.0/16", "https://10.0.0.1:6443"⟩

end OvnInstaller
end PodNetwork.Install
