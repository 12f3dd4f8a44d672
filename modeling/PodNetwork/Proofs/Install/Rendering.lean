import PodNetwork.Proofs.Install.Stages

/-! Which cluster the manifests that are applied were rendered for.

All clusters of a site share one source tree, and a rendering replaces the one before it. An
install renders what it applies. A redeploy applies what was rendered last, for whichever cluster
that was. -/
namespace PodNetwork.Install

open Routine OvnKubernetes OvnInstaller
open Procedure (Event only_call)

/-- The arguments of a successful rendering in a tree. -/
def renderedWith? (tree : String) (e : Event Site) : Option (List String) :=
  match e with
  | ⟨.host (.runIn dir program (script :: args)), .ok _⟩ =>
    if dir = Path.join (Path.join tree "dist") "images" ∧ program = "bash" ∧
      script = "./" ++ renderScript then some args else none
  | _ => none

theorem renderedWith?_render (tree : String) (args : List String) (done : Unit) :
    renderedWith? tree ⟨.host (.runIn (Path.join (Path.join tree "dist") "images") "bash"
      (("./" ++ renderScript) :: args)), .ok done⟩ = some args := if_pos ⟨rfl, rfl, rfl⟩

def renderings (tree : String) (events : List (Event Site)) : List (List String) :=
  events.filterMap (renderedWith? tree)

@[simp] theorem renderings_append (tree : String) (events later : List (Event Site)) :
    renderings tree (events ++ later) = renderings tree events ++ renderings tree later :=
  List.filterMap_append

def RendersNothing (c : SiteCall) : Prop := ∀ dir args, c ≠ .host (.runIn dir "bash" args)

theorem rendersNothing_of_isPreparation {c : SiteCall} (h : c.IsPreparation) :
    RendersNothing c := by
  rintro dir args rfl
  have same : "bash" = "git" := h
  exact absurd same (by decide)

theorem rendersNothing_of_isRollout {c : SiteCall} (h : IsRollout c) : RendersNothing c := by
  rintro dir args rfl
  exact h

theorem renderings_eq_nil {tree : String} {events : List (Event Site)}
    (h : ∀ e ∈ events, RendersNothing e.call) : renderings tree events = [] := by
  refine List.filterMap_eq_nil_iff.mpr fun e he => ?_
  unfold renderedWith?
  split
  · next dir program script args _ =>
    refine if_neg fun ⟨_, hp, _⟩ => ?_
    subst hp
    exact h _ he dir (script :: args) rfl
  · rfl

def AppliesNothing (c : SiteCall) : Prop := ∀ content, c ≠ .cluster (.applyManifest content)

theorem appliesNothing_of_isPreparation {c : SiteCall} (h : c.IsPreparation) :
    AppliesNothing c := by
  rintro content rfl
  exact h

/-- Every manifest that is applied was read from one of some files just before. -/
def AppliesFiles (dir : String) (files : List String) (events : List (Event Site)) : Prop :=
  ∀ before content answer after,
    events = before ++ ⟨.cluster (.applyManifest content), answer⟩ :: after →
      ∃ file ∈ files, ∃ earlier,
        before = earlier ++ [⟨.host (.readFile (Path.join dir file)), .ok content⟩]

section

variable {dir : String} {files : List String}

theorem appliesFiles_of_appliesNothing {events : List (Event Site)}
    (h : ∀ e ∈ events, AppliesNothing e.call) : AppliesFiles dir files events := by
  rintro before content answer after rfl
  exact absurd rfl (h _ List.mem_append_cons_self content)

theorem AppliesFiles.append {events later : List (Event Site)}
    (h : AppliesFiles dir files events) (hl : AppliesFiles dir files later) :
    AppliesFiles dir files (events ++ later) := by
  intro before content answer after split
  rcases append_cons_cases split.symm with ⟨rest, heq⟩ | ⟨rest, rfl, heq⟩
  · exact h _ _ _ _ heq
  · obtain ⟨file, hf, earlier, rfl⟩ := hl _ _ _ _ heq
    exact ⟨file, hf, events ++ earlier, (List.append_assoc ..).symm⟩

theorem appliesFiles_applyFile {phase : Manifest.Phase} {cluster file : String}
    (hf : file ∈ files) :
    Every (AppliesFiles dir files) (Manifest.applyFile phase dir cluster file) := by
  intro events result h
  rcases runs_bind_iff.mp h with ⟨e, hr, _⟩ | ⟨reading, content, applying, rfl, hr, ha⟩
  · obtain ⟨_, hr, _⟩ := runs_mapError_iff.mp hr
    refine appliesFiles_of_appliesNothing fun e he => ?_
    rw [Procedure.runs_call_iff.mp hr, List.mem_singleton] at he
    rw [he]
    exact nofun
  · obtain ⟨answer, ha, _⟩ := runs_mapError_iff.mp ha
    rw [Procedure.runs_call_iff.mp (runs_mapError_ok_iff.mp hr), Procedure.runs_call_iff.mp ha]
    intro before content' answer' after split
    -- Of the two events, the first one is the reading.
    match before, split with
    | [], split => cases split
    | [_], split =>
      obtain ⟨rfl, split⟩ := List.cons.inj split
      cases split
      exact ⟨file, hf, [], rfl⟩
    | _ :: _ :: _, split => simp at split

theorem appliesFiles_applyFiles {phase : Manifest.Phase} {cluster : String} {names : List String}
    (hn : names ⊆ files) :
    Every (AppliesFiles dir files) (Manifest.applyFiles phase dir cluster names) :=
  every_forM (appliesFiles_of_appliesNothing fun _ he => absurd he List.not_mem_nil)
    (fun _ _ => AppliesFiles.append) fun _ hf => appliesFiles_applyFile (hn hf)

theorem appliesFiles_of_only {α : Type} {routine : Routine α} (h : Only AppliesNothing routine) :
    Every (AppliesFiles dir files) routine :=
  h.every fun _ => appliesFiles_of_appliesNothing

end

theorem appliesFiles_applyAll {dir : String} {plan : Manifest.Plan} {cluster : String}
    {roles : RoleAssignment} :
    Every (AppliesFiles dir (planFiles plan)) (Manifest.applyAll dir plan cluster roles) := by
  have append := fun before after => @AppliesFiles.append dir (planFiles plan) before after
  refine Every.bind append (appliesFiles_applyFiles ?_) fun _ => ?_
  · exact fun file hf => List.mem_append_left _ (List.mem_append_left _ hf)
  refine Every.bind append (appliesFiles_of_only ?_) fun _ => ?_
  · exact only_forM fun _ _ => Only.mapError (only_attempt (only_call nofun)) _
  refine Every.bind append (appliesFiles_of_only (only_ask (only_call nofun))) fun _ => ?_
  refine Every.bind append (appliesFiles_applyFiles ?_) fun _ => ?_
  · exact fun file hf => List.mem_append_left _ (List.mem_append_right _ hf)
  refine Every.bind append (appliesFiles_of_only ?_) fun nodes => ?_
  · unfold Manifest.controlPlaneNodes
    split
    · exact Only.bind (only_attempt (only_call nofun)) fun _ => only_pure
    · exact only_pure
  refine Every.bind append (appliesFiles_of_only ?_) fun _ => appliesFiles_applyFiles ?_
  · refine only_forM fun _ _ =>
      Only.bind (Only.mapError (only_attempt (only_call nofun)) _) fun _ => ?_
    exact only_forM fun key _ => Only.map (Only.outcome (only_attempt (only_call nofun))) _
  · exact List.subset_append_right _ _

theorem appliesNothing_of_isWaiting {c : SiteCall} (h : IsWaiting c) : AppliesNothing c := by
  rintro content rfl
  exact h

theorem only_softly {allowed : SiteCall → Prop} {report : Report} {step : String}
    {routine : Routine Unit} (h : Only allowed routine) :
    Only allowed (softly report step routine) := Only.bind h.outcome fun _ => trivial

theorem appliesFiles_deploy {installer : OvnInstaller} {cluster : ClusterTarget} {report : Report}
    {tree : String} :
    Every (AppliesFiles (manifestDir tree) (planFiles (.ovnKubernetes installer.options.ovsNode)))
      (installer.deploy cluster report tree) := by
  refine Every.bind (fun _ _ => AppliesFiles.append) appliesFiles_applyAll fun _ => ?_
  refine appliesFiles_of_only ?_
  refine Only.bind (only_softly (only_waitReady.mono fun _ => appliesNothing_of_isWaiting))
    fun report => ?_
  exact Only.bind (only_attempt (only_call nofun)) fun _ => only_pure

theorem rendersNothing_deploy {installer : OvnInstaller} {cluster : ClusterTarget} {report : Report}
    {tree : String} : Only RendersNothing (installer.deploy cluster report tree) := by
  refine Only.bind (only_applyAll.mono fun _ => rendersNothing_of_isRollout) fun _ => ?_
  refine Only.bind (only_softly (only_waitReady.mono fun _ h =>
    rendersNothing_of_isRollout h.isRollout)) fun report => ?_
  exact Only.bind (only_attempt (only_call nofun)) fun _ => only_pure

theorem rendersNothing_patch {policy : Corefile.Policy} {server : String} :
    Only RendersNothing (Corefile.patch policy server) := by
  unfold Corefile.patch
  refine Only.bind (Only.mapError (only_attempt (only_call nofun)) _) fun data => ?_
  split
  · exact only_throw
  · exact Only.mapError (only_attempt (only_call nofun)) _

theorem rendersNothing_provision {installer : OvnInstaller} {cluster : ClusterTarget} :
    Only RendersNothing (installer.provision cluster) := by
  refine Only.bind (only_softly rendersNothing_patch) fun report => ?_
  refine Only.bind (installer.source.only_ensure.mono fun _ h =>
    rendersNothing_of_isPreparation h.isPreparation) fun tree => ?_
  refine Only.bind ((installer.builder.only_buildOrReuse _ _).mono fun _ =>
    rendersNothing_of_isPreparation) fun built => ?_
  exact Only.bind ((installer.only_publishing _).mono fun _ => rendersNothing_of_isPreparation)
    fun _ => only_pure

/-- Rendering succeeds exactly if it renders, and then it does so for its cluster. -/
theorem renderings_render {installer : OvnInstaller} {tree : String} {cluster : ClusterTarget}
    {events : List (Event Site)} {result : Attempt Unit}
    (h : Runs (installer.render tree cluster) events result) :
    (∃ e, result = .error e) ∧ renderings tree events = [] ∨
      result = .ok () ∧ renderings tree events =
        [renderArguments installer.options.daemonsetImage cluster] := by
  rcases runs_bind_iff.mp h with ⟨e, hc, rfl⟩ | ⟨before, there, after, rfl, hc, h'⟩ <;>
    obtain ⟨_, hc, _⟩ := runs_ask_iff.mp hc <;> rw [Procedure.runs_call_iff.mp hc]
  · exact .inl ⟨⟨e, rfl⟩, rfl⟩
  · dsimp only at h'
    split at h'
    · obtain ⟨rfl, rfl⟩ := runs_throw_iff.mp h'
      exact .inl ⟨⟨_, rfl⟩, rfl⟩
    · rw [Procedure.runs_call_iff.mp h']
      cases result with
      | error e => exact .inl ⟨⟨e, rfl⟩, rfl⟩
      | ok =>
        exact .inr ⟨rfl, List.filterMap_cons_some (renderedWith?_render tree _ ())⟩

theorem renderings_prepare {installer : OvnInstaller} {cluster : ClusterTarget}
    {events : List (Event Site)} {result : Attempt (Report × String)}
    (h : Runs (installer.prepare cluster) events result) :
    (∃ e, result = .error e) ∧ renderings installer.source.path events = [] ∨
      (∃ report, result = .ok (report, installer.source.path)) ∧
        renderings installer.source.path events =
          [renderArguments installer.options.daemonsetImage cluster] := by
  rcases runs_bind_iff.mp h with ⟨e, hp, rfl⟩ | ⟨before, ⟨report, tree⟩, after, rfl, hp, hr⟩
  · exact .inl ⟨⟨e, rfl⟩, renderings_eq_nil (hp.only rendersNothing_provision)⟩
  have before_nil := @renderings_eq_nil installer.source.path _ (hp.only rendersNothing_provision)
  obtain rfl : tree = installer.source.path := by
    simp only [provision, runs_bind_ok_iff, runs_pure_iff] at hp
    obtain ⟨_, _, _, _, _, _, tree', _, _, ensured, _, _, _, _, _, _, _, _, _, _, _, hp⟩ := hp
    obtain ⟨_, rfl⟩ := Prod.mk.inj (Except.ok.inj hp)
    exact SourceTree.path_of_ensure ensured
  rcases runs_bind_iff.mp hr with ⟨e, hrun, rfl⟩ | ⟨rendering, _, _, rfl, hrun, hp⟩
  · rcases renderings_render hrun with ⟨_, hn⟩ | ⟨hok, _⟩
    · exact .inl ⟨⟨e, rfl⟩, by rw [renderings_append, before_nil, hn]; rfl⟩
    · cases hok
  · obtain ⟨rfl, rfl⟩ := runs_pure_iff.mp hp
    rcases renderings_render hrun with ⟨⟨_, he⟩, _⟩ | ⟨_, hn⟩
    · cases he
    · exact .inr ⟨⟨report, rfl⟩, by rw [List.append_nil, renderings_append, before_nil, hn]; rfl⟩

/-- An install applies nothing unless it renders, and then what it applies was read after its own
rendering, which is its only one. -/
theorem install_renders {installer : OvnInstaller} {cluster : ClusterTarget}
    {events : List (Event Site)} {result : Attempt Report}
    (h : Runs (installer.install cluster) events result) :
    ∃ before after, events = before ++ after ∧ (∀ e ∈ before, AppliesNothing e.call) ∧
      renderings installer.source.path after = [] ∧
      AppliesFiles (manifestDir installer.source.path)
        (planFiles (.ovnKubernetes installer.options.ovsNode)) after ∧
      (renderings installer.source.path before = [] ∧ after = [] ∨
        renderings installer.source.path before =
          [renderArguments installer.options.daemonsetImage cluster]) := by
  have quiet {events : List (Event Site)} {data : Labels}
      (h : Site.clusterCalls events <+: dnsCalls data) : ∀ e ∈ events, AppliesNothing e.call := by
    intro e he content hc
    have := h.subset (Site.mem_clusterCalls_of_mem he hc)
    simp [dnsCalls] at this
  rw [install_eq] at h
  rcases runs_bind_iff.mp h with ⟨e, hp, _⟩ | ⟨preparation, ⟨report, tree⟩, rest, rfl, hp, hd⟩ <;>
    obtain ⟨data, hdata⟩ := clusterCalls_prepare hp
  · rcases renderings_prepare hp with ⟨_, hn⟩ | ⟨⟨_, hok⟩, _⟩
    · refine ⟨events, [], (List.append_nil _).symm, quiet hdata, rfl, ?_, .inl ⟨hn, rfl⟩⟩
      exact appliesFiles_of_appliesNothing fun _ he => absurd he List.not_mem_nil
    · cases hok
  · rcases renderings_prepare hp with ⟨⟨_, he⟩, _⟩ | ⟨⟨_, hok⟩, hn⟩
    · cases he
    · obtain ⟨_, rfl⟩ := Prod.mk.inj (Except.ok.inj hok)
      exact ⟨preparation, rest, rfl, quiet hdata, renderings_eq_nil (hd.only rendersNothing_deploy),
        appliesFiles_deploy _ _ hd, .inr hn⟩

/-- What a redeploy does once the deployments are applied. -/
theorem only_recycling {allowed : SiteCall → Prop} {installer : OvnInstaller} {report : Report}
    (delete : ∀ ns selector, allowed (.cluster (.deletePodsByLabel ns selector)))
    (wait : ∀ c, IsWaiting c → allowed c) :
    Only allowed (componentLabels.foldlM recycle report >>= fun report =>
      softly report "readiness" installer.waitReady) := by
  refine (only_foldlM (fun report label _ => ?_) report).bind fun report => ?_
  · exact (Only.outcome (only_attempt (only_call (delete _ _)))).bind fun _ => only_pure
  · exact only_softly (only_waitReady.mono wait)

theorem redeployComponents_renders {installer : OvnInstaller} {cluster : ClusterTarget}
    {events : List (Event Site)} {result : Attempt Report}
    (h : Runs (installer.redeployComponents cluster) events result) :
    renderings installer.source.path events = [] ∧
      AppliesFiles (manifestDir installer.source.path) (Manifest.deploymentFiles false) events := by
  rcases runs_bind_iff.mp h with ⟨e, hs, _⟩ | ⟨source, tree, rest, rfl, hs, hr⟩ <;>
    have prepares := hs.only (installer.source.only_ensure.mono fun _ =>
      SiteCall.IsErrand.isPreparation)
  · exact ⟨renderings_eq_nil fun e he => rendersNothing_of_isPreparation (prepares e he),
      appliesFiles_of_appliesNothing fun e he => appliesNothing_of_isPreparation (prepares e he)⟩
  obtain rfl := SourceTree.path_of_ensure hs
  constructor
  · refine renderings_eq_nil (List.forall_mem_append.mpr ⟨?_, ?_⟩)
    · exact fun e he => rendersNothing_of_isPreparation (prepares e he)
    · refine hr.only <|
        Only.bind (only_applyFiles.mono fun _ => rendersNothing_of_isRollout) fun _ => ?_
      exact only_recycling (fun _ _ => nofun) fun _ h => rendersNothing_of_isRollout h.isRollout
  · refine AppliesFiles.append ?_ ?_
    · exact appliesFiles_of_appliesNothing fun e he =>
        appliesNothing_of_isPreparation (prepares e he)
    · refine Every.bind (fun _ _ => AppliesFiles.append)
        (appliesFiles_applyFiles (List.Subset.refl _)) (fun _ => ?_) _ _ hr
      exact appliesFiles_of_only <|
        only_recycling (fun _ _ => nofun) fun _ => appliesNothing_of_isWaiting

/-- A redeploy renders nothing. -/
theorem redeploy_renders {installer : OvnInstaller} {cluster : ClusterTarget}
    {events : List (Event Site)} {result : Attempt Redeployment}
    (h : Runs (installer.redeploy cluster) events result) :
    renderings installer.source.path events = [] ∧
      AppliesFiles (manifestDir installer.source.path) (Manifest.deploymentFiles false) events := by
  rcases runs_bind_iff.mp h with ⟨e, hc, _⟩ | ⟨before, _, after, rfl, hc, hp⟩ <;>
    obtain ⟨_, hc, _⟩ := runs_mapError_iff.mp hc
  · exact redeployComponents_renders hc
  · obtain ⟨rfl, _⟩ := runs_pure_iff.mp hp
    rw [List.append_nil]
    exact redeployComponents_renders hc

inductive Deed where
  | install
  | redeploy
  deriving DecidableEq, Repr, Inhabited

def Deed.Happens (installer : OvnInstaller) (cluster : ClusterTarget) (events : List (Event Site)) :
    Deed → Prop
  | .install => ∃ result, Runs (installer.install cluster) events result
  | .redeploy => ∃ result, Runs (installer.redeploy cluster) events result

/-- An install or a redeploy of one of the clusters that share a source tree and settings, and
what was asked and answered in its course. -/
structure Turn (source : SourceTree) (options : OvnOptions) where
  deed : Deed
  installer : OvnInstaller
  cluster : ClusterTarget
  events : List (Event Site)
  source_eq : installer.source = source
  options_eq : installer.options = options
  happens : deed.Happens installer cluster events

section

variable {source : SourceTree} {options : OvnOptions}

def eventsOf (history : List (Turn source options)) : List (Event Site) :=
  history.flatMap Turn.events

def Turn.renders (turn : Turn source options) : Bool :=
  !(renderings source.path turn.events).isEmpty

def lastRendered (history : List (Turn source options)) : Option ClusterTarget :=
  (history.filter Turn.renders).getLast?.map Turn.cluster

/-- The cluster for which the manifests were rendered that a turn applies, given the turns before
it. -/
def Turn.appliedTarget (earlier : List (Turn source options)) (turn : Turn source options) :
    Option ClusterTarget :=
  match turn.deed with
  | .install => some turn.cluster
  | .redeploy => lastRendered earlier

theorem deploymentFiles_subset (ovsNode : Bool) :
    Manifest.deploymentFiles false ⊆ Manifest.deploymentFiles ovsNode := by
  cases ovsNode
  · exact List.Subset.refl _
  · exact List.cons_subset_cons _ (List.subset_cons_self _ _)

theorem planFiles_subset {ovsNode : Bool} :
    planFiles (.ovnKubernetes ovsNode) ⊆ planFiles (.ovnKubernetes true) := by
  refine fun file hf => (List.mem_append.mp hf).elim (List.mem_append_left _) fun hf => ?_
  refine List.mem_append_right _ ?_
  cases ovsNode
  · exact deploymentFiles_subset true hf
  · exact hf

/-- What a turn applies was read after the rendering that it made itself, if it made any. -/
theorem Turn.reads (turn : Turn source options) {before after : List (Event Site)}
    {content : Bytes} {answer : Attempt Unit}
    (split : turn.events = before ++ ⟨.cluster (.applyManifest content), answer⟩ :: after) :
    ∃ file ∈ planFiles (.ovnKubernetes options.ovsNode), ∃ earlier,
      before = earlier ++
        [⟨.host (.readFile (Path.join (manifestDir source.path) file)), .ok content⟩] ∧
      renderings source.path earlier =
        if turn.deed = .install then [renderArguments options.daemonsetImage turn.cluster]
        else [] := by
  obtain ⟨deed, installer, cluster, events, rfl, rfl, happens⟩ := turn
  cases deed with
  | install =>
    obtain ⟨result, h⟩ := happens
    obtain ⟨unapplied, rest, rfl, quiet, hrest, applies, hown⟩ := install_renders h
    rcases append_cons_cases split.symm with ⟨more, rfl⟩ | ⟨more, rfl, rfl⟩
    · exact absurd rfl (quiet _ List.mem_append_cons_self content)
    obtain ⟨file, hf, earlier, rfl⟩ := applies _ _ _ _ rfl
    rcases hown with ⟨_, hnone⟩ | hown
    · simp at hnone
    · simp only [renderings_append, List.append_eq_nil_iff] at hrest
      refine ⟨file, hf, unapplied ++ earlier, (List.append_assoc ..).symm, ?_⟩
      rw [renderings_append, hown, hrest.1.1, List.append_nil, if_pos rfl]
  | redeploy =>
    obtain ⟨result, h⟩ := happens
    obtain ⟨hn, applies⟩ := redeploy_renders h
    dsimp only at split
    obtain ⟨file, hf, earlier, rfl⟩ := applies _ _ _ _ split
    refine ⟨file, ?_, earlier, rfl, ?_⟩
    · exact List.mem_append_right _ (deploymentFiles_subset _ hf)
    · rw [split] at hn
      simp only [renderings_append, List.append_eq_nil_iff] at hn
      rw [hn.1.1]
      rfl

theorem Turn.renderings_eq (turn : Turn source options) :
    renderings source.path turn.events =
      if turn.renders then [renderArguments options.daemonsetImage turn.cluster] else [] := by
  unfold Turn.renders
  obtain ⟨deed, installer, cluster, events, rfl, rfl, happens⟩ := turn
  cases deed with
  | install =>
    obtain ⟨result, h⟩ := happens
    obtain ⟨before, after, rfl, _, hafter, _, ⟨hown, _⟩ | hown⟩ := install_renders h <;>
      simp [hown, hafter]
  | redeploy =>
    obtain ⟨result, h⟩ := happens
    simp [(redeploy_renders h).1]

theorem renderings_eventsOf (history : List (Turn source options)) :
    renderings source.path (eventsOf history) = (history.filter Turn.renders).map fun turn =>
      renderArguments options.daemonsetImage turn.cluster := by
  induction history with
  | nil => rfl
  | cons turn rest ih =>
    rw [eventsOf, List.flatMap_cons, renderings_append, turn.renderings_eq, ← eventsOf, ih,
      List.filter_cons]
    split <;> rfl

def SameNetwork (a b : ClusterTarget) : Prop :=
  a.podCidr = b.podCidr ∧ a.serviceCidr = b.serviceCidr ∧ a.apiServerUrl = b.apiServerUrl

theorem renderArguments_inj {image : String} {a b : ClusterTarget} :
    renderArguments image a = renderArguments image b ↔ SameNetwork a b := by
  simp [renderArguments, SameNetwork]

/-- Whether every manifest that is read has the content that the last rendering gave it. Before the
first rendering there is none to be read. -/
def ReadsRendered (rendering : List String → String → Option Bytes) (tree : String)
    (events : List (Event Site)) : Prop :=
  ∀ before path content after, events = before ++ ⟨.host (.readFile path), .ok content⟩ :: after →
    path ∈ (planFiles (.ovnKubernetes true)).map (Path.join (manifestDir tree)) →
      ((renderings tree before).getLast?.bind fun args => rendering args path) = some content

def fileRead? (e : Event Site) : Option (String × Bytes) :=
  match e with
  | ⟨.host (.readFile path), .ok content⟩ => some (path, content)
  | _ => none

theorem fileRead?_all {p : String × Bytes → Bool} {e : Event Site} :
    (fileRead? e).all p ↔
      ∀ path content, e = ⟨.host (.readFile path), .ok content⟩ → p (path, content) := by
  constructor
  · rintro h path content rfl
    exact h
  · intro h
    unfold fileRead?
    split
    · exact h _ _ rfl
    · rfl

/-- Follows the last rendering through some events, and checks what is read of the manifests. -/
def readsRendered (rendering : List String → String → Option Bytes) (tree : String) :
    Option (List String) → List (Event Site) → Bool
  | _, [] => true
  | last, e :: rest =>
    ((fileRead? e).all fun (path, content) =>
      (last.bind fun args => rendering args path) = some content ||
        path ∉ (planFiles (.ovnKubernetes true)).map (Path.join (manifestDir tree))) &&
    readsRendered rendering tree ((renderedWith? tree e).or last) rest

theorem getLast?_renderings_cons {tree : String} {e : Event Site} {events : List (Event Site)}
    {last : Option (List String)} :
    (renderings tree (e :: events)).getLast?.or last =
      (renderings tree events).getLast?.or ((renderedWith? tree e).or last) := by
  have step : renderings tree (e :: events) =
      (renderedWith? tree e).toList ++ renderings tree events := by
    rw [renderings, List.filterMap_cons]
    cases renderedWith? tree e <;> rfl
  rw [step, List.getLast?_append, Option.or_assoc]
  cases renderedWith? tree e <;> rfl

theorem readsRendered_iff {rendering : List String → String → Option Bytes} {tree : String}
    {events : List (Event Site)} {last : Option (List String)} :
    readsRendered rendering tree last events ↔
      ∀ before path content after,
        events = before ++ ⟨.host (.readFile path), .ok content⟩ :: after →
          path ∈ (planFiles (.ovnKubernetes true)).map (Path.join (manifestDir tree)) →
            (((renderings tree before).getLast?.or last).bind fun args => rendering args path) =
              some content := by
  induction events generalizing last with
  | nil => simp [readsRendered]
  | cons e rest ih =>
    rw [readsRendered, Bool.and_eq_true, ih]
    simp only [fileRead?_all, Bool.or_eq_true, decide_eq_true_iff, ← Decidable.imp_iff_or_not]
    constructor
    · intro ⟨hread, hrest⟩ before path content after split hpath
      cases before with
      | nil => exact hread path content (List.cons.inj split).1 hpath
      | cons b before =>
        obtain ⟨rfl, rfl⟩ := List.cons.inj split
        rw [getLast?_renderings_cons]
        exact hrest before path content after rfl hpath
    · intro h
      constructor
      · rintro path content rfl
        exact h [] path content rest rfl
      · rintro before path content after rfl hpath
        rw [← getLast?_renderings_cons]
        exact h (e :: before) path content after rfl hpath

instance (rendering : List String → String → Option Bytes) (tree : String)
    (events : List (Event Site)) : Decidable (ReadsRendered rendering tree events) :=
  decidable_of_iff (readsRendered rendering tree none events) <| by
    rw [readsRendered_iff]
    simp only [Option.or_none]
    rfl

/-- In a history of turns over one disk, every manifest of a file that a turn applies is part of
one rendering: that of the turn's own cluster if it is an install, and otherwise the last one
before it. So it was rendered for the turn's own cluster exactly if the turn is an install, or if
the last cluster that was rendered for is the same in all that a rendering depends on. -/
theorem applied_rendering {rendering : List String → String → Option Bytes}
    {history earlier later : List (Turn source options)} {turn : Turn source options}
    (disk : ReadsRendered rendering source.path (eventsOf history))
    (place : history = earlier ++ turn :: later) {before after : List (Event Site)}
    {content : Bytes} {answer : Attempt Unit}
    (split : turn.events = before ++ ⟨.cluster (.applyManifest content), answer⟩ :: after) :
    ∃ file ∈ planFiles (.ovnKubernetes options.ovsNode), ∃ target,
      turn.appliedTarget earlier = some target ∧
      rendering (renderArguments options.daemonsetImage target)
        (Path.join (manifestDir source.path) file) = some content ∧
      (renderArguments options.daemonsetImage target =
          renderArguments options.daemonsetImage turn.cluster ↔
        turn.deed = .install ∨
          ∃ last, lastRendered earlier = some last ∧ SameNetwork last turn.cluster) := by
  obtain ⟨file, hf, reading, rfl, hown⟩ := turn.reads split
  have read := disk (eventsOf earlier ++ reading) (Path.join (manifestDir source.path) file) content
    (⟨.cluster (.applyManifest content), answer⟩ :: (after ++ eventsOf later)) (by
      simp [place, eventsOf, split]) (List.mem_map_of_mem (planFiles_subset hf))
  rw [renderings_append, renderings_eventsOf, hown] at read
  refine ⟨file, hf, ?_⟩
  cases hd : turn.deed with
  | install =>
    refine ⟨turn.cluster, by rw [Turn.appliedTarget, hd], ?_, by simp⟩
    simpa [hd] using read
  | redeploy =>
    rw [hd, if_neg nofun, List.append_nil, List.getLast?_map] at read
    obtain ⟨args, hargs, read⟩ := Option.bind_eq_some_iff.mp read
    obtain ⟨last, hlast, rfl⟩ := Option.map_eq_some_iff.mp hargs
    have rendered : lastRendered earlier = some last.cluster := by rw [lastRendered, hlast]; rfl
    refine ⟨last.cluster, by rw [Turn.appliedTarget, hd]; exact rendered, read, ?_⟩
    rw [renderArguments_inj, rendered]
    simp

end

/-- A rendering that depends on the network of the pods. -/
def markedRendering (args : List String) (_ : String) : Option Bytes :=
  if args[1]? = some "--net-cidr=10.1.0.0/16" then some [] else some [0]

def beta : ClusterTarget := ⟨"beta", "10.3.0.0/16", "10.4.0.0/16", "https://10.0.0.2:6443"⟩

def turnOf (deed : Deed) (cluster : ClusterTarget) :
    Turn publishingInstaller.source publishingInstaller.options where
  deed
  installer := publishingInstaller
  cluster
  events :=
    match deed with
    | .install =>
      (Procedure.recorded (I := Site) Site.obliging (publishingInstaller.install cluster).run).1
    | .redeploy =>
      (Procedure.recorded (I := Site) Site.obliging (publishingInstaller.redeploy cluster).run).1
  source_eq := rfl
  options_eq := rfl
  happens :=
    match deed with
    | .install => ⟨_, Procedure.runs_recorded (I := Site) Site.obliging _⟩
    | .redeploy => ⟨_, Procedure.runs_recorded (I := Site) Site.obliging _⟩

/-- A redeploy after the install of another cluster applies what was not rendered for its own. -/
theorem applied_rendering_beta :
    let image := publishingInstaller.options.daemonsetImage
    let redeploy := turnOf .redeploy beta
    let history := turnOf .install alpha :: redeploy :: []
    ReadsRendered markedRendering publishingInstaller.source.path (eventsOf history) ∧
      (∃ before answer after,
        redeploy.events = before ++ ⟨.cluster (.applyManifest []), answer⟩ :: after) ∧
      ∃ target, redeploy.appliedTarget [turnOf .install alpha] = some target ∧
        renderArguments image target ≠ renderArguments image beta := by
  intro image redeploy history
  have disk : ReadsRendered markedRendering publishingInstaller.source.path (eventsOf history) := by
    decide +kernel
  have handed : (⟨.cluster (.applyManifest []), .ok ()⟩ : Event Site) ∈ redeploy.events :=
    List.mem_of_getElem? (i := 3) rfl
  obtain ⟨before, after, split⟩ := List.append_of_mem handed
  refine ⟨disk, ⟨before, _, after, split⟩, ?_⟩
  obtain ⟨file, _, target, htarget, hcontent, _⟩ :=
    @applied_rendering _ _ _ _ [turnOf .install alpha] [] _ disk rfl _ _ _ _ split
  refine ⟨target, htarget, fun same => ?_⟩
  rw [same] at hcontent
  simp [markedRendering, renderArguments, beta] at hcontent

end PodNetwork.Install
