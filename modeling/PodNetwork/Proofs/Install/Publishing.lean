import PodNetwork.Install.Installer
import PodNetwork.Proofs.Engine.BuildArguments
import PodNetwork.Proofs.Engine.Driving
import PodNetwork.Proofs.Image.Reuse
import PodNetwork.Proofs.Install.BestEffort
import PodNetwork.Proofs.Install.Rendering

/-! Under which names an install publishes and deploys its image.

Of all that an install asks for, three kinds of requests say which image runs in the end: tags,
pushes, and renderings. They are the same whether they are asked of an engine or of its program, so
what an install does with them can be told from its commands. -/
namespace PodNetwork

open Routine
open Procedure (Event only_call)
open Install Install.OvnKubernetes

/-- What is done with an image. -/
inductive Handling where
  | tag (source target : String)
  | push (reference : String)
  /-- Manifests are rendered, with arguments of which the first names the image. -/
  | render (arguments : List String)
  deriving DecidableEq, Repr, Inhabited

/-- Whether the arguments of a rendering name an image, and no other one. -/
structure NamesImage (image : String) (arguments : List String) : Prop where
  first : arguments.head? = some ("--image=" ++ image)
  other : ∀ argument ∈ arguments.tail, argument.startsWith "--image=" = false

theorem namesImage_renderArguments (image : String) (cluster : ClusterTarget) :
    NamesImage image (renderArguments image cluster) where
  first := rfl
  other := by
    have apart {known value : String} (h : ¬ "--image=".toList <+: known.toList ++ value.toList) :
        (known ++ value).startsWith "--image=" = false := by
      rwa [← Bool.not_eq_true, String.startsWith_string_iff, String.toList_append]
    have fixed : ∀ argument ∈ fixedArguments, argument.startsWith "--image=" = false := by
      decide +kernel
    simp only [renderArguments, List.cons_append, List.tail_cons, List.forall_mem_cons]
    exact ⟨apart (by simp), apart (by simp), apart (by simp), fixed⟩

/-- What may be done if no image is published and manifests refer to a given one. -/
def Handling.IsUnpublished (image : String) : Handling → Prop
  | .tag .. => True
  | .push _ => False
  | .render arguments =>
    NamesImage image arguments ∧ ∃ cluster, arguments = renderArguments image cluster

/-- What a command does with an image. -/
def HostCall.handling? : HostCall → Option Handling
  | .execute _ ["tag", source, target] => some (.tag source target)
  | .run _ ("push" :: args) => args.getLast?.map .push
  | .runIn _ "bash" (script :: args) =>
    if script = "./" ++ renderScript then some (.render args) else none
  | _ => none

def SiteCall.handling? : SiteCall → Option Handling
  | .host call => call.handling?
  | .engine (.tag source target) => some (.tag source target)
  | .engine (.push image _) => some (.push image)
  | _ => none

def Site.handlings (events : List (Event Site)) : List Handling :=
  events.filterMap fun e => e.call.handling?

namespace Site

variable {events later : List (Event Site)}

@[simp] theorem handlings_append :
    handlings (events ++ later) = handlings events ++ handlings later := List.filterMap_append

theorem handlings_eq_nil (h : ∀ e ∈ events, e.call.handling? = none) : handlings events = [] :=
  List.filterMap_eq_nil_iff.mpr h

end Site

/-- A command does with images what the request does that it carries out. -/
theorem EngineName.Carries.handling?_eq {engine : EngineName} {e command : Event Site}
    (h : engine.Carries e command) : command.call.handling? = e.call.handling? := by
  cases h with
  | build options =>
    simp only [SiteCall.handling?, BuildOptions.arguments_eq]
    rfl
  | tag source target => rfl
  | push image insecure =>
    simp only [SiteCall.handling?, EngineName.pushArguments, List.cons_append]
    rw [HostCall.handling?, List.getLast?_concat]
    rfl
  | lookUp image => rfl
  | other => rfl

theorem EngineName.handlings_carried {engine : EngineName} {requests events : List (Event Site)}
    (h : List.Forall₂ engine.Carries requests events) :
    Site.handlings events = Site.handlings requests := by
  induction h with
  | nil => rfl
  | cons first _ ih =>
    simp only [Site.handlings, List.filterMap_cons, first.handling?_eq] at ih ⊢
    rw [ih]

theorem SiteCall.IsProviding.handling? {c : SiteCall} (h : c.IsProviding)
    (untagged : ∀ source target, c ≠ .engine (.tag source target)) : c.handling? = none := by
  cases c with
  | host call =>
    cases call
    case runIn dir program args =>
      obtain rfl : program = "git" := h
      rfl
    case execute => exact h.elim
    case run => exact h.elim
    all_goals rfl
  | engine request =>
    cases request
    case tag source target => exact absurd rfl (untagged source target)
    case push => exact h.elim
    all_goals rfl
  | _ => rfl

def SiteCall.IsUnpublished (image : String) (c : SiteCall) : Prop :=
  ∀ handling, c.handling? = some handling → handling.IsUnpublished image

theorem SiteCall.isUnpublished_of_unhandled {image : String} {c : SiteCall}
    (h : c.handling? = none) : c.IsUnpublished image := by
  intro handling handled
  rw [h] at handled
  cases handled

theorem SiteCall.IsProviding.isUnpublished {image : String} {c : SiteCall} (h : c.IsProviding) :
    c.IsUnpublished image := by
  by_cases tagging : ∃ source target, c = .engine (.tag source target)
  · obtain ⟨source, target, rfl⟩ := tagging
    intro handling handled
    obtain rfl := Option.some.inj handled
    trivial
  · refine isUnpublished_of_unhandled (h.handling? fun source target same => ?_)
    exact tagging ⟨source, target, same⟩

theorem SiteCall.PatchesDns.isRollout {c : SiteCall} (h : c.PatchesDns) :
    Install.OvnInstaller.IsRollout c := by
  unfold PatchesDns at h
  split at h
  · trivial
  · trivial
  · exact h.elim

theorem SiteCall.PatchesDns.ne_engine {c : SiteCall} (h : c.PatchesDns) (call : EngineCall) :
    c ≠ .engine call := by
  rintro rfl
  exact h

theorem Install.OvnInstaller.IsRollout.handling? {c : SiteCall} (h : OvnInstaller.IsRollout c) :
    c.handling? = none := by
  unfold OvnInstaller.IsRollout at h
  split at h
  · rfl
  · rfl
  · rfl
  · rfl
  · exact h.elim

namespace Image

variable {image name : String} {built : Built} {events more : List (Event Site)}

/-- Whether a name stands for the image that a run built or found under its key: for one that it
found, whatever that stood for before. -/
structure StandsFor (name : String) (built : Built) (events : List (Event Site)) : Prop where
  found : built.reused = true →
    (⟨.engine (.imageExists built.cachedImage), true⟩ : Event Site) ∈ events ∧
      ∀ {ι : Type} (made : BuildOptions → ι) (names : String → Option ι),
        events.foldl (renamed made) names name = names built.cachedImage
  added : built.reused = false →
    ∀ {ι : Type} (made : BuildOptions → ι) (names : String → Option ι),
      ∃ options : BuildOptions, options.image = built.cachedImage ∧
        (⟨.engine (.build options), .ok ()⟩ : Event Site) ∈ events ∧
          events.foldl (renamed made) names name = some (made options)

/-- What comes before the run and names nothing makes no difference. -/
theorem StandsFor.after (h : StandsFor name built events)
    (unnamed : ∀ e ∈ more, ¬SiteCall.IsNaming e.call) : StandsFor name built (more ++ events) where
  found reused := by
    obtain ⟨asked, same⟩ := h.found reused
    refine ⟨List.mem_append_right _ asked, fun made names => ?_⟩
    rw [List.foldl_append, foldl_renamed unnamed, same]
  added fresh _ made names := by
    obtain ⟨options, named, asked, same⟩ := h.added fresh made names
    refine ⟨options, named, List.mem_append_right _ asked, ?_⟩
    rw [List.foldl_append, foldl_renamed unnamed, same]

/-- A second name for an image stands for the same. -/
theorem StandsFor.tag (h : StandsFor name built events) (target : String) :
    StandsFor target built (events ++ [⟨.engine (.tag name target), .ok ()⟩]) := by
  have named {ι : Type} (made : BuildOptions → ι) (names : String → Option ι) :
      List.foldl (renamed made) names
          (events ++ [⟨.engine (.tag name target), .ok ()⟩]) target =
        events.foldl (renamed made) names name := by
    rw [List.foldl_append]
    exact Function.update_self ..
  constructor
  · intro reused
    obtain ⟨asked, same⟩ := h.found reused
    refine ⟨List.mem_append_left _ asked, fun made names => ?_⟩
    rw [named, same]
  · intro fresh ι made names
    obtain ⟨options, cached, asked, same⟩ := h.added fresh made names
    refine ⟨options, cached, List.mem_append_left _ asked, ?_⟩
    rw [named, same]

namespace Builder

variable {builder : Builder} {ref : Option String}

/-- A run that reuses an image has asked for it. -/
theorem Provides.found {key : String} (h : Provides builder image key events (.ok built))
    (reused : built.reused = true) :
    (⟨.engine (.imageExists built.cachedImage), true⟩ : Event Site) ∈ events := by
  generalize hr : (Except.ok built : Attempt Built) = result at h
  cases h with
  | refused => cases hr
  | reused answer =>
    cases answer with
    | error e => cases hr
    | ok =>
      cases hr
      exact List.mem_cons_self
  | built _ _ _ _ answer =>
    cases answer with
    | error e => cases hr
    | ok =>
      cases hr
      cases reused

/-- A run that succeeds makes the image available under the name that was asked for. -/
theorem available_of_runs (h : Runs (builder.buildOrReuse image ref) events (.ok built)) :
    Available image events built ∧ StandsFor image built events := by
  rcases keyed_or_failed h with ⟨⟨e, failed⟩, -⟩ | ⟨inputs, keyed⟩
  · cases failed
  obtain ⟨before, rest, rfl, errands, provided⟩ := keyed.split
  have available := (provided.available errands).1
  refine ⟨available, fun reused => ⟨?_, fun made names => ?_⟩, fun fresh ι made names => ?_⟩
  · exact List.mem_append_right _ (provided.found reused)
  · exact (available.named made names).2.1 reused
  · exact (available.named made names).2.2 fresh

/-- Of what such a run does with images, only the tag at its end counts. -/
theorem handlings_of_runs (h : Runs (builder.buildOrReuse image ref) events (.ok built)) :
    Site.handlings events = [.tag built.cachedImage image] := by
  have providing := h.only (builder.only_providing image ref)
  obtain ⟨before, rfl, untagged⟩ := (available_of_runs h).1.tagged
  rw [Site.handlings_append, Site.handlings_eq_nil fun e he => ?_]
  · rfl
  · exact (providing e (List.mem_append_left _ he)).handling? (untagged e he)

end Builder
end Image

namespace Install.OvnInstaller

variable {installer : OvnInstaller} {cluster : ClusterTarget} {events : List (Event Site)}

theorem handlings_render {tree : String}
    (h : Runs (installer.render tree cluster) events (.ok ())) :
    Site.handlings events =
      [.render (renderArguments installer.options.daemonsetImage cluster)] := by
  rw [runs_render_ok_iff.mp h]
  rfl

/-- Once its manifests are rendered, an install has nothing more to do with images. -/
theorem unhandled_deploy {report : Report} {tree : String} :
    Only (·.handling? = none) (installer.deploy cluster report tree) := by
  refine Only.bind (only_applyAll.mono fun _ => IsRollout.handling?) fun _ => ?_
  refine Only.bind (only_softly (only_waitReady.mono fun _ h => h.isRollout.handling?))
    fun report => ?_
  exact Only.bind (only_attempt (only_call rfl)) fun _ => only_pure

/-- How an install that succeeds goes, as far as images are concerned: an image is provided under
its local name, which is published if that is asked for, and manifests are rendered. -/
theorem stages_of_runs {report : Report}
    (h : Runs (installer.install cluster) events (.ok report)) :
    ∃ built before publication after, events = before ++ (publication ++ after) ∧
      Site.handlings before = [.tag built.cachedImage installer.options.buildImage] ∧
      Image.StandsFor installer.options.buildImage built before ∧
      Runs (installer.publishing installer.options.buildImage) publication (.ok ()) ∧
      Site.handlings after =
        [.render (renderArguments installer.options.daemonsetImage cluster)] := by
  rw [install_eq] at h
  obtain ⟨_, ⟨report', tree⟩, deployment, rfl, hp, hd⟩ := runs_bind_ok_iff.mp h
  obtain ⟨dns, source, image, publication, rendering, patched, built, rfl, hdns, hsource, himage,
    hpublication, hrendering⟩ := prepared_of_runs hp
  obtain ⟨available, stands⟩ := Image.Builder.available_of_runs himage
  have patches := hdns.only only_patch
  have fetches := hsource.only installer.source.only_fetching
  have quiet : ∀ e ∈ dns ++ source, e.call.handling? = none ∧ ¬SiteCall.IsNaming e.call := by
    refine List.forall_mem_append.mpr ⟨fun e he => ?_, fun e he => ?_⟩
    · exact ⟨(patches e he).isRollout.handling?, SiteCall.not_isNaming (patches e he).ne_engine⟩
    · have fetching := fetches e he
      exact ⟨fetching.isProviding.handling? fun _ _ => fetching.isErrand.ne_engine _,
        SiteCall.not_isNaming fetching.isErrand.ne_engine⟩
  refine ⟨built, dns ++ source ++ image, publication, rendering ++ deployment, by simp, ?_, ?_, ?_,
    ?_⟩
  · rw [Site.handlings_append, Site.handlings_eq_nil fun e he => (quiet e he).1,
      Image.Builder.handlings_of_runs himage]
    rfl
  · exact stands.after fun e he => (quiet e he).2
  · rw [← available.requested]
    exact hpublication
  · rw [Site.handlings_append, handlings_render hrendering,
      Site.handlings_eq_nil (hd.only unhandled_deploy)]
    rfl

/-- What becomes of the image in an install that publishes it: it is tagged and pushed under one
name, and the manifests refer to the same name. -/
structure Publishes (image reference : String) (cluster : ClusterTarget)
    (events : List (Event Site)) : Prop where
  handled : ∃ cached, Site.handlings events = [.tag cached image, .tag image reference,
    .push reference, .render (renderArguments reference cluster)]
  /-- What is pushed is the image that was built or found. -/
  pushed : ∃ built before after,
    events = before ++ ⟨.engine (.push reference true), .ok ()⟩ :: after ∧
      Image.StandsFor reference built before

theorem publishes_of_runs {report : Report}
    (push : installer.options.pushDaemonsetImage = true)
    (renamed : installer.options.buildImage ≠ installer.options.daemonsetImage)
    (h : Runs (installer.install cluster) events (.ok report)) :
    Publishes installer.options.buildImage installer.options.daemonsetImage cluster events := by
  obtain ⟨built, before, publication, after, rfl, tagged, stands, published, rendered⟩ :=
    stages_of_runs h
  rw [runs_publishing_ok_iff, if_pos push, if_neg renamed] at published
  rw [published]
  constructor
  · refine ⟨built.cachedImage, ?_⟩
    rw [Site.handlings_append, Site.handlings_append, tagged, rendered]
    rfl
  · refine ⟨built, _, after, ?_, stands.tag installer.options.daemonsetImage⟩
    simp

theorem handlings_of_unpublished {report : Report}
    (unpushed : installer.options.pushDaemonsetImage = false)
    (h : Runs (installer.install cluster) events (.ok report)) :
    ∃ cached, Site.handlings events = [.tag cached installer.options.buildImage,
      .render (renderArguments installer.options.daemonsetImage cluster)] := by
  obtain ⟨built, before, publication, after, rfl, tagged, -, unpublished, rendered⟩ :=
    stages_of_runs h
  rw [publishing, unpushed] at unpublished
  obtain ⟨rfl, -⟩ := runs_pure_iff.mp unpublished
  refine ⟨built.cachedImage, ?_⟩
  rw [Site.handlings_append, tagged, List.nil_append, rendered]
  rfl

/-- An install that publishes nothing, whatever it comes to. -/
theorem unpublished_install (unpushed : installer.options.pushDaemonsetImage = false) :
    Only (SiteCall.IsUnpublished installer.options.daemonsetImage) (installer.install cluster) := by
  have render (tree : String) :
      Only (SiteCall.IsUnpublished installer.options.daemonsetImage)
        (installer.render tree cluster) := by
    unfold render
    refine Only.bind (only_ask (only_call nofun)) fun there => ?_
    dsimp only
    split
    · exact only_throw
    · refine only_attempt (only_call fun handling h => ?_)
      obtain rfl := Option.some.inj h
      exact ⟨namesImage_renderArguments _ cluster, cluster, rfl⟩
  rw [install_eq]
  refine Only.bind (Only.bind ?_ fun (report, tree) => (render tree).bind fun _ => only_pure)
    fun (report, tree) => unhandled_deploy.mono fun _ => SiteCall.isUnpublished_of_unhandled
  refine Only.bind (only_softly (only_patch.mono fun _ h =>
    SiteCall.isUnpublished_of_unhandled h.isRollout.handling?)) fun report => ?_
  refine Only.bind (installer.source.only_fetching.mono fun _ h => h.isProviding.isUnpublished)
    fun tree => ?_
  refine Only.bind ((installer.builder.only_providing _ _).mono fun _ h => h.isUnpublished)
    fun built => ?_
  refine Only.bind ?_ fun _ => only_pure
  rw [publishing, unpushed]
  exact only_pure

end Install.OvnInstaller

namespace Install

theorem only_flannel {cluster : ClusterTarget} :
    Only OvnInstaller.IsRollout (Flannel.install cluster) := by
  refine Only.bind (Only.mapError (only_attempt (only_call trivial)) _) fun _ => ?_
  refine Only.bind ((Only.outcome (only_attempt (only_call trivial))).bind fun _ => only_pure)
    fun report => ?_
  refine Only.bind ((Only.outcome (only_attempt (only_call trivial))).bind fun _ => only_pure)
    fun report => ?_
  exact only_softly (OvnInstaller.only_waitFrom.mono fun _ h => h.isRollout)

/-- No plugin but OVN-Kubernetes has anything to do with images. -/
theorem Installer.unpublished_install {installer : Installer} {cluster : ClusterTarget}
    {image : String} (ovn : ∀ inner, installer = .ovnKubernetes inner →
      inner.options.pushDaemonsetImage = false ∧ inner.options.daemonsetImage = image) :
    Only (SiteCall.IsUnpublished image) (installer.install cluster) := by
  cases installer with
  | flannel =>
    exact only_flannel.mono fun _ h => SiteCall.isUnpublished_of_unhandled h.handling?
  | ovnKubernetes inner =>
    obtain ⟨unpushed, rfl⟩ := ovn inner rfl
    exact OvnInstaller.unpublished_install unpushed
  | kindnet containerNodes =>
    cases containerNodes with
    | true => exact only_pure
    | false => exact only_throw

end Install
end PodNetwork
