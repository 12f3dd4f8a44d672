import PodNetwork.Proofs.Procedure.Runs
import PodNetwork.Install.OvnKubernetes

/-! What an install does before its manifests are rendered: the source tree, the image, and its
publication. None of these steps asks anything of the cluster or renders anything. -/
namespace PodNetwork

open Routine
open Procedure (only_call)

/-- The calls that provide sources and images: none of them concerns the cluster, and the version
control system is the only program that is run in a directory. -/
def SiteCall.IsPreparation : SiteCall → Prop
  | .cluster _ => False
  | .host (.runIn _ program _) => program = "git"
  | _ => True

theorem SiteCall.IsPreparation.isLocal {c : SiteCall} (h : c.IsPreparation) : c.IsLocal := by
  rintro call rfl
  exact h

/-- The calls by which a source tree is provided: they concern the host alone. -/
def SiteCall.IsErrand : SiteCall → Prop
  | .host (.runIn _ program _) => program = "git"
  | .host _ => True
  | _ => False

/-- The calls by which a source tree is fetched: looks at paths, removals, and commands of the
version control system. -/
def SiteCall.IsFetching : SiteCall → Prop
  | .host (.runIn _ program _) => program = "git"
  | .host (.fileExists _) | .host (.removeAll _) => True
  | _ => False

/-- The calls by which an image is provided: the only programs that are run are the engine and the
version control system. -/
def SiteCall.IsProviding : SiteCall → Prop
  | .host (.runIn _ program _) => program = "git"
  | .host (.fileExists _) | .host (.removeAll _) | .host (.readFile _) | .host (.writeFile ..)
  | .host .hostInfo | .host (.executeWithin ..) => True
  | .engine (.push ..) => False
  | .engine _ | .userCache | .makeDirectories _ => True
  | _ => False

/-- The calls that look something up at the host and change nothing. -/
def SiteCall.IsInquiry : SiteCall → Prop
  | .host (.fileExists _) | .host (.readFile _) | .host .hostInfo | .host (.executeWithin ..) => True
  | _ => False

def SiteCall.IsCaching : SiteCall → Prop
  | .userCache | .makeDirectories _ => True
  | _ => False

theorem SiteCall.IsErrand.isPreparation {c : SiteCall} (h : c.IsErrand) : c.IsPreparation := by
  cases c with
  | host call =>
    cases call
    case runIn => exact h
    all_goals trivial
  | _ => exact h.elim

theorem SiteCall.IsInquiry.isErrand {c : SiteCall} (h : c.IsInquiry) : c.IsErrand := by
  unfold IsInquiry at h
  split at h
  · trivial
  · trivial
  · trivial
  · trivial
  · exact h.elim

theorem SiteCall.IsFetching.isErrand {c : SiteCall} (h : c.IsFetching) : c.IsErrand := by
  unfold IsFetching at h
  split at h
  · exact h
  · trivial
  · trivial
  · exact h.elim

theorem SiteCall.IsFetching.isProviding {c : SiteCall} (h : c.IsFetching) : c.IsProviding := by
  unfold IsFetching at h
  split at h
  · exact h
  · trivial
  · trivial
  · exact h.elim

theorem SiteCall.IsInquiry.isProviding {c : SiteCall} (h : c.IsInquiry) : c.IsProviding := by
  unfold IsInquiry at h
  split at h
  · trivial
  · trivial
  · trivial
  · trivial
  · exact h.elim

theorem SiteCall.IsCaching.isProviding {c : SiteCall} (h : c.IsCaching) : c.IsProviding := by
  cases c with
  | userCache => trivial
  | makeDirectories path => trivial
  | _ => exact h.elim

theorem SiteCall.IsProviding.isPreparation {c : SiteCall} (h : c.IsProviding) :
    c.IsPreparation := by
  cases c with
  | host call =>
    cases call
    case runIn => exact h
    all_goals trivial
  | cluster call => exact h.elim
  | _ => trivial

theorem SiteCall.IsErrand.ne_engine {c : SiteCall} (h : c.IsErrand) (call : EngineCall) :
    c ≠ .engine call := by
  rintro rfl
  exact h

theorem SiteCall.IsCaching.ne_engine {c : SiteCall} (h : c.IsCaching) (call : EngineCall) :
    c ≠ .engine call := by
  rintro rfl
  exact h

theorem only_runGit (dir : String) (args : List String) :
    Only SiteCall.IsFetching (Site.runIn dir "git" args) := only_attempt (only_call rfl)

namespace SourceTree

theorem only_isPopulated (tree : SourceTree) : Only SiteCall.IsFetching tree.isPopulated :=
  only_ask (only_call trivial)

theorem only_submoduleOrRemoved (tree : SourceTree) :
    Only SiteCall.IsFetching tree.submoduleOrRemoved := by
  have fetch : Only SiteCall.IsFetching tree.fetchSubmodule :=
    (only_runGit _ _).bind fun _ => only_runGit _ _
  have removal : Only SiteCall.IsFetching (Site.removeAll tree.path >>= fun _ => pure false) :=
    Only.bind (only_attempt (only_call trivial)) fun _ => only_pure
  unfold submoduleOrRemoved
  refine fetch.outcome.bind fun fetched => ?_
  cases fetched with
  | ok =>
    refine tree.only_isPopulated.bind fun populated => ?_
    split
    · exact only_pure
    · exact removal
  | error => exact removal

theorem only_cloneChecked (tree : SourceTree) : Only SiteCall.IsFetching tree.cloneChecked := by
  have clone : Only SiteCall.IsFetching tree.clone := (only_runGit _ _).mapError _
  refine clone.bind fun _ => ?_
  refine tree.only_isPopulated.bind fun populated => ?_
  split
  · exact only_pure
  · exact only_throw

theorem only_fetching (tree : SourceTree) : Only SiteCall.IsFetching tree.ensure := by
  have submodule : Only SiteCall.IsFetching (do
      if ← tree.submoduleOrRemoved then return tree.path
      tree.cloneChecked) := by
    refine tree.only_submoduleOrRemoved.bind fun fetched => ?_
    split
    · exact only_pure
    · exact tree.only_cloneChecked
  unfold ensure
  refine Only.bind (only_ask (only_call trivial)) fun there => ?_
  split
  · refine tree.only_isPopulated.bind fun populated => ?_
    split
    · exact only_pure
    · exact submodule
  · refine Only.bind (only_ask (only_call trivial)) fun versioned => ?_
    split
    · exact submodule
    · exact tree.only_cloneChecked

theorem only_ensure (tree : SourceTree) : Only SiteCall.IsErrand tree.ensure :=
  tree.only_fetching.mono fun _ => SiteCall.IsFetching.isErrand

/-- A tree that was made sure of is where it belongs. -/
theorem path_of_ensure {tree : SourceTree} {events : List (Procedure.Event Site)} {path : String}
    (h : Runs tree.ensure events (.ok path)) : path = tree.path := by
  have cloned {events path} (h : Runs tree.cloneChecked events (.ok path)) : path = tree.path := by
    obtain ⟨_, _, _, rfl, _, h⟩ := runs_bind_ok_iff.mp h
    obtain ⟨_, populated, _, rfl, _, h⟩ := runs_bind_ok_iff.mp h
    split at h
    · exact Except.ok.inj (runs_pure_iff.mp h).2
    · cases (runs_throw_iff.mp h).2
  have fetched {events path} (h : Runs (do
      if ← tree.submoduleOrRemoved then return tree.path
      tree.cloneChecked) events (.ok path)) : path = tree.path := by
    obtain ⟨_, done, _, rfl, _, h⟩ := runs_bind_ok_iff.mp h
    split at h
    · exact Except.ok.inj (runs_pure_iff.mp h).2
    · exact cloned h
  obtain ⟨_, there, _, rfl, _, h⟩ := runs_bind_ok_iff.mp h
  split at h <;> obtain ⟨_, populated, _, rfl, _, h⟩ := runs_bind_ok_iff.mp h <;> split at h
  · exact Except.ok.inj (runs_pure_iff.mp h).2
  · exact fetched h
  · exact fetched h
  · exact cloned h

/-- A tree that is found with its marker is used as it is. -/
theorem ensure_of_found {tree : SourceTree} {events : List (Procedure.Event Site)}
    {result : Attempt String} (h : Runs tree.ensure events result)
    (there : (⟨.host (.fileExists tree.path), false⟩ : Procedure.Event Site) ∉ events)
    (populated : (⟨.host (.fileExists (Path.join tree.path marker)), false⟩ :
      Procedure.Event Site) ∉ events) :
    result = .ok tree.path ∧ ∀ e ∈ events, SiteCall.IsInquiry e.call := by
  obtain ⟨found, _, rfl, hfound⟩ := runs_question_bind_iff.mp h
  cases found with
  | false => exact absurd List.mem_cons_self there
  | true =>
  obtain ⟨marked, _, rfl, hmarked⟩ := runs_question_bind_iff.mp hfound
  cases marked with
  | false => exact absurd (List.mem_cons_of_mem _ List.mem_cons_self) populated
  | true =>
  obtain ⟨rfl, rfl⟩ := runs_pure_iff.mp hmarked
  exact ⟨rfl, by simp [SiteCall.IsInquiry]⟩

end SourceTree

namespace Image

theorem only_git (tree : String) (args : List String) :
    Only SiteCall.IsInquiry (git tree args) :=
  Only.bind (only_attempt (only_call trivial)) fun _ => only_pure

theorem only_sourceRevision (tree : String) :
    Only SiteCall.IsInquiry (sourceRevision tree) := by
  unfold sourceRevision
  refine Only.bind (only_git _ _) fun printed => ?_
  generalize Text.trimmed printed = head
  dsimp only
  split
  · exact only_throw_bind
  · refine (only_git _ _).outcome.bind fun status => ?_
    cases status with
    | error => exact only_pure
    | ok status =>
      dsimp only
      split
      · exact only_pure
      · refine (only_git _ _).outcome.bind fun diff => ?_
        cases diff <;> exact only_pure

theorem only_resolveRef (repository ref : String) :
    Only SiteCall.IsInquiry (resolveRef repository ref) := by
  have listing : Only SiteCall.IsInquiry
      (Site.executeWithin gitTimeout "git" ["ls-remote", repository, ref]) :=
    only_attempt (only_call trivial)
  exact (listing.mapError _).bind fun _ => only_pure

namespace Builder

theorem only_retag (cachedImage image : String) :
    Only SiteCall.IsProviding (retag cachedImage image) := by
  unfold retag
  split
  · exact only_pure
  · exact only_attempt (only_call trivial)

theorem only_inputs (tree : String) (ref : Option String) :
    Only SiteCall.IsInquiry (inputs tree ref) := by
  unfold inputs
  refine Only.bind (only_ask (only_call trivial)) fun there => ?_
  dsimp only
  split
  · exact only_throw_bind
  refine Only.bind (only_attempt (only_call trivial)) fun content => ?_
  refine Only.bind (only_attempt (only_call trivial)) fun host => ?_
  split <;> refine Only.bind ?_ fun resolved => (only_sourceRevision tree).outcome.bind fun
    | .ok _ => only_pure
    | .error _ => only_pure
  · exact only_pure
  · exact only_pure
  · exact (only_resolveRef _ _).map _

theorem only_options (builder : Builder) (tree image : String) (inputs : Inputs) :
    Only SiteCall.IsCaching (builder.options tree image inputs) := by
  have default : Only SiteCall.IsCaching defaultCompilerCache := by
    refine Only.bind (only_ask (only_call trivial)) fun caches => ?_
    cases caches with
    | none => exact only_throw
    | some caches => exact only_pure
  have prepare : Only SiteCall.IsCaching builder.prepareCache := by
    unfold prepareCache
    dsimp only
    split <;> refine Only.bind ?_ fun dir =>
      Only.bind (only_attempt (only_call trivial)) fun _ => only_pure
    · exact only_pure
    · exact default
  refine Only.bind ?_ fun _ => only_pure
  unfold cacheArguments
  split
  · exact only_pure
  · refine prepare.outcome.bind fun dir => ?_
    cases dir <;> exact only_pure

theorem only_build (tree : String) (options : BuildOptions) :
    Only SiteCall.IsProviding (build tree options) := by
  have write (path : String) (content : Bytes) :
      Only SiteCall.IsProviding (Site.writeFile path content) := only_attempt (only_call trivial)
  have remove (path : String) : Only SiteCall.IsProviding (Site.removeAll path) :=
    only_attempt (only_call trivial)
  have make : Only SiteCall.IsProviding (Site.build options) := only_attempt (only_call trivial)
  unfold build
  refine ((write _ _).outcome.map _).bind fun _ => ?_
  refine make.outcome.bind fun built => ?_
  refine ((remove _).outcome.map _).bind fun _ => ?_
  cases built with
  | ok => exact only_pure
  | error => exact only_throw

theorem only_providing (builder : Builder) (image : String) (ref : Option String) :
    Only SiteCall.IsProviding (builder.buildOrReuse image ref) := by
  unfold buildOrReuse
  refine Only.bind (builder.tree.only_fetching.mono fun _ => SiteCall.IsFetching.isProviding)
    fun tree => ?_
  refine Only.bind ((only_inputs tree ref).mono fun _ => SiteCall.IsInquiry.isProviding)
    fun inputs => ?_
  dsimp only
  -- What the key and the name are plays no part, and opening them would evaluate the hash.
  generalize inputs.cacheKey = key
  generalize cachedName image key = cachedImage
  refine Only.bind (only_ask (only_call trivial)) fun reused => ?_
  have named (built : Built) :
      Only SiteCall.IsProviding (retag cachedImage image >>= fun _ => pure built) :=
    (only_retag _ _).bind fun _ => only_pure
  split
  · refine Only.bind ((builder.only_options _ _ _).mono fun _ => SiteCall.IsCaching.isProviding)
      fun options => ?_
    exact (only_build _ _).bind fun _ => named _
  · exact named _

/-- Making an image available leaves the cluster alone. -/
theorem only_buildOrReuse (builder : Builder) (image : String) (ref : Option String) :
    Only SiteCall.IsPreparation (builder.buildOrReuse image ref) :=
  (builder.only_providing image ref).mono fun _ => SiteCall.IsProviding.isPreparation

end Builder
end Image
end PodNetwork
