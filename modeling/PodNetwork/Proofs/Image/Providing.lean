import PodNetwork.Proofs.Image.Gathering

/-! How an image is provided once its key is known.

It is looked up under the name that carries the key. If it is there it only gets the name that was
asked for; otherwise it is built first, with the ignore file in place for as long as that takes. -/
namespace PodNetwork.Image

open Routine
open Procedure (Event)

theorem splitTag_some {image repository tag : List Char}
    (h : splitTag image = (repository, some tag)) : image = repository ++ ':' :: tag := by
  have whole := List.takeWhile_append_dropWhile (p := (!isBoundary ·)) (l := image.reverse)
  unfold splitTag at h
  dsimp only at h
  split at h
  · next found =>
    cases h
    rw [found] at whole
    simpa using congrArg List.reverse whole.symm
  · cases h

theorem splitTag_none {image repository : List Char} (h : splitTag image = (repository, none)) :
    repository = image := by
  unfold splitTag at h
  dsimp only at h
  split at h <;> cases h
  rfl

/-- The key comes last, behind a separator. -/
theorem keyedTag_eq (image key : List Char) : ∃ c, keyedTag image key = image ++ c :: key := by
  unfold keyedTag
  split
  · next tagged =>
    exact ⟨'-', by rw [splitTag_some tagged, List.append_assoc, List.cons_append]⟩
  · next untagged =>
    exact ⟨':', by rw [splitTag_none untagged]⟩

/-- No image is kept under the name that is asked for. -/
theorem cachedName_ne (image key : String) : cachedName image key ≠ image := by
  obtain ⟨c, h⟩ := keyedTag_eq image.toList key.toList
  intro same
  have lengths := congrArg (fun s => s.toList.length) same
  simp [cachedName, h] at lengths

namespace Builder

/-- What is done once the inputs are known: the image of their key is looked up, and built if it is
not there, and is then given the name that was asked for. -/
def provide (builder : Builder) (image tree : String) (inputs : Inputs) : Routine Built := do
  let cacheKey := inputs.cacheKey
  let cachedImage := cachedName image cacheKey
  let reused ← Site.imageExists cachedImage
  if !reused then build tree (← builder.options tree cachedImage inputs)
  retag cachedImage image
  return { image, cachedImage, cacheKey, reused }

theorem buildOrReuse_eq (builder : Builder) (image : String) (ref : Option String) :
    builder.buildOrReuse image ref = (do
      let tree ← builder.tree.ensure
      let inputs ← Builder.inputs tree ref
      builder.provide image tree inputs) := rfl

/-- A run that gets as far as the key of its image, and the inputs of the key. The tree is there and
the inputs were collected from it; how the run goes on is left open. -/
def Keyed (builder : Builder) (image : String) (ref : Option String) (events : List (Event Site))
    (result : Attempt Built) (inputs : Inputs) : Prop :=
  ∃ ensuring gathering rest, events = ensuring ++ (gathering ++ rest) ∧
    Runs builder.tree.ensure ensuring (.ok builder.tree.path) ∧
    Runs (Builder.inputs builder.tree.path ref) gathering (.ok inputs) ∧
    Runs (builder.provide image builder.tree.path inputs) rest result

variable {builder : Builder} {image : String} {ref : Option String} {events : List (Event Site)}
  {result : Attempt Built} {inputs : Inputs}

theorem Keyed.runs (h : Keyed builder image ref events result inputs) :
    Runs (builder.buildOrReuse image ref) events result := by
  obtain ⟨ensuring, gathering, rest, rfl, hs, hi, hp⟩ := h
  rw [buildOrReuse_eq]
  exact runs_bind_iff.mpr (.inr ⟨ensuring, _, _, rfl, hs,
    runs_bind_iff.mpr (.inr ⟨gathering, _, _, rfl, hi, hp⟩)⟩)

/-- A run fails before anything is asked of the engine, or gets as far as the key. -/
theorem keyed_or_failed (h : Runs (builder.buildOrReuse image ref) events result) :
    ((∃ e, result = .error e) ∧ ∀ e ∈ events, ∀ call, e.call ≠ .engine call) ∨
      ∃ inputs, Keyed builder image ref events result inputs := by
  rw [buildOrReuse_eq] at h
  rcases runs_bind_iff.mp h with ⟨e, hs, rfl⟩ | ⟨ensuring, tree, _, rfl, hs, h⟩ <;>
    have errands := hs.only builder.tree.only_ensure
  · exact .inl ⟨⟨e, rfl⟩, fun e he => (errands e he).ne_engine⟩
  obtain rfl := SourceTree.path_of_ensure hs
  rcases runs_bind_iff.mp h with ⟨e, hi, rfl⟩ | ⟨gathering, inputs, rest, rfl, hi, h⟩
  · have inquiries := hi.only (only_inputs _ _)
    exact .inl ⟨⟨e, rfl⟩, List.forall_mem_append.mpr ⟨fun e he => (errands e he).ne_engine,
      fun e he => (inquiries e he).isErrand.ne_engine⟩⟩
  · exact .inr ⟨inputs, ensuring, gathering, rest, rfl, hs, hi, h⟩

/-- The compiler's cache is never missed: a build can do without it. -/
theorem cacheArguments_ok {result : Attempt (List String)}
    (h : Runs builder.cacheArguments events result) :
    ∃ arguments, result = .ok arguments := by
  unfold cacheArguments at h
  split at h
  · exact ⟨[], (runs_pure_iff.mp h).2⟩
  · obtain ⟨_, prepared, _, rfl, _, hprepared⟩ := runs_outcome_bind_iff.mp h
    cases prepared <;> exact ⟨_, (runs_pure_iff.mp hprepared).2⟩

/-- Apart from the compiler's cache, the options of a build are known beforehand. -/
theorem options_ok {tree : String} {result : Attempt BuildOptions}
    (h : Runs (builder.options tree image inputs) events result) :
    ∃ options, result = .ok options ∧ options.image = image ∧
      options.platform = "linux/" ++ inputs.targetArch ∧ options.buildArgs = inputs.buildArgs := by
  rcases runs_bind_iff.mp h with ⟨e, hc, _⟩ | ⟨_, arguments, _, rfl, _, h⟩
  · obtain ⟨_, he⟩ := cacheArguments_ok hc
    cases he
  · refine ⟨_, (runs_pure_iff.mp h).2, ?_⟩
    dsimp only
    exact ⟨rfl, rfl, rfl⟩

/-- The events of a build. -/
def building (tree : String) (options : BuildOptions) (written built removed : Attempt Unit) :
    List (Event Site) :=
  [⟨.host (.writeFile (Path.join tree ignoreFile) (Bytes.ofString ignoreContent)), written⟩,
    ⟨.engine (.build options), built⟩,
    ⟨.host (.removeAll (Path.join tree ignoreFile)), removed⟩]

/-- A build succeeds if the engine builds, whatever becomes of the ignore file. -/
theorem building_of_runs {tree : String} {options : BuildOptions} {result : Attempt Unit}
    (h : Runs (build tree options) events result) :
    ∃ written built removed, events = building tree options written built removed ∧
      (built = .ok () ∧ result = .ok () ∨ (∃ e, built = .error e) ∧ ∃ e, result = .error e) := by
  unfold build at h
  obtain ⟨_, written, _, rfl, hw, h⟩ := runs_discard_outcome_bind_iff.mp h
  obtain ⟨_, built, _, rfl, hb, h⟩ := runs_outcome_bind_iff.mp h
  obtain ⟨_, removed, _, rfl, hr, h⟩ := runs_discard_outcome_bind_iff.mp h
  rw [Procedure.runs_call_iff.mp hw, Procedure.runs_call_iff.mp hb, Procedure.runs_call_iff.mp hr]
  refine ⟨written, built, removed, ?_⟩
  cases built with
  | ok _ =>
    obtain ⟨rfl, rfl⟩ := runs_pure_iff.mp h
    exact ⟨rfl, .inl ⟨rfl, rfl⟩⟩
  | error e =>
    obtain ⟨rfl, rfl⟩ := runs_throw_iff.mp h
    exact ⟨rfl, .inr ⟨⟨e, rfl⟩, _, rfl⟩⟩

/-- The ways in which an image is provided: it was there, it could not be built, or it was built. -/
inductive Provides (builder : Builder) (image key : String) :
    List (Event Site) → Attempt Built → Prop
  | reused (answer : Attempt Unit) :
    Provides builder image key
      [⟨.engine (.imageExists (cachedName image key)), true⟩,
        ⟨.engine (.tag (cachedName image key) image), answer⟩]
      (answer.map fun _ => ⟨image, cachedName image key, key, true⟩)
  | refused {caching : List (Event Site)} (aside : ∀ e ∈ caching, SiteCall.IsCaching e.call)
    (options : BuildOptions) (written removed : Attempt Unit) (cause e : Error) :
    Provides builder image key
      (⟨.engine (.imageExists (cachedName image key)), false⟩ ::
        (caching ++ building builder.tree.path options written (.error cause) removed))
      (.error e)
  | built {caching : List (Event Site)} (aside : ∀ e ∈ caching, SiteCall.IsCaching e.call)
    {options : BuildOptions} (named : options.image = cachedName image key)
    (written removed answer : Attempt Unit) :
    Provides builder image key
      (⟨.engine (.imageExists (cachedName image key)), false⟩ ::
        (caching ++ (building builder.tree.path options written (.ok ()) removed ++
          [⟨.engine (.tag (cachedName image key) image), answer⟩])))
      (answer.map fun _ => ⟨image, cachedName image key, key, false⟩)

theorem runs_retag_iff {cachedImage : String} (renamed : cachedImage ≠ image) {built : Built} :
    Runs (retag cachedImage image >>= fun _ => pure built) events result ↔
      ∃ answer : Attempt Unit, events = [⟨.engine (.tag cachedImage image), answer⟩] ∧
        result = answer.map fun _ => built := by
  rw [retag, if_neg renamed, runs_bind_iff]
  constructor
  · rintro (⟨e, h, rfl⟩ | ⟨_, answer, _, rfl, h, h'⟩)
    · exact ⟨.error e, Procedure.runs_call_iff.mp h, rfl⟩
    · obtain ⟨rfl, rfl⟩ := runs_pure_iff.mp h'
      exact ⟨.ok answer, by rw [List.append_nil, Procedure.runs_call_iff.mp h], rfl⟩
  · rintro ⟨e | answer, rfl, rfl⟩
    · exact .inl ⟨e, Procedure.runs_call_iff.mpr rfl, rfl⟩
    · exact .inr ⟨_, answer, [], rfl, Procedure.runs_call_iff.mpr rfl, .done _⟩

theorem provides_of_runs
    (h : Runs (builder.provide image builder.tree.path inputs) events result) :
    Provides builder image inputs.cacheKey events result := by
  unfold provide at h
  dsimp only at h
  have renamed := cachedName_ne image inputs.cacheKey
  -- What the key is plays no part, and opening it would evaluate the hash.
  generalize inputs.cacheKey = key at h renamed ⊢
  obtain ⟨there, _, rfl, hrest⟩ := runs_question_bind_iff.mp h
  cases there with
  | true =>
    obtain ⟨answer, rfl, rfl⟩ := (runs_retag_iff renamed).mp hrest
    exact .reused answer
  | false =>
    rcases runs_bind_iff.mp hrest with ⟨e, ho, rfl⟩ | ⟨caching, options, _, rfl, ho, hbuild⟩ <;>
      obtain ⟨_, heq, named, _⟩ := options_ok ho <;> cases heq
    have aside := ho.only (builder.only_options _ _ _)
    rcases runs_bind_iff.mp hbuild with ⟨e, hb, rfl⟩ | ⟨_, _, _, rfl, hb, htag⟩ <;>
      obtain ⟨written, _, removed, rfl, ⟨rfl, heq⟩ | ⟨⟨cause, rfl⟩, _, heq⟩⟩ :=
        building_of_runs hb <;> cases heq
    · exact .refused aside options written removed cause e
    · obtain ⟨answer, rfl, rfl⟩ := (runs_retag_iff renamed).mp htag
      exact .built aside named written removed answer

/-- A run that gets as far as the key provides the image after errands at the host. -/
theorem Keyed.split (h : Keyed builder image ref events result inputs) :
    ∃ before rest, events = before ++ rest ∧ (∀ e ∈ before, SiteCall.IsErrand e.call) ∧
      Provides builder image inputs.cacheKey rest result := by
  obtain ⟨ensuring, gathering, rest, rfl, hs, hi, hp⟩ := h
  refine ⟨ensuring ++ gathering, rest, by rw [List.append_assoc], ?_, provides_of_runs hp⟩
  exact List.forall_mem_append.mpr ⟨hs.only builder.tree.only_ensure,
    fun e he => (hi.only (only_inputs _ _) e he).isErrand⟩

/-- The answers of a site whose tree is at a commit and whose machine has an architecture. -/
def siteAt (head : String) (arch : Architecture) : (c : SiteCall) → c.Answer
  | .host (.executeWithin _ _ args) => .ok { stdout := if "rev-parse" ∈ args then head else "" }
  | .host .hostInfo => .ok ⟨"fedora", "41", [], arch⟩
  | c => Site.obliging c

def resultAt {α : Type} (site : (c : SiteCall) → c.Answer) (routine : Routine α) : Option α :=
  (Procedure.recorded (I := Site) site routine.run).2.toOption

theorem runs_of_resultAt {α : Type} {site : (c : SiteCall) → c.Answer} {routine : Routine α} {a : α}
    (h : resultAt site routine = some a) :
    Runs routine (Procedure.recorded (I := Site) site routine.run).1 (.ok a) := by
  have run : Runs routine (Procedure.recorded (I := Site) site routine.run).1
      (Procedure.recorded (I := Site) site routine.run).2 :=
    Procedure.runs_recorded (I := Site) site routine.run
  unfold resultAt at h
  cases result : (Procedure.recorded (I := Site) site routine.run).2 with
  | error e =>
    rw [result] at h
    cases h
  | ok b =>
    rw [result] at h run
    cases h
    exact run

/-- At a site where the tree is there and the inputs can be collected, a run gets as far as their
key. -/
theorem keyed_at (site : (c : SiteCall) → c.Answer) (builder : Builder) (image : String)
    (ref : Option String) (inputs : Inputs)
    (ensured : resultAt site builder.tree.ensure = some builder.tree.path)
    (collected : resultAt site (Builder.inputs builder.tree.path ref) = some inputs) :
    ∃ events result, Keyed builder image ref events result inputs ∧
      ∀ e ∈ events, e.answer = site e.call := by
  have rest := Procedure.runs_recorded (I := Site) site
    (builder.provide image builder.tree.path inputs).run
  refine ⟨_, _, ⟨_, _, _, rfl, runs_of_resultAt ensured, runs_of_resultAt collected, rest⟩, ?_⟩
  simp only [List.forall_mem_append]
  exact ⟨Procedure.answer_of_mem_recorded (I := Site),
    Procedure.answer_of_mem_recorded (I := Site), Procedure.answer_of_mem_recorded (I := Site)⟩

def dockerBuilder : Builder :=
  ⟨.docker, ⟨"/work", "ovn-kubernetes", "https://git.example/ovn.git", "master"⟩, none⟩

def podmanBuilder : Builder := { dockerBuilder with engine := .podman }

end Builder
end PodNetwork.Image
