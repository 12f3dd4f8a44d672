import Mathlib.Logic.Function.Basic
import PodNetwork.Proofs.Image.Providing
import PodNetwork.Proofs.Procedure.Views

/-! An image is built once.

The key depends on the answers of the host only through what they tell of the inputs. So a later
run that is told the same looks up the name that an earlier one built its image under, and an engine
that loses no image has it. -/
namespace PodNetwork

/-- The calls by which the images of an engine get names. -/
def SiteCall.IsNaming : SiteCall → Prop
  | .engine (.build _) | .engine (.tag ..) => True
  | _ => False

theorem SiteCall.not_isNaming {c : SiteCall} (h : ∀ call, c ≠ .engine call) : ¬ c.IsNaming := by
  intro naming
  cases c with
  | engine call => exact h call rfl
  | _ => exact naming

namespace Image

open Routine
open Procedure (Event AgreeOn)

/-- What the inputs of a build take from an answer: the content of a file, what a command printed,
and the architecture of a host. -/
def told : (c : SiteCall) → c.Answer → c.Answer
  | .host (.readFile _), answer => answer
  | .host (.executeWithin ..), answer =>
    Except.map (fun output : CommandOutput => { output with stderr := "" }) answer
  | .host .hostInfo, answer =>
    Except.map (fun host : HostInfo => ⟨"", "", [], host.architecture⟩) answer
  | c, _ => Site.obliging c

theorem seesOnly_git (tree : String) (args : List String) : SeesOnly told (git tree args) :=
  fun answer => ⟨by cases answer <;> rfl, by cases answer <;> trivial⟩

theorem seesOnly_sourceRevision (tree : String) : SeesOnly told (sourceRevision tree) := by
  unfold sourceRevision
  refine (seesOnly_git _ _).bind fun printed => ?_
  generalize Text.trimmed printed = head
  dsimp only
  split
  · trivial
  · refine (seesOnly_git _ _).outcome.bind fun status => ?_
    cases status with
    | error => exact seesOnly_pure
    | ok status =>
      dsimp only
      split
      · exact seesOnly_pure
      · refine (seesOnly_git _ _).outcome.bind fun diff => ?_
        cases diff <;> exact seesOnly_pure

theorem seesOnly_revision (tree : String) : SeesOnly told (revision tree) := by
  refine (seesOnly_sourceRevision tree).outcome.bind fun revision => ?_
  cases revision <;> exact seesOnly_pure

theorem seesOnly_resolution (ref : Option String) : SeesOnly told (resolution ref) := by
  have resolving (ref : String) : SeesOnly told (resolveRef ovnRepository ref) :=
    fun answer => ⟨by cases answer <;> rfl, by cases answer <;> trivial⟩
  unfold resolution
  split
  · exact seesOnly_pure
  · exact seesOnly_pure
  · exact (resolving _).map _

/-- The inputs of a build are told by what the host says of them. -/
theorem seesOnly_gather (tree : String) (ref : Option String) :
    SeesOnly told (gather tree ref) := by
  have reading (path : String) : SeesOnly told (Site.readFile path) := fun _ => ⟨rfl, trivial⟩
  refine (reading _).bind fun content => ?_
  intro answer
  cases answer with
  | error e => exact ⟨rfl, trivial⟩
  | ok host =>
    -- What is kept of the host is its architecture, and the rest uses no more of it.
    refine ⟨rfl, ?_⟩
    exact (seesOnly_resolution ref).bind fun _ =>
      (seesOnly_revision tree).bind fun _ => seesOnly_pure

/-- Whether an event puts an image into the storage of the engine under a name. -/
def Stores (name : String) (e : Event Site) : Prop :=
  match e with
  | ⟨.engine (.build options), .ok _⟩ => options.image = name
  | ⟨.engine (.tag _ target), .ok _⟩ => target = name
  | _ => False

/-- An engine that loses no image: it never denies one that it has stored before. -/
def Keeps (events : List (Event Site)) : Prop :=
  events.Pairwise fun e later =>
    ∀ name, Stores name e → later ≠ ⟨.engine (.imageExists name), false⟩

/-- What the names of an engine stand for after an event, given what its builds make: a build names
what it made, and a tag gives what one name stands for a second one. -/
def renamed {ι : Type} (made : BuildOptions → ι) (names : String → Option ι) (e : Event Site) :
    String → Option ι :=
  match e with
  | ⟨.engine (.build options), .ok _⟩ => Function.update names options.image (some (made options))
  | ⟨.engine (.tag source target), .ok _⟩ => Function.update names target (names source)
  | _ => names

theorem foldl_renamed {ι : Type} {made : BuildOptions → ι} {names : String → Option ι}
    {events : List (Event Site)} (h : ∀ e ∈ events, ¬ SiteCall.IsNaming e.call) :
    events.foldl (renamed made) names = names := by
  induction events with
  | nil => rfl
  | cons e rest ih =>
    obtain ⟨he, hrest⟩ := List.forall_mem_cons.mp h
    have same : renamed made names e = names := by
      unfold renamed
      split
      · exact (he trivial).elim
      · exact (he trivial).elim
      · rfl
    rw [List.foldl_cons, same, ih hrest]

/-- An image that is available under the name that was asked for. -/
structure Available (image : String) (events : List (Event Site)) (built : Built) : Prop where
  requested : built.image = image
  cached : built.cachedImage = cachedName image built.cacheKey
  distinct : built.cachedImage ≠ image
  /-- The run ends with its only tag. -/
  tagged : ∃ before : List (Event Site),
    events = before ++ [⟨.engine (.tag built.cachedImage image), .ok ()⟩] ∧
      ∀ e ∈ before, ∀ source target, e.call ≠ .engine (.tag source target)
  /-- Both names stand for what the run built or for what it found. -/
  named : ∀ {ι : Type} (made : BuildOptions → ι) (names : String → Option ι),
    let after := events.foldl (renamed made) names
    after image = after built.cachedImage ∧
      (built.reused = true → after image = names built.cachedImage) ∧
      (built.reused = false → ∃ options : BuildOptions, options.image = built.cachedImage ∧
        (⟨.engine (.build options), .ok ()⟩ : Event Site) ∈ events ∧
          after image = some (made options))

/-- A run in which nothing is built: the image of a key is found, and gets the name that was asked
for. -/
structure Reuses (image key : String) (events : List (Event Site)) (result : Attempt Built) :
    Prop where
  unbuilt : ∀ e ∈ events, ∀ options, e.call ≠ .engine (.build options)
  unwritten : ∀ e ∈ events, ∀ path content, e.call ≠ .host (.writeFile path content)
  tagged : ∃ (inquiries : List (Event Site)) (answer : Attempt Unit),
    events = inquiries ++ [⟨.engine (.imageExists (cachedName image key)), true⟩,
      ⟨.engine (.tag (cachedName image key) image), answer⟩] ∧
    result = answer.map fun _ => ⟨image, cachedName image key, key, true⟩

/-- Whether some events find the source tree in place, with its marker and its build file. -/
def InPlace (tree : SourceTree) (events : List (Event Site)) : Prop :=
  ∀ path ∈ [tree.path, Path.join tree.path SourceTree.marker, Path.join tree.path dockerfilePath],
    (⟨.host (.fileExists path), false⟩ : Event Site) ∉ events

namespace Builder

variable {builder : Builder} {image key : String} {ref : Option String}
  {events : List (Event Site)} {result : Attempt Built}

/-- A run that ends with its only tag, of an image that it built or found. -/
theorem available_of_tagged {before : List (Event Site)} (built : Built)
    (requested : built.image = image) (cached : built.cachedImage = cachedName image built.cacheKey)
    (untagged : ∀ e ∈ before, ∀ source target, e.call ≠ .engine (.tag source target))
    (named : ∀ {ι : Type} (made : BuildOptions → ι) (names : String → Option ι),
      let after := before.foldl (renamed made) names
      (built.reused = true → after built.cachedImage = names built.cachedImage) ∧
      (built.reused = false → ∃ options : BuildOptions, options.image = built.cachedImage ∧
        (⟨.engine (.build options), .ok ()⟩ : Event Site) ∈ before ∧
          after built.cachedImage = some (made options))) :
    Available image (before ++ [⟨.engine (.tag built.cachedImage image), .ok ()⟩]) built := by
  have distinct : built.cachedImage ≠ image := cached ▸ cachedName_ne _ _
  refine ⟨requested, cached, distinct, ⟨before, rfl, untagged⟩, fun made names => ?_⟩
  obtain ⟨found, added⟩ := named made names
  have last : List.foldl (renamed made) names
      (before ++ [⟨.engine (.tag built.cachedImage image), .ok ()⟩]) =
      Function.update (before.foldl (renamed made) names) image
        (before.foldl (renamed made) names built.cachedImage) := by
    rw [List.foldl_append]
    rfl
  dsimp only
  rw [last, Function.update_self, Function.update_of_ne distinct]
  refine ⟨rfl, found, fun fresh => ?_⟩
  obtain ⟨options, hname, hbuild, hmade⟩ := added fresh
  exact ⟨options, hname, List.mem_append_left _ hbuild, hmade⟩

theorem Provides.available {before : List (Event Site)} {built : Built}
    (h : Provides builder image key events (.ok built))
    (errands : ∀ e ∈ before, SiteCall.IsErrand e.call) :
    Available image (before ++ events) built ∧ built.cacheKey = key := by
  have unnamed (there : Bool) {caching : List (Event Site)}
      (aside : ∀ e ∈ caching, SiteCall.IsCaching e.call) :
      ∀ e ∈ before ++ ⟨.engine (.imageExists (cachedName image key)), there⟩ :: caching,
        ¬ SiteCall.IsNaming e.call :=
    List.forall_mem_append.mpr ⟨fun e he => SiteCall.not_isNaming (errands e he).ne_engine,
      List.forall_mem_cons.mpr ⟨id, fun e he => SiteCall.not_isNaming (aside e he).ne_engine⟩⟩
  have untagged {e : Event Site} (h : ¬ SiteCall.IsNaming e.call) (source target : String) :
      e.call ≠ .engine (.tag source target) := by
    intro tag
    rw [tag] at h
    exact h trivial
  generalize hr : (Except.ok built : Attempt Built) = result at h
  cases h with
  | refused => cases hr
  | reused answer =>
    cases answer with
    | error e => cases hr
    | ok =>
    cases hr
    have quiet := unnamed true (List.forall_mem_nil _)
    rw [List.append_cons]
    refine ⟨available_of_tagged ⟨image, cachedName image key, key, true⟩ rfl rfl
      (fun e he => untagged (quiet e he)) fun made names => ?_, rfl⟩
    dsimp only
    rw [foldl_renamed quiet]
    exact ⟨fun _ => rfl, nofun⟩
  | @built caching aside options named written removed answer =>
    cases answer with
    | error e => cases hr
    | ok =>
    cases hr
    have quiet := unnamed false aside
    rw [← List.cons_append, ← List.append_assoc, ← List.append_assoc]
    refine ⟨available_of_tagged ⟨image, cachedName image key, key, false⟩ rfl rfl ?_
      fun made names => ?_, rfl⟩
    · refine List.forall_mem_append.mpr ⟨fun e he => untagged (quiet e he), ?_⟩
      simp only [building, List.forall_mem_cons]
      exact ⟨nofun, nofun, nofun, List.forall_mem_nil _⟩
    dsimp only
    rw [List.foldl_append, foldl_renamed quiet]
    refine ⟨nofun, fun _ => ⟨options, named, by simp [building], ?_⟩⟩
    rw [← named]
    exact Function.update_self _ _ _

/-- What is built is the image of the key. -/
theorem Provides.image_of_built {options : BuildOptions}
    (h : Provides builder image key events result)
    (hb : (⟨.engine (.build options), .ok ()⟩ : Event Site) ∈ events) :
    options.image = cachedName image key := by
  have building_ok {tree : String} {given : BuildOptions} {written built removed : Attempt Unit}
      (hb : ⟨.engine (.build options), .ok ()⟩ ∈ building tree given written built removed) :
      given = options ∧ built = .ok () := by
    rcases List.mem_cons.mp hb with heq | hb
    · cases heq
    rcases List.mem_cons.mp hb with heq | hb
    · cases heq
      exact ⟨rfl, rfl⟩
    · cases List.mem_singleton.mp hb
  cases h with
  | reused => cases List.mem_singleton.mp ((List.mem_cons.mp hb).resolve_left nofun)
  | refused aside =>
    rcases List.mem_append.mp ((List.mem_cons.mp hb).resolve_left nofun) with hb | hb
    · exact (aside _ hb).elim
    · cases (building_ok hb).2
  | built aside named =>
    rcases List.mem_append.mp ((List.mem_cons.mp hb).resolve_left nofun) with hb | hb
    · exact (aside _ hb).elim
    rcases List.mem_append.mp hb with hb | hb
    · exact (building_ok hb).1 ▸ named
    · cases List.mem_singleton.mp hb

/-- The image is asked for first, and no other one is. -/
theorem Provides.asks_first (h : Provides builder image key events result) :
    ∃ there tail, events = ⟨.engine (.imageExists (cachedName image key)), there⟩ :: tail ∧
      ∀ e ∈ tail, ∀ name, e.call ≠ .engine (.imageExists name) := by
  have building_ne {tree : String} {options : BuildOptions} {written built removed : Attempt Unit} :
      ∀ e ∈ building tree options written built removed, ∀ name,
        e.call ≠ .engine (.imageExists name) := by
    simp only [building, List.forall_mem_cons]
    exact ⟨nofun, nofun, nofun, List.forall_mem_nil _⟩
  cases h with
  | reused => exact ⟨_, _, rfl, List.forall_mem_singleton.mpr nofun⟩
  | refused aside =>
    exact ⟨_, _, rfl, List.forall_mem_append.mpr
      ⟨fun e he name => (aside e he).ne_engine _, building_ne⟩⟩
  | built aside =>
    exact ⟨_, _, rfl, List.forall_mem_append.mpr ⟨fun e he name => (aside e he).ne_engine _,
      List.forall_mem_append.mpr ⟨building_ne, List.forall_mem_singleton.mpr nofun⟩⟩⟩

theorem Provides.reuses {inquiries : List (Event Site)}
    (h : Provides builder image key events result)
    (kept : (⟨.engine (.imageExists (cachedName image key)), false⟩ : Event Site) ∉ events)
    (inquiring : ∀ e ∈ inquiries, SiteCall.IsInquiry e.call) :
    Reuses image key (inquiries ++ events) result := by
  cases h with
  | refused => exact absurd List.mem_cons_self kept
  | built => exact absurd List.mem_cons_self kept
  | reused answer =>
    refine ⟨?_, ?_, inquiries, answer, rfl, rfl⟩ <;> refine List.forall_mem_append.mpr ⟨?_, ?_⟩
    · exact fun e he options => (inquiring e he).isErrand.ne_engine _
    · simp only [List.forall_mem_cons]
      exact ⟨nofun, nofun, List.forall_mem_nil _⟩
    · intro e he path content write
      have inquiry := inquiring e he
      rw [write] at inquiry
      exact inquiry
    · simp only [List.forall_mem_cons]
      exact ⟨nofun, nofun, List.forall_mem_nil _⟩

/-- A run that finds the tree in place and is told what an earlier one was told has its key. -/
theorem Keyed.provides {inputs : Inputs} {later : List (Event Site)} {laterResult : Attempt Built}
    (earlier : Keyed builder image ref events result inputs)
    (h : Runs (builder.buildOrReuse image ref) later laterResult)
    (place : InPlace builder.tree later) (same : AgreeOn told events later) :
    ∃ inquiries rest, later = inquiries ++ rest ∧
      (∀ e ∈ inquiries, SiteCall.IsInquiry e.call) ∧
      Provides builder image inputs.cacheKey rest laterResult := by
  obtain ⟨ensuring, gathering, rest, rfl, _, hgathering, _⟩ := earlier
  obtain ⟨collecting, part, hcollecting⟩ := gathers_of_runs hgathering
  have collected : collecting ⊆ ensuring ++ (gathering ++ rest) := fun e he => by simp [part he]
  have ensured {finding : List (Event Site)} {outcome : Attempt String} (within : finding ⊆ later)
      (hf : Runs builder.tree.ensure finding outcome) :=
    SourceTree.ensure_of_found hf (fun hm => place _ (by simp) (within hm))
      fun hm => place _ (by simp) (within hm)
  have gathered {asking : List (Event Site)} {outcome : Attempt Inputs} (within : asking ⊆ later)
      (hg : Runs (gather builder.tree.path ref) asking outcome) : outcome = .ok inputs :=
    (hcollecting.eq_of_agreeOn hg (seesOnly_gather _ _) (same.mono collected within)).symm
  -- Nothing is fetched, since the tree is found, and the inputs come out as they did before.
  rw [buildOrReuse_eq] at h
  rcases runs_bind_iff.mp h with ⟨e, hf, rfl⟩ | ⟨finding, _, _, rfl, hf, hfound⟩
  · cases (ensured (List.Subset.refl _) hf).1
  obtain ⟨hpath, inquiring⟩ := ensured (List.subset_append_left _ _) hf
  obtain rfl := Except.ok.inj hpath
  rw [inputs_eq, bind_assoc] at hfound
  obtain ⟨there, _, rfl, hthere⟩ := runs_question_bind_iff.mp hfound
  cases there with
  | false => exact absurd (List.mem_append_right _ List.mem_cons_self) (place _ (by simp))
  | true =>
  rcases runs_bind_iff.mp hthere with ⟨e, hg, rfl⟩ | ⟨asking, _, rest, rfl, hg, hrest⟩
  · cases gathered (fun e he => by simp [he]) hg
  obtain rfl := Except.ok.inj (gathered (fun e he => by simp [he]) hg)
  refine ⟨finding ++ ⟨.host (.fileExists (Path.join builder.tree.path dockerfilePath)), true⟩ ::
    asking, rest, by simp, ?_, provides_of_runs hrest⟩
  exact List.forall_mem_append.mpr ⟨inquiring,
    List.forall_mem_cons.mpr ⟨trivial, hg.only (only_gather _ _)⟩⟩

/-- An image that a run has built is found by every later run that has the same arguments and is
told the same, also if the first run failed to give it the name that was asked for. A run that
succeeds ends with its only tag, so that this name stands for the image of the key. -/
theorem built_once (run : Runs (builder.buildOrReuse image ref) events result) :
    (∀ built, result = .ok built → Available image events built) ∧
      ∀ options, (⟨.engine (.build options), .ok ()⟩ : Event Site) ∈ events → ∃ key,
        options.image = cachedName image key ∧
        (∀ built, result = .ok built → built.cacheKey = key) ∧
        ∀ between later laterResult, Runs (builder.buildOrReuse image ref) later laterResult →
          Keeps (events ++ between ++ later) → InPlace builder.tree later →
          AgreeOn told events later → Reuses image key later laterResult := by
  rcases keyed_or_failed run with ⟨⟨e, rfl⟩, aloof⟩ | ⟨inputs, keyed⟩
  · exact ⟨nofun, fun options hb => absurd rfl (aloof _ hb _)⟩
  obtain ⟨before, rest, rfl, errands, provided⟩ := keyed.split
  have available {built : Built} (h : result = .ok built) :=
    Provides.available (h ▸ provided) errands
  refine ⟨fun built h => (available h).1, fun options hb => ?_⟩
  have named : options.image = cachedName image inputs.cacheKey := by
    rcases List.mem_append.mp hb with hb | hb
    · exact absurd rfl ((errands _ hb).ne_engine _)
    · exact provided.image_of_built hb
  refine ⟨inputs.cacheKey, named, fun built h => (available h).2, ?_⟩
  intro between later laterResult hlater keeps place same
  obtain ⟨inquiries, rest', rfl, inquiring, hprovides⟩ := keyed.provides hlater place same
  -- If the image were denied now, it would have been lost since it was stored.
  refine hprovides.reuses (fun denied => ?_) inquiring
  have stored := (List.pairwise_append.mp keeps).2.2 _ (List.mem_append_left _ hb) _
    (List.mem_append_right _ denied)
  exact stored _ named rfl

/-- A run asks for an image only before it stores any. -/
theorem keeps_of_runs (run : Runs (builder.buildOrReuse image ref) events result) :
    Keeps events := by
  have unasked {part : List (Event Site)}
      (h : ∀ e ∈ part, ∀ name, e.call ≠ .engine (.imageExists name)) : Keeps part := by
    refine List.pairwise_of_forall_mem_list fun _ _ later hl name _ denied => ?_
    exact h later hl name (congrArg Procedure.Event.call denied)
  have unstored {e : Event Site} (h : ¬ SiteCall.IsNaming e.call) (name : String) :
      ¬ Stores name e := by
    unfold Stores
    split
    · exact (h trivial).elim
    · exact (h trivial).elim
    · exact id
  rcases keyed_or_failed run with ⟨_, aloof⟩ | ⟨inputs, keyed⟩
  · exact unasked fun e he name => aloof e he _
  obtain ⟨before, rest, rfl, errands, provided⟩ := keyed.split
  obtain ⟨there, tail, rfl, htail⟩ := provided.asks_first
  refine List.pairwise_append.mpr ⟨unasked fun e he name => (errands e he).ne_engine _,
    List.pairwise_cons.mpr ⟨?_, unasked htail⟩, ?_⟩
  · exact fun _ _ name stores => absurd stores (unstored id name)
  · exact fun e he _ _ name stores =>
      absurd stores (unstored (SiteCall.not_isNaming (errands e he).ne_engine) name)

/-- A site whose engine has no image and cannot tag one. -/
def untaggingSite : (c : SiteCall) → c.Answer
  | .engine (.imageExists _) => false
  | .engine (.tag ..) => .error (.config "no space left")
  | c => siteAt "4f1c\n" .x86_64 c

/-- A run that fails between the build and the tag leaves the image to the next one. -/
theorem built_once_untagged :
    ∃ events later e key, Runs (dockerBuilder.buildOrReuse "ovn:dev" none) events (.error e) ∧
      (∃ options, (⟨.engine (.build options), .ok ()⟩ : Event Site) ∈ events) ∧
      Runs (dockerBuilder.buildOrReuse "ovn:dev" none) later
        (.ok ⟨"ovn:dev", cachedName "ovn:dev" key, key, true⟩) ∧
      Available "ovn:dev" later ⟨"ovn:dev", cachedName "ovn:dev" key, key, true⟩ ∧
      Reuses "ovn:dev" key later (.ok ⟨"ovn:dev", cachedName "ovn:dev" key, key, true⟩) := by
  obtain ⟨events, result, keyed, answered⟩ :=
    keyed_at untaggingSite dockerBuilder "ovn:dev" none
      ⟨"4f1c", "amd64", .prebuilt, none, Sha256.short []⟩ (by decide +kernel) (by decide +kernel)
  obtain ⟨later, laterResult, laterKeyed, laterAnswered⟩ :=
    keyed_at (siteAt "4f1c\n" .x86_64) dockerBuilder "ovn:dev" none
      ⟨"4f1c", "amd64", .prebuilt, none, Sha256.short []⟩ (by decide +kernel) (by decide +kernel)
  have built : ∃ options e, (⟨.engine (.build options), .ok ()⟩ : Event Site) ∈ events ∧
      result = .error e := by
    obtain ⟨before, rest, rfl, _, provided⟩ := keyed.split
    cases provided with
    | reused answer =>
      have denied := answered ⟨.engine (.imageExists _), true⟩
        (List.mem_append_right _ List.mem_cons_self)
      cases denied
    | @refused _ _ options _ _ cause =>
      have done := answered ⟨.engine (.build options), .error cause⟩ (by simp [building])
      cases done
    | @built _ _ options _ _ _ answer =>
      have untagged := answered ⟨.engine (.tag _ "ovn:dev"), answer⟩
        (List.mem_append_right _ (List.mem_cons_of_mem _ (List.mem_append_right _
          (List.mem_append_right _ List.mem_cons_self))))
      obtain rfl : answer = .error (.config "no space left") := untagged
      exact ⟨options, _, by simp [building], rfl⟩
  obtain ⟨options, e, hb, rfl⟩ := built
  have keeps : Keeps (events ++ [] ++ later) := by
    rw [List.append_nil]
    refine List.pairwise_append.mpr ⟨keeps_of_runs keyed.runs, keeps_of_runs laterKeyed.runs, ?_⟩
    rintro _ _ _ found name _ rfl
    exact nomatch laterAnswered _ found
  have place : InPlace dockerBuilder.tree later :=
    fun _ _ missing => nomatch laterAnswered _ missing
  have same : AgreeOn told events later := by
    intro c answer other h h'
    obtain rfl : answer = untaggingSite c := answered _ h
    obtain rfl : other = siteAt "4f1c\n" .x86_64 c := laterAnswered _ h'
    cases c <;> rfl
  obtain ⟨key, _, _, reusing⟩ := (built_once keyed.runs).2 options hb
  have reuses := reusing [] later laterResult laterKeyed.runs keeps place same
  obtain ⟨inquiries, answer, shape, hresult⟩ := reuses.tagged
  have tagged := laterAnswered ⟨.engine (.tag (cachedName "ovn:dev" key) "ovn:dev"), answer⟩
    (by simp [shape])
  obtain rfl : answer = .ok () := tagged
  obtain rfl : laterResult = .ok ⟨"ovn:dev", cachedName "ovn:dev" key, key, true⟩ := hresult
  exact ⟨events, later, e, key, keyed.runs, ⟨options, hb⟩, laterKeyed.runs,
    (built_once laterKeyed.runs).1 _ rfl, reuses⟩

end Builder
end Image
end PodNetwork
