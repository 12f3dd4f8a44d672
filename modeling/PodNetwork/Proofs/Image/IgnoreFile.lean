import PodNetwork.Proofs.Image.Providing
import PodNetwork.Proofs.SourceTree.Files

/-! What a build leaves of its ignore file.

The file is there for as long as the engine builds. Whatever becomes of the calls, it is removed
after that, and nothing else in the tree has changed. -/
namespace PodNetwork.Image

open Routine
open Procedure (Event Moment)
open Rehearsal (FileEntry)

def ignorePlace (root : List String) : List String := root ++ [ignoreFile]

def InTree (root place : List String) : Prop := root <+: place ∧ place ≠ root

instance (root place : List String) : Decidable (InTree root place) :=
  inferInstanceAs (Decidable (_ ∧ _))

theorem isName_ignoreFile : Path.IsName ignoreFile := by decide

namespace Builder

def placing (tree : String) (answer : Attempt Unit) : Event Site :=
  ⟨.host (.writeFile (Path.join tree ignoreFile) (Bytes.ofString ignoreContent)), answer⟩

def clearing (tree : String) (answer : Attempt Unit) : Event Site :=
  ⟨.host (.removeAll (Path.join tree ignoreFile)), answer⟩

section Course

variable {σ : Type} {step : σ → Event Site → σ → Prop} {builder : Builder} {image tree : String}
  {inputs : Inputs} {s s' : σ} {log : List (Moment Site σ)}

/-- A build goes from writing the ignore file to removing it, and ends as the engine does. -/
theorem passes_build {options : BuildOptions} {result : Attempt Unit}
    (h : Passes step (build tree options) s log s' result) :
    ∃ (written built removed : Attempt Unit) (placed made : σ),
      log = [⟨s, placing tree written⟩, ⟨placed, ⟨.engine (.build options), built⟩⟩,
        ⟨made, clearing tree removed⟩] ∧
      step s (placing tree written) placed ∧ step placed ⟨.engine (.build options), built⟩ made ∧
      step made (clearing tree removed) s' ∧
      result = built.mapError fun e => .buildFailed options.image e.text (e.output?.getD "") := by
  unfold build at h
  obtain ⟨_, written, placed, _, rfl, hwrite, hrest⟩ := passes_discard_outcome_bind_iff.mp h
  obtain ⟨_, built, made, _, rfl, hbuild, hrest⟩ := passes_outcome_bind_iff.mp hrest
  obtain ⟨_, removed, _, _, rfl, hremove, hend⟩ := passes_discard_outcome_bind_iff.mp hrest
  obtain ⟨rfl, wrote⟩ := Procedure.passes_call_iff.mp hwrite
  obtain ⟨rfl, ended⟩ := Procedure.passes_call_iff.mp hbuild
  obtain ⟨rfl, cleared⟩ := Procedure.passes_call_iff.mp hremove
  refine ⟨written, built, removed, placed, made, ?_⟩
  cases built with
  | ok =>
    obtain ⟨rfl, rfl, rfl⟩ := passes_pure_iff.mp hend
    exact ⟨rfl, wrote, ended, cleared, rfl⟩
  | error e =>
    obtain ⟨rfl, rfl, rfl⟩ := passes_throw_iff.mp hend
    exact ⟨rfl, wrote, ended, cleared, rfl⟩

/-- What follows a build: the error is passed on, or the image is given the name that was asked
for. -/
inductive Finish (step : σ → Event Site → σ → Prop) (cached image : String) :
    Attempt Unit → σ → List (Moment Site σ) → σ → Attempt Built → Prop where
  | failed (e : Error) (s : σ) : Finish step cached image (.error e) s [] s (.error e)
  | tagged {s s' : σ} {answer : Attempt Unit} {result : Attempt Built}
      (tag : step s ⟨.engine (.tag cached image), answer⟩ s') :
      Finish step cached image (.ok ()) s [⟨s, ⟨.engine (.tag cached image), answer⟩⟩] s' result

theorem passes_retag {cached : String} (renamed : cached ≠ image) {built : Built}
    {result : Attempt Built}
    (h : Passes step (retag cached image >>= fun _ => pure built) s log s' result) :
    Finish step cached image (.ok ()) s log s' result := by
  rw [retag, if_neg renamed] at h
  rcases passes_bind_iff.mp h with ⟨e, htag, rfl⟩ | ⟨_, _, _, _, rfl, htag, hend⟩
  · obtain ⟨rfl, tag⟩ := Procedure.passes_call_iff.mp htag
    exact .tagged tag
  · obtain ⟨rfl, rfl, rfl⟩ := passes_pure_iff.mp hend
    obtain ⟨rfl, tag⟩ := Procedure.passes_call_iff.mp htag
    exact .tagged tag

/-- The courses on which an image is provided under the name that carries its key. -/
inductive Provision (step : σ → Event Site → σ → Prop) (builder : Builder)
    (image tree cached : String) (inputs : Inputs) :
    σ → List (Moment Site σ) → σ → Attempt Built → Prop where
  | found {s asked s' : σ} {log : List (Moment Site σ)} {result : Attempt Built}
      (hit : step s ⟨.engine (.imageExists cached), true⟩ asked)
      (finish : Finish step cached image (.ok ()) asked log s' result) :
      Provision step builder image tree cached inputs s
        (⟨s, ⟨.engine (.imageExists cached), true⟩⟩ :: log) s' result
  | missed {s asked ready ended s' : σ} {caching making tagging : List (Moment Site σ)}
      {options : BuildOptions} {outcome : Attempt Unit} {result : Attempt Built}
      (miss : step s ⟨.engine (.imageExists cached), false⟩ asked)
      (prepare : Passes step (builder.options tree cached inputs) asked caching ready (.ok options))
      (build : Passes step (build tree options) ready making ended outcome)
      (finish : Finish step cached image outcome ended tagging s' result) :
      Provision step builder image tree cached inputs s
        (⟨s, ⟨.engine (.imageExists cached), false⟩⟩ :: (caching ++ (making ++ tagging))) s' result

theorem provision_of_passes {result : Attempt Built}
    (h : Passes step (builder.provide image tree inputs) s log s' result) :
    Provision step builder image tree (cachedName image inputs.cacheKey) inputs s log s'
      result := by
  unfold provide at h
  dsimp only at h
  have renamed := cachedName_ne image inputs.cacheKey
  -- What the key is plays no part, and opening it would evaluate the hash.
  generalize inputs.cacheKey = key at h renamed ⊢
  obtain ⟨there, asked, _, rfl, hasked, hrest⟩ := passes_question_bind_iff.mp h
  cases there with
  | true => exact .found hasked (passes_retag renamed hrest)
  | false =>
    rcases passes_bind_iff.mp hrest with
      ⟨e, ho, rfl⟩ | ⟨caching, options, _, making, rfl, ho, hbuild⟩
    · obtain ⟨_, heq, -⟩ := options_ok ho.runs
      cases heq
    rcases passes_bind_iff.mp hbuild with ⟨e, hb, rfl⟩ | ⟨_, _, _, _, rfl, hb, htag⟩
    · rw [← List.append_nil making]
      exact .missed hasked ho hb (.failed e s')
    · exact .missed hasked ho hb (passes_retag renamed htag)

end Course

section Tree

variable {σ : Type} {files : HostFiles σ} {builder : Builder} {image tree cached : String}
  {root : List String} {inputs : Inputs} {s s' : σ} {log : List (Moment Site σ)}

/-- A course on which nothing is built, and nothing in the tree changes. -/
structure Untouched (files : HostFiles σ) (root : List String) (s : σ)
    (log : List (Moment Site σ)) (s' : σ) : Prop where
  unbuilt : ∀ m ∈ log, SiteCall.IsInquiry m.event.call ∨
    ∃ call, m.event.call = .engine call ∧ ∀ options, call ≠ .build options
  same : ∀ place, root <+: place → files.at? s' place = files.at? s place

/-- A course on which the image is built, and what it leaves of the tree, whatever becomes of the
writing of the ignore file, of the build and of the removal. -/
structure Cleaned (files : HostFiles σ) (tree cached : String) (root : List String)
    (written built removed : Attempt Unit) (s : σ) (log : List (Moment Site σ)) (s' : σ)
    (result : Attempt Built) : Prop where
  /-- The image was missed, and the ignore file is removed after the build. -/
  course : ∃ gathered caching options after, (∀ e ∈ gathered, SiteCall.IsInquiry e.call) ∧
    (∀ e ∈ caching, SiteCall.IsCaching e.call) ∧ options.image = cached ∧
    log.map Moment.event = gathered ++ ⟨.engine (.imageExists cached), false⟩ ::
      (caching ++ (building tree options written built removed ++ after))
  gone : removed = .ok () → ∀ place, ignorePlace root <+: place → files.at? s' place = none
  /-- Of the other places of the tree, only those on the way to the compiler's cache may have got a
  directory, and only the one that a link in the place of the ignore file leads to may have got
  another content. -/
  kept : ∀ place, InTree root place → ¬ignorePlace root <+: place →
    files.at? s' place = files.at? s place ∨
      (files.at? s place = none ∧ files.OnTheWay log place) ∨
      ∃ target, files.at? s (ignorePlace root) = some (.link target) ∧
        ∃ m ∈ log, place = files.lands m.state (ignorePlace root)
  /-- A tree that had no ignore file, and in which the compiler has no cache, is as it was. -/
  exact : removed = .ok () → (∀ place, ignorePlace root <+: place → files.at? s place = none) →
    (∀ place, InTree root place → ¬files.OnTheWay log place) →
    ∀ place, InTree root place → files.at? s' place = files.at? s place
  /-- The error of the build is reported, and no image is tagged. -/
  failure : ∀ e, built = .error e →
    result = .error (.buildFailed cached e.text (e.output?.getD "")) ∧
      ∀ m ∈ log, ∀ source target, m.event.call ≠ .engine (.tag source target)

/-- The tree is found where it was when the ignore file is to be removed. -/
theorem reached_of_build {options : BuildOptions} {written built : Attempt Unit} {placed made : σ}
    (spares : files.EngineSpares tree) (there : files.dir? s tree = some root)
    (wrote : files.moves s (placing tree written) placed)
    (build : files.moves placed ⟨.engine (.build options), built⟩ made) :
    files.dir? made tree = some root :=
  (spares there build).2 (files.reached wrote (.inr (.inr ⟨_, _, rfl⟩)) there)

/-- Between writing the ignore file and removing it, nothing in the tree changes but where it
lands. -/
theorem kept_of_build {options : BuildOptions} {written built removed : Attempt Unit}
    {placed made : σ} {place : List String} (spares : files.EngineSpares tree)
    (there : files.dir? s tree = some root) (wrote : files.moves s (placing tree written) placed)
    (build : files.moves placed ⟨.engine (.build options), built⟩ made)
    (clear : files.moves made (clearing tree removed) s')
    (inside : root <+: place) (apart : ¬ignorePlace root <+: place) :
    files.at? s' place = files.at? s place ∨ place = files.lands s (ignorePlace root) := by
  have reached := reached_of_build spares there wrote build
  rw [files.removed reached isName_ignoreFile clear place apart,
    (spares there build).1 place inside]
  exact files.written there isName_ignoreFile wrote place

theorem Finish.same {outcome : Attempt Unit} {result : Attempt Built} {origin : σ}
    (spares : files.EngineSpares tree) (there : files.dir? origin tree = some root)
    (h : Finish files.moves cached image outcome s log s' result) {place : List String}
    (inside : root <+: place) : files.at? s' place = files.at? s place := by
  cases h with
  | failed => rfl
  | tagged tag => exact (spares there tag).1 place inside

/-- Looking up the image and preparing the build makes directories in the tree at most, and the tree
is found where it was. -/
theorem prepared_of_passes {asked ready : σ} {options : BuildOptions} {found : Bool}
    (spares : files.EngineSpares tree) (there : files.dir? s tree = some root)
    (miss : files.moves s ⟨.engine (.imageExists cached), found⟩ asked)
    (prepare : Passes files.moves (builder.options tree cached inputs) asked log ready
      (.ok options)) :
    files.dir? ready tree = some root ∧ ∀ place, root <+: place →
      files.at? ready place = files.at? s place ∨ files.at? s place = none ∧
        files.at? ready place = some .directory ∧ files.OnTheWay log place := by
  have caching : ∀ m ∈ log, SiteCall.IsCaching m.event.call := fun m hm =>
    prepare.runs.only (builder.only_options _ _ _) m.event (List.mem_map_of_mem hm)
  obtain ⟨same, reached⟩ := spares there miss
  refine ⟨HostFiles.reached_of_keeping prepare (fun m hm => .inr (.inl (caching m hm)))
    (reached there), fun place inside => ?_⟩
  rw [← same place inside]
  exact HostFiles.moved_of_cachings prepare caching place

/-- A place outside the ignore file that a build has changed is one that a link leads to. -/
theorem linked_of_build {origin ready ended : σ} {place : List String} {way : List String → Prop}
    (prepared : ∀ place, root <+: place → files.at? ready place = files.at? origin place ∨
      files.at? origin place = none ∧ files.at? ready place = some .directory ∧ way place)
    (build : files.at? ended place = files.at? ready place ∨
      place = files.lands ready (ignorePlace root))
    (inside : root <+: place) (apart : ¬ignorePlace root <+: place) :
    files.at? ended place = files.at? origin place ∨
      (files.at? origin place = none ∧ way place) ∨
      ∃ target, files.at? origin (ignorePlace root) = some (.link target) ∧
        place = files.lands ready (ignorePlace root) := by
  rcases build with kept | lands
  · rw [kept]
    exact (prepared place inside).imp id fun ⟨absent, _, onTheWay⟩ => .inl ⟨absent, onTheWay⟩
  by_cases direct : ∀ target, files.at? ready (ignorePlace root) ≠ some (.link target)
  · rw [files.direct direct] at lands
    exact absurd (lands ▸ List.prefix_refl _) apart
  · obtain ⟨target, link⟩ := Classical.not_forall_not.mp direct
    rcases prepared (ignorePlace root) (List.prefix_append _ _) with kept | ⟨-, directory, -⟩
    · exact .inr (.inr ⟨target, kept.symm.trans link, lands⟩)
    · rw [directory] at link
      cases link

/-- The tree is cleaned up on every course on which the image is missed. -/
theorem cleaned_of_missed {origin asked ready ended : σ}
    {gathering caching making tagging : List (Moment Site σ)} {options : BuildOptions}
    {outcome : Attempt Unit} {result : Attempt Built} {α : Type} {gather : Procedure Site α} {a : α}
    (spares : files.EngineSpares tree) (there : files.dir? origin tree = some root)
    (gathers : Procedure.Passes files.moves gather origin gathering s a)
    (inquiries : ∀ m ∈ gathering, SiteCall.IsInquiry m.event.call)
    (miss : files.moves s ⟨.engine (.imageExists cached), false⟩ asked)
    (prepare : Passes files.moves (builder.options tree cached inputs) asked caching ready
      (.ok options))
    (build : Passes files.moves (build tree options) ready making ended outcome)
    (finish : Finish files.moves cached image outcome ended tagging s' result) :
    ∃ written built removed, Cleaned files tree cached root written built removed origin
      (gathering ++ ⟨s, ⟨.engine (.imageExists cached), false⟩⟩ ::
        (caching ++ (making ++ tagging))) s' result := by
  obtain ⟨_, heq, named, -⟩ := options_ok prepare.runs
  cases heq
  have aside := prepare.runs.only (builder.only_options _ _ _)
  have found := HostFiles.reached_of_keeping gathers (fun m hm => .inl (inquiries m hm)) there
  obtain ⟨ready_there, prepared⟩ := prepared_of_passes spares found miss prepare
  simp only [HostFiles.same_of_inquiries gathers inquiries] at prepared
  obtain ⟨written, built, removed, placed, made, rfl, wrote, engine, clear, rfl⟩ :=
    passes_build build
  have gone : removed = .ok () → ∀ place, ignorePlace root <+: place →
      files.at? s' place = none := by
    rintro rfl place within
    have reached := reached_of_build spares ready_there wrote engine
    rw [finish.same spares there ((List.prefix_append _ _).trans within)]
    exact files.gone reached isName_ignoreFile clear place within
  have kept (place : List String) (inside : root <+: place) (apart : ¬ignorePlace root <+: place) :
      files.at? s' place = files.at? origin place ∨
        (files.at? origin place = none ∧ files.OnTheWay caching place) ∨
        ∃ target, files.at? origin (ignorePlace root) = some (.link target) ∧
          place = files.lands ready (ignorePlace root) := by
    rw [finish.same spares there inside]
    exact linked_of_build prepared
      (kept_of_build spares ready_there wrote engine clear inside apart) inside apart
  refine ⟨written, built, removed, ⟨?_, gone, fun place inside apart => ?_, ?_, ?_⟩⟩
  · refine ⟨gathering.map Moment.event, caching.map Moment.event, options,
      tagging.map Moment.event, List.forall_mem_map.mpr inquiries, aside, named, ?_⟩
    rw [List.map_append, List.map_cons, List.map_append, List.map_append]
    rfl
  · rcases kept place inside.1 apart with same | ⟨absent, way⟩ | ⟨target, link, lands⟩
    · exact .inl same
    · exact .inr (.inl ⟨absent, way.mono fun m hm => by simp [hm]⟩)
    · exact .inr (.inr ⟨target, link, ⟨ready, placing tree written⟩, by simp, lands⟩)
  · intro hremoved absent outside place inside
    by_cases within : ignorePlace root <+: place
    · rw [gone hremoved place within, absent place within]
    · rcases kept place inside.1 within with same | ⟨-, way⟩ | ⟨target, link, -⟩
      · exact same
      · exact absurd (way.mono fun m hm => by simp [hm]) (outside place inside)
      · rw [absent _ (List.prefix_refl _)] at link
        cases link
  · rintro e rfl
    cases finish
    have apart : ∀ m ∈ ([⟨ready, placing tree written⟩,
        ⟨placed, ⟨.engine (.build options), .error e⟩⟩, ⟨made, clearing tree removed⟩] :
          List (Moment Site σ)), ∀ source target, m.event.call ≠ .engine (.tag source target) :=
      List.forall_mem_cons.mpr ⟨fun _ _ => nofun, List.forall_mem_cons.mpr ⟨fun _ _ => nofun,
        List.forall_mem_singleton.mpr fun _ _ => nofun⟩⟩
    refine ⟨by rw [named], List.forall_mem_append.mpr ⟨fun m hm source target =>
      (inquiries m hm).isErrand.ne_engine _, List.forall_mem_cons.mpr ⟨fun _ _ => nofun,
      List.forall_mem_append.mpr ⟨fun m hm source target =>
        (aside m.event (List.mem_map_of_mem hm)).ne_engine _, ?_⟩⟩⟩⟩
    rwa [List.append_nil]

/-- The ways in which making an image available can leave the tree. Unless the tree itself is not to
be had, it is compared with what it was when it had been made sure of. -/
inductive Aftermath (files : HostFiles σ) (builder : Builder) (image : String)
    (ref : Option String) (s : σ) (log : List (Moment Site σ)) (s' : σ) (result : Attempt Built) :
    Prop where
  | unavailable (e : Error) (failed : result = .error e)
      (ensure : Passes files.moves builder.tree.ensure s log s' (.error e))
  | untouched {ensuring rest : List (Moment Site σ)} {provisioned : σ} {root : List String}
      (split : log = ensuring ++ rest)
      (ensure : Passes files.moves builder.tree.ensure s ensuring provisioned
        (.ok builder.tree.path))
      (there : files.dir? provisioned builder.tree.path = some root)
      (untouched : Untouched files root provisioned rest s')
  | built {ensuring rest : List (Moment Site σ)} {provisioned : σ} {root : List String}
      {inputs : Inputs} {written built removed : Attempt Unit} (split : log = ensuring ++ rest)
      (ensure : Passes files.moves builder.tree.ensure s ensuring provisioned
        (.ok builder.tree.path))
      (there : files.dir? provisioned builder.tree.path = some root)
      (keyed : Keyed builder image ref (log.map Moment.event) result inputs)
      (cleaned : Cleaned files builder.tree.path (cachedName image inputs.cacheKey) root written
        built removed provisioned rest s' result)

/-- Making an image available leaves no trace in the tree but those that a build may leave. Unless
an image is built, it leaves none at all. -/
theorem buildOrReuse_aftermath {ref : Option String} {result : Attempt Built}
    (spares : files.EngineSpares builder.tree.path)
    (h : Passes files.moves (builder.buildOrReuse image ref) s log s' result) :
    Aftermath files builder image ref s log s' result := by
  rw [buildOrReuse_eq] at h
  rcases passes_bind_iff.mp h with ⟨e, hensure, rfl⟩ | ⟨ensuring, tree, mid, _, rfl, hensure, hrest⟩
  · exact .unavailable e rfl hensure
  obtain rfl := SourceTree.path_of_ensure hensure.runs
  obtain ⟨root, there⟩ := HostFiles.dir?_of_ensure hensure
  rcases passes_bind_iff.mp hrest with
    ⟨e, hinputs, rfl⟩ | ⟨gathering, inputs, known, rest, rfl, hinputs, hprovide⟩ <;>
    have inquiries := fun m hm =>
      hinputs.runs.only (only_inputs _ _) (Moment.event m) (List.mem_map_of_mem hm)
  · exact .untouched rfl hensure there ⟨fun m hm => .inl (inquiries m hm),
      fun place _ => HostFiles.same_of_inquiries hinputs inquiries place⟩
  have keyed : Keyed builder image ref ((ensuring ++ (gathering ++ rest)).map Moment.event) result
      inputs :=
    ⟨_, _, _, by rw [List.map_append, List.map_append], hensure.runs, hinputs.runs, hprovide.runs⟩
  cases provision_of_passes hprovide with
  | found hit finish =>
    have unbuilt (call : EngineCall) (h : ∀ options, call ≠ .build options) :
        SiteCall.IsInquiry (.engine call) ∨
          ∃ other, SiteCall.engine call = .engine other ∧ ∀ options, other ≠ .build options :=
      .inr ⟨call, rfl, h⟩
    refine .untouched rfl hensure there
      ⟨List.forall_mem_append.mpr ⟨fun m hm => .inl (inquiries m hm), ?_⟩, ?_⟩
    · cases finish
      exact List.forall_mem_cons.mpr ⟨unbuilt _ fun _ => nofun,
        List.forall_mem_singleton.mpr (unbuilt _ fun _ => nofun)⟩
    · intro place inside
      rw [finish.same spares there inside, (spares there hit).1 place inside,
        HostFiles.same_of_inquiries hinputs inquiries place]
  | missed miss prepare build finish =>
    obtain ⟨written, built, removed, cleaned⟩ :=
      cleaned_of_missed spares there hinputs inquiries miss prepare build finish
    exact .built rfl hensure there keyed cleaned

end Tree

def lookupFailure : Error := .command "docker build" "exited with status 1" "module lookup disabled"

/-- What happens to a disk when an image is made available. -/
def diskRun (builder : Builder) (built : Attempt Unit) (entries : List (String × FileEntry)) :
    List (Moment Site (List String → Option FileEntry)) × (List String → Option FileEntry) ×
      Attempt Built :=
  (builder.buildOrReuse "ovn:dev" none).run.passage (I := Site) (Drive.answer built)
    (Drive.ofEntries entries)

/-- A tree that is there. A link leads to the directory above it. -/
def plainTree : List (String × FileEntry) :=
  [("/work", .link "/data"), ("/data/ovn-kubernetes", .directory),
    ("/data/ovn-kubernetes/dist/images/daemonset.sh", .file []),
    ("/data/ovn-kubernetes/dist/images/Dockerfile.fedora", .file [])]

def plainRoot : List String := ["/", "data", "ovn-kubernetes"]

theorem buildOrReuse_aftermath_failing :
    let run := diskRun dockerBuilder (.error lookupFailure) plainTree
    run.2.2.toOption = none ∧ run.2.1 (ignorePlace plainRoot) = none ∧
      Aftermath (Drive.files (.error lookupFailure)) dockerBuilder "ovn:dev" none
        (Drive.ofEntries plainTree) run.1 run.2.1 run.2.2 :=
  ⟨by decide +kernel, by decide +kernel, buildOrReuse_aftermath (Drive.engineSpares _ _)
    (Procedure.passes_passage (I := Site) (Drive.answer _) _ _)⟩

def clears (tree : String) (m : Moment Site (List String → Option FileEntry)) : Bool :=
  match m.event with
  | ⟨.host (.removeAll path), .ok ()⟩ => path = Path.join tree ignoreFile
  | _ => false

/-- Whether a tree is, but for the ignore file, as it was. -/
def Unchanged (root : List String) (before after : List String → Option FileEntry) : Prop :=
  ∀ place, InTree root place → place ≠ ignorePlace root → after place = before place

theorem not_unchanged {root : List String} {before after : List String → Option FileEntry}
    {was is : Option FileEntry} (place : List String) (inside : InTree root place)
    (other : place ≠ ignorePlace root) (hbefore : before place = was) (hafter : after place = is)
    (change : is ≠ was) : ¬Unchanged root before after :=
  fun h => change (hafter.symm.trans ((h place inside other).trans hbefore))

def directoryTree : List (String × FileEntry) :=
  ("/data/ovn-kubernetes/.dockerignore", .directory) ::
    ("/data/ovn-kubernetes/.dockerignore/keep", .file []) :: plainTree

def linkTree : List (String × FileEntry) :=
  ("/data/ovn-kubernetes/.dockerignore", .link "/data/ovn-kubernetes/Makefile") ::
    ("/data/ovn-kubernetes/Makefile", .file []) :: plainTree

/-- Podman with a cache for the compiler that lies in the tree. -/
def inwardBuilder : Builder :=
  { podmanBuilder with compilerCache := some "/work/ovn-kubernetes/cache" }

/-- The ignore file is not all that may change, even if its removal succeeds: what is below it goes
with it if it is a directory, what it leads to is written if it is a link, and the directory of the
compiler's cache may lie in the tree. -/
theorem not_unchanged_of_ignoreFile :
    let tree := dockerBuilder.tree.path
    let directory := diskRun dockerBuilder (.ok ()) directoryTree
    let link := diskRun dockerBuilder (.ok ()) linkTree
    let cache := diskRun inwardBuilder (.ok ()) plainTree
    (directory.1.any (clears tree) = true ∧
      ¬Unchanged plainRoot (Drive.ofEntries directoryTree) directory.2.1) ∧
    (link.1.any (clears tree) = true ∧ ¬Unchanged plainRoot (Drive.ofEntries linkTree) link.2.1) ∧
    cache.1.any (clears tree) = true ∧
      ¬Unchanged plainRoot (Drive.ofEntries plainTree) cache.2.1 := by
  have directory : (diskRun dockerBuilder (.ok ()) directoryTree).1.any
        (clears dockerBuilder.tree.path) = true ∧
      (diskRun dockerBuilder (.ok ()) directoryTree).2.1
        ["/", "data", "ovn-kubernetes", ".dockerignore", "keep"] = none := by decide +kernel
  have link : (diskRun dockerBuilder (.ok ()) linkTree).1.any
        (clears dockerBuilder.tree.path) = true ∧
      (diskRun dockerBuilder (.ok ()) linkTree).2.1 ["/", "data", "ovn-kubernetes", "Makefile"] =
        some (.file (Bytes.ofString ignoreContent)) := by decide +kernel
  have cache : (diskRun inwardBuilder (.ok ()) plainTree).1.any
        (clears dockerBuilder.tree.path) = true ∧
      (diskRun inwardBuilder (.ok ()) plainTree).2.1 ["/", "data", "ovn-kubernetes", "cache"] =
        some .directory := by decide +kernel
  exact ⟨⟨directory.1, not_unchanged _ (by decide +kernel) (by decide +kernel)
      (by decide +kernel : _ = some (FileEntry.file [])) directory.2 nofun⟩,
    ⟨link.1, not_unchanged _ (by decide +kernel) (by decide +kernel)
      (by decide +kernel : _ = some (FileEntry.file [])) link.2 (by decide +kernel)⟩,
    cache.1, not_unchanged _ (by decide +kernel) (by decide +kernel)
      (by decide +kernel : _ = none) cache.2 nofun⟩

end Builder
end PodNetwork.Image
