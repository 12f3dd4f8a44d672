import PodNetwork.Proofs.Install.Preparation
import PodNetwork.Proofs.Procedure.Passages
import PodNetwork.Proofs.Text.Cuts
import PodNetwork.Rehearsal.FileSystem

/-! The files of a host, place by place, and what the calls of a routine do to them.

A path leads to a place, by links or without. Whatever becomes of a call, it changes what is at the
places that it is about, and nothing else. -/
namespace PodNetwork

namespace Path
open Text

/-- Whether a text is the name of something in a directory: it is one component, and does not lead
back. -/
def IsName (name : String) : Prop :=
  name ≠ "" ∧ name ≠ "." ∧ name ≠ ".." ∧ '/' ∉ name.toList

instance (name : String) : Decidable (IsName name) := inferInstanceAs (Decidable (_ ∧ _))

theorem endsWith_slash_iff {path : String} :
    path.endsWith "/" = true ↔ ∃ init, path.toList = init ++ ['/'] := by
  rw [← String.endsWith_toSlice, String.Slice.endsWith_string_iff, String.copy_toSlice]
  exact exists_congr fun init => eq_comm

/-- The components of a path that goes on with a name. The texts between the separators are those
of what it goes on from, but for an empty one at the end. -/
theorem components_of_segments {path base name : String} {lead rest : List (List Char)}
    (hname : IsName name) (hfirst : path.toList.head? = base.toList.head?) (hlead : lead ≠ [])
    (hrest : ∀ part ∈ rest, part = [])
    (hpath : segments (· == '/') path.toList = lead ++ [name.toList])
    (hbase : segments (· == '/') base.toList = lead ++ rest) :
    components path = components base ++ [name] := by
  have starts : path.startsWith "/" = base.startsWith "/" := by
    rw [Bool.eq_iff_iff, startsWith_slash_iff, startsWith_slash_iff, hfirst]
  have head (last : List (List Char)) :
      ((lead ++ last).map String.ofList).head? = (lead.map String.ofList).head? := by
    obtain ⟨first, others, rfl⟩ := List.exists_cons_of_ne_nil hlead
    rfl
  have gone : (rest.map String.ofList).filter (fun p => p ≠ "" && p ≠ ".") = [] := by
    rw [List.filter_eq_nil_iff, List.forall_mem_map]
    intro part hpart
    rw [hrest part hpart]
    decide
  have kept : [name].filter (fun p => p ≠ "" && p ≠ ".") = [name] :=
    List.filter_cons_of_pos (by simp [hname.1, hname.2.1])
  unfold components
  dsimp only
  rw [starts, hpath, hbase, head, head, List.map_append, List.map_append, List.filter_append,
    List.filter_append, gone, List.map_singleton, String.ofList_toList, kept, List.append_nil,
    List.append_assoc]

/-- A name that is joined to a path is its last component. -/
theorem components_join {base name : String} (hname : IsName name) :
    components (join base name) = components base ++ [name] := by
  have relative : name.startsWith "/" = false := by
    rw [← Bool.not_eq_true, startsWith_slash_iff]
    exact fun h => hname.2.2.2 (List.mem_of_mem_head? h)
  have whole : segments (· == '/') name.toList = [name.toList] :=
    segments_of_none fun c hc => beq_eq_false_iff_ne.mpr fun h => hname.2.2.2 (h ▸ hc)
  have after (lead : List Char) : segments (· == '/') (lead ++ '/' :: name.toList) =
      segments (· == '/') lead ++ [name.toList] := by
    rw [segments_append_sep (by decide), whole]
  unfold join
  rw [relative, Bool.false_or]
  split
  · next hempty =>
    obtain rfl : base = "" := String.isEmpty_iff.mp hempty
    have nothing : components "" = [] := by decide +kernel
    rw [nothing, components, relative, whole]
    simp [hname.1, hname.2.1]
  · next hbase =>
    have hbase : base.toList ≠ [] := by simpa using hbase
    split
    · next hends =>
      obtain ⟨init, hinit⟩ := endsWith_slash_iff.mp hends
      have path : (base ++ name).toList = init ++ '/' :: name.toList := by
        rw [String.toList_append, hinit, List.append_assoc, List.singleton_append]
      have first : (base ++ name).toList.head? = base.toList.head? := by
        rw [path, hinit]
        cases init <;> rfl
      have last : segments (· == '/') base.toList = segments (· == '/') init ++ [[]] := by
        rw [hinit, segments_append_sep (by decide)]
        rfl
      exact components_of_segments hname first (segments_ne_nil _ init) (by simp)
        (path ▸ after init) last
    · have path : (base ++ "/" ++ name).toList = base.toList ++ '/' :: name.toList := by
        rw [String.toList_append, String.toList_append, List.append_assoc]
        rfl
      have first : (base ++ "/" ++ name).toList.head? = base.toList.head? := by
        obtain ⟨c, others, hcons⟩ := List.exists_cons_of_ne_nil hbase
        rw [path, hcons]
        rfl
      exact components_of_segments hname first (segments_ne_nil _ base.toList) (by simp)
        (path ▸ after base.toList) (List.append_nil _).symm

end Path

open Routine
open Procedure (Event Moment)
open Rehearsal (FileEntry)

/-- The calls after which every directory is found where it was: nothing is removed. -/
def SiteCall.IsKeeping (c : SiteCall) : Prop :=
  c.IsInquiry ∨ c.IsCaching ∨ ∃ path content, c = .host (.writeFile path content)

/-- The files of a host: what is at a place, and what a call may do to it, whether it fails or not.
Of long commands and of the engine nothing is known. -/
structure HostFiles (σ : Type) where
  at? : σ → List String → Option FileEntry
  moves : σ → Event Site → σ → Prop
  /-- The place of the directory that a path leads to, links on its way being followed. -/
  dir? : σ → String → Option (List String)
  /-- Where what is put at a place ends up: there, unless a link leads on. -/
  lands : σ → List String → List String
  /-- The places that a path goes through, and the one where it ends. -/
  Through : σ → String → List String → Prop
  direct : ∀ {s : σ} {place : List String}, (∀ target, at? s place ≠ some (.link target)) →
    lands s place = place
  /-- What something is found below is a directory. -/
  above : ∀ {s s' : σ} {base rest : String}, rest.startsWith "/" = false →
    moves s ⟨.host (.fileExists (Path.join base rest)), true⟩ s' → ∃ dir, dir? s' base = some dir
  /-- A look or a short command changes nothing. The short commands of a build are git status, git
  diff, git rev-parse and git ls-remote: they are taken to change no file, and so not even the
  .git/index that git status can refresh. -/
  still : ∀ {s s' : σ} {e : Event Site}, moves s e s' →
    SiteCall.IsInquiry e.call ∨ e.call = .userCache → ∀ place, at? s' place = at? s place
  /-- Directories are found where they were. -/
  reached : ∀ {s s' : σ} {e : Event Site}, moves s e s' → SiteCall.IsKeeping e.call →
    ∀ {path dir}, dir? s path = some dir → dir? s' path = some dir
  /-- A file is written where its path leads. -/
  written : ∀ {s s' : σ} {base name : String} {dir : List String} {content : Bytes}
    {answer : Attempt Unit}, dir? s base = some dir → Path.IsName name →
    moves s ⟨.host (.writeFile (Path.join base name) content), answer⟩ s' →
    ∀ place, at? s' place = at? s place ∨ place = lands s (dir ++ [name])
  /-- What is not at a path or below it is not removed. -/
  removed : ∀ {s s' : σ} {base name : String} {dir : List String} {answer : Attempt Unit},
    dir? s base = some dir → Path.IsName name →
    moves s ⟨.host (.removeAll (Path.join base name)), answer⟩ s' →
    ∀ place, ¬dir ++ [name] <+: place → at? s' place = at? s place
  /-- A removal that succeeds leaves nothing. -/
  gone : ∀ {s s' : σ} {base name : String} {dir : List String},
    dir? s base = some dir → Path.IsName name →
    moves s ⟨.host (.removeAll (Path.join base name)), .ok ()⟩ s' →
    ∀ place, dir ++ [name] <+: place → at? s' place = none
  /-- Directories are made where there is nothing. -/
  made : ∀ {s s' : σ} {path : String} {answer : Attempt Unit},
    moves s ⟨.makeDirectories path, answer⟩ s' → ∀ place, at? s' place = at? s place ∨
      at? s place = none ∧ at? s' place = some .directory ∧ Through s path place

namespace SourceTree

section Marker

variable {σ α : Type} {step : σ → Event Site → σ → Prop} {tree : SourceTree} {s s' : σ}
  {log : List (Moment Site σ)} {path : String}

/-- Whether a state comes after the marker of a tree was found. -/
def IsMarked (step : σ → Event Site → σ → Prop) (tree : SourceTree) (s' : σ) : Prop :=
  ∃ s, step s ⟨.host (.fileExists (Path.join tree.path marker)), true⟩ s'

theorem isMarked_of_look {a b : α} {next : Bool → Routine α}
    (h : Passes step (tree.isPopulated >>= next) s log s' (.ok b)) (found : next true = pure a)
    (missing : ∀ {mid rest}, Passes step (next false) mid rest s' (.ok b) →
      IsMarked step tree s') : IsMarked step tree s' := by
  obtain ⟨populated, mid, rest, rfl, look, h⟩ := passes_question_bind_iff.mp h
  cases populated with
  | false => exact missing h
  | true =>
    rw [found] at h
    obtain ⟨-, rfl, -⟩ := passes_pure_iff.mp h
    exact ⟨_, look⟩

/-- A tree that is provided by the submodule or by a clone has its marker. -/
theorem isMarked_of_submoduleOrRemoved
    (h : Passes step tree.submoduleOrRemoved s log s' (.ok true)) : IsMarked step tree s' := by
  have removed {s log} (h : Passes step (Site.removeAll tree.path >>= fun _ => pure false) s log s'
      (.ok true)) : IsMarked step tree s' := by
    rcases passes_bind_iff.mp h with ⟨_, _, he⟩ | ⟨_, _, _, _, _, _, hend⟩
    · cases he
    · obtain ⟨-, -, he⟩ := passes_pure_iff.mp hend
      cases he
  unfold submoduleOrRemoved at h
  obtain ⟨_, fetched, _, _, rfl, _, h⟩ := passes_outcome_bind_iff.mp h
  cases fetched with
  | error e => exact removed h
  | ok => exact isMarked_of_look h rfl removed

theorem isMarked_of_cloneChecked
    (h : Passes step tree.cloneChecked s log s' (.ok path)) : IsMarked step tree s' := by
  rcases passes_bind_iff.mp h with ⟨_, _, he⟩ | ⟨_, _, _, _, rfl, _, h⟩
  · cases he
  · refine isMarked_of_look h rfl fun h => ?_
    obtain ⟨-, -, he⟩ := passes_throw_iff.mp h
    cases he

theorem isMarked_of_ensure (h : Passes step tree.ensure s log s' (.ok path)) :
    IsMarked step tree s' := by
  have provided {s log} (h : Passes step (do
      if ← tree.submoduleOrRemoved then return tree.path
      tree.cloneChecked) s log s' (.ok path)) : IsMarked step tree s' := by
    rcases passes_bind_iff.mp h with ⟨_, _, he⟩ | ⟨_, done, _, _, rfl, hdone, h⟩
    · cases he
    cases done with
    | false => exact isMarked_of_cloneChecked h
    | true =>
      obtain ⟨-, rfl, -⟩ := passes_pure_iff.mp h
      exact isMarked_of_submoduleOrRemoved hdone
  obtain ⟨there, _, _, rfl, _, h⟩ := passes_question_bind_iff.mp h
  cases there with
  | true => exact isMarked_of_look h rfl provided
  | false =>
    obtain ⟨versioned, _, _, rfl, _, h⟩ := passes_question_bind_iff.mp h
    cases versioned with
    | true => exact provided h
    | false => exact isMarked_of_cloneChecked h

end Marker
end SourceTree

namespace HostFiles

variable {σ α : Type} {files : HostFiles σ} {p : Procedure Site α} {a : α} {s s' : σ}
  {log : List (Moment Site σ)}

/-- A tree that was made sure of is a directory. -/
theorem dir?_of_ensure {tree : SourceTree} {path : String}
    (h : Passes files.moves tree.ensure s log s' (.ok path)) :
    ∃ dir, files.dir? s' tree.path = some dir :=
  let ⟨_, look⟩ := SourceTree.isMarked_of_ensure h
  files.above (by decide +kernel) look

/-- A place that directories are made for: the way to one of them goes through it. -/
def OnTheWay (files : HostFiles σ) (log : List (Moment Site σ)) (place : List String) : Prop :=
  ∃ m ∈ log, ∃ path, m.event.call = .makeDirectories path ∧ files.Through m.state path place

/-- Whether an engine leaves alone what is in a directory, wherever that is, and the way to it. -/
def EngineSpares (files : HostFiles σ) (path : String) : Prop :=
  ∀ {origin s s' : σ} {dir : List String} {call : EngineCall} {answer : call.Answer},
    files.dir? origin path = some dir → files.moves s ⟨.engine call, answer⟩ s' →
      (∀ place, dir <+: place → files.at? s' place = files.at? s place) ∧
        (files.dir? s path = some dir → files.dir? s' path = some dir)

/-- A course in which things are only looked up changes nothing. -/
theorem same_of_inquiries (h : Procedure.Passes files.moves p s log s' a)
    (inquiries : ∀ m ∈ log, SiteCall.IsInquiry m.event.call) (place : List String) :
    files.at? s' place = files.at? s place := by
  induction h with
  | done a s => rfl
  | ask first rest ih =>
    obtain ⟨hfirst, hrest⟩ := List.forall_mem_cons.mp inquiries
    exact (ih hrest).trans (files.still first (.inl hfirst) place)

/-- Directories are found where they were, all along. -/
theorem reached_of_keeping (h : Procedure.Passes files.moves p s log s' a)
    (keeping : ∀ m ∈ log, SiteCall.IsKeeping m.event.call) {path : String} {dir : List String}
    (there : files.dir? s path = some dir) : files.dir? s' path = some dir := by
  induction h with
  | done a s => exact there
  | ask first rest ih =>
    obtain ⟨hfirst, hrest⟩ := List.forall_mem_cons.mp keeping
    exact ih hrest (files.reached first hfirst there)

theorem OnTheWay.mono {more : List (Moment Site σ)} {place : List String}
    (h : files.OnTheWay log place) (hlog : log ⊆ more) : files.OnTheWay more place := by
  obtain ⟨m, hm, path, hcall, hplace⟩ := h
  exact ⟨m, hlog hm, path, hcall, hplace⟩

/-- A call that provides a directory changes nothing but places at which there was nothing, and
these are on the way to it. -/
theorem moved_of_caching {m : Moment Site σ} (h : files.moves m.state m.event s')
    (caching : SiteCall.IsCaching m.event.call) (place : List String) :
    files.at? s' place = files.at? m.state place ∨ files.at? m.state place = none ∧
      files.at? s' place = some .directory ∧ files.OnTheWay [m] place := by
  obtain ⟨s, call, answer⟩ := m
  cases call with
  | userCache => exact .inl (files.still h (.inr rfl) place)
  | makeDirectories path =>
    exact (files.made h place).imp id fun ⟨absent, directory, through⟩ =>
      ⟨absent, directory, _, List.mem_singleton_self _, path, rfl, through⟩
  | _ => exact caching.elim

theorem moved_of_cachings (h : Procedure.Passes files.moves p s log s' a)
    (caching : ∀ m ∈ log, SiteCall.IsCaching m.event.call) (place : List String) :
    files.at? s' place = files.at? s place ∨ files.at? s place = none ∧
      files.at? s' place = some .directory ∧ files.OnTheWay log place := by
  induction h with
  | done a s => exact .inl rfl
  | @ask c next answer s mid s' log a first rest ih =>
    obtain ⟨hfirst, hrest⟩ := List.forall_mem_cons.mp caching
    rcases moved_of_caching (m := ⟨s, c, answer⟩) first hfirst place with
      same | ⟨absent, directory, onTheWay⟩
    · rw [← same]
      exact (ih hrest).imp id fun ⟨absent, directory, onTheWay⟩ =>
        ⟨absent, directory, onTheWay.mono (List.subset_cons_self _ _)⟩
    · rcases ih hrest with kept | ⟨absent', -⟩
      · exact .inr ⟨absent, kept.trans directory, onTheWay.mono (by simp)⟩
      · rw [directory] at absent'
        cases absent'

end HostFiles

/-! A disk on which every call succeeds, but for the builds of images, whose end is given, and for
what would put a file in the place of a directory or of a link. -/
namespace Drive

open Rehearsal

variable {disk disk' : List String → Option FileEntry}

/-- Where what is put at a place ends up. -/
def lands (disk : List String → Option FileEntry) (place : List String) : List String :=
  match disk place with
  | some (.link target) => Path.components target
  | _ => place

def follow (disk : List String → Option FileEntry) (names : List String) : List String :=
  names.foldl (fun dir name => lands disk (dir ++ [name])) []

/-- The place that a path names. A link there is not followed. -/
def placeOf (disk : List String → Option FileEntry) (path : String) : List String :=
  follow disk (Path.components path).dropLast ++ (Path.components path).getLast?.toList

def ofEntries (entries : List (String × FileEntry)) (place : List String) : Option FileEntry :=
  (entries.find? fun e => Path.components e.1 = place).map Prod.snd

/-- The disk with a file at a place, which a directory or a link does not make way for. -/
def write (disk : List String → Option FileEntry) (target : List String) (content : Bytes) :
    Option (List String → Option FileEntry) :=
  match disk target with
  | some .directory | some (.link _) => none
  | _ => some fun place => if place = target then some (.file content) else disk place

/-- The answer to a call, and the disk after it. -/
def answer (built : Attempt Unit) : (c : SiteCall) → (List String → Option FileEntry) →
    c.Answer × (List String → Option FileEntry)
  | .host (.fileExists path), disk => ((disk (follow disk (Path.components path))).isSome, disk)
  | .host (.writeFile path content), disk =>
    match write disk (lands disk (placeOf disk path)) content with
    | some disk' => (.ok (), disk')
    | none => (.error (.io path "not a file"), disk)
  | .host (.removeAll path), disk =>
    (.ok (), fun place => if placeOf disk path <+: place then none else disk place)
  | .makeDirectories path, disk =>
    (.ok (), fun place =>
      if disk place = none ∧ place <+: follow disk (Path.components path) then some .directory
      else disk place)
  | .engine (.imageExists _), disk => (false, disk)
  | .engine (.build _), disk => (built, disk)
  | c, disk => (Site.obliging c, disk)

theorem answer_of_quiet {built : Attempt Unit} {c : SiteCall}
    (quiet : SiteCall.IsInquiry c ∨ c = .userCache) (disk : List String → Option FileEntry) :
    (answer built c disk).2 = disk := by
  rcases quiet with quiet | rfl
  · cases c with
    | host call =>
      cases call
      case fileExists | readFile | hostInfo | executeWithin => rfl
      all_goals exact quiet.elim
    | _ => exact quiet.elim
  · rfl

theorem lands_of_direct {place : List String}
    (direct : ∀ target, disk place ≠ some (.link target)) : lands disk place = place := by
  unfold lands
  split
  · next target link => exact absurd link (direct target)
  · rfl

/-- Names lead to the same place as long as no link is made or changed. -/
theorem follow_eq (h : ∀ place, disk' place = disk place ∨
      (∀ target, disk place ≠ some (.link target)) ∧ ∀ target, disk' place ≠ some (.link target)) :
    follow disk' = follow disk := by
  have same : lands disk' = lands disk := by
    funext place
    rcases h place with same | ⟨direct, direct'⟩
    · rw [lands, lands, same]
    · rw [lands_of_direct direct, lands_of_direct direct']
  unfold follow
  rw [same]

theorem of_write {target : List String} {content : Bytes}
    (h : write disk target content = some disk') : (∀ path, disk target ≠ some (.link path)) ∧
      disk' target = some (.file content) ∧ ∀ place, place ≠ target → disk' place = disk place := by
  unfold write at h
  split at h
  · cases h
  · cases h
  · next hlink =>
    cases h
    exact ⟨hlink, if_pos rfl, fun place other => if_neg other⟩

/-- Writing a file changes nothing but its place, and makes no link of it. -/
theorem answer_writeFile (built : Attempt Unit) (path : String) (content : Bytes)
    (disk : List String → Option FileEntry) (place : List String) :
    let disk' := (answer built (.host (.writeFile path content)) disk).2
    disk' place = disk place ∨ place = lands disk (placeOf disk path) ∧
      (∀ target, disk place ≠ some (.link target)) ∧
        ∀ target, disk' place ≠ some (.link target) := by
  dsimp only [answer]
  split
  · next disk' hwrite =>
    obtain ⟨direct, file, same⟩ := of_write hwrite
    by_cases hplace : place = lands disk (placeOf disk path)
    · subst hplace
      exact .inr ⟨rfl, direct, fun target link => by cases file.symm.trans link⟩
    · exact .inl (same place hplace)
  · exact .inl rfl

theorem follow_of_answer (built : Attempt Unit) {c : SiteCall} (keeping : SiteCall.IsKeeping c)
    (disk : List String → Option FileEntry) :
    follow (answer built c disk).2 = follow disk := by
  rcases keeping with inquiry | caching | ⟨path, content, rfl⟩
  · rw [answer_of_quiet (.inl inquiry)]
  · cases c with
    | userCache => rfl
    | makeDirectories path =>
      refine follow_eq fun place => ?_
      by_cases made : disk place = none ∧ place <+: follow disk (Path.components path)
      · have direct : (answer built (.makeDirectories path) disk).2 place = some .directory :=
          if_pos made
        exact .inr ⟨made.1 ▸ nofun, direct ▸ nofun⟩
      · exact .inl (if_neg made)
    | _ => exact caching.elim
  · exact follow_eq fun place => (answer_writeFile built path content disk place).imp id And.right

theorem placeOf_join {base name : String} (hname : Path.IsName name) :
    placeOf disk (Path.join base name) = follow disk (Path.components base) ++ [name] := by
  rw [placeOf, Path.components_join hname, List.dropLast_concat, List.getLast?_concat]
  rfl

def files (built : Attempt Unit) : HostFiles (List String → Option FileEntry) where
  at? disk := disk
  moves disk e disk' := answer built e.call disk = (e.answer, disk')
  dir? disk path := some (follow disk (Path.components path))
  lands := lands
  Through disk path place := place <+: follow disk (Path.components path)
  direct := lands_of_direct
  above _ _ := ⟨_, rfl⟩
  still := by
    rintro disk disk' e h quiet place
    have same : disk' = disk := by
      rw [← answer_of_quiet quiet disk, h]
    rw [same]
  reached := by
    rintro disk disk' e h keeping path _ ⟨⟩
    have same := follow_of_answer built keeping disk
    rw [h] at same
    rw [same]
  written := by
    rintro disk disk' base name _ content _ ⟨⟩ hname h place
    have moved := answer_writeFile built (Path.join base name) content disk place
    rw [h, placeOf_join hname] at moved
    exact moved.imp id And.left
  removed := by
    rintro disk disk' base name _ _ ⟨⟩ hname ⟨⟩ place outside
    rw [← placeOf_join hname] at outside
    exact if_neg outside
  gone := by
    rintro disk disk' base name _ ⟨⟩ hname ⟨⟩ place within
    rw [← placeOf_join hname] at within
    exact if_pos within
  made := by
    rintro disk disk' path _ ⟨⟩ place
    by_cases made : disk place = none ∧ place <+: follow disk (Path.components path)
    · exact .inr ⟨made.1, if_pos made, made.2⟩
    · exact .inl (if_neg made)

theorem engineSpares (built : Attempt Unit) (path : String) : (files built).EngineSpares path := by
  intro origin disk disk' dir call _ _ h
  have same : (answer built (.engine call) disk).2 = disk := by cases call <;> rfl
  have moved : (answer built (.engine call) disk).2 = disk' := congrArg Prod.snd h
  rw [← moved, same]
  exact ⟨fun _ _ => rfl, id⟩

end Drive
end PodNetwork
