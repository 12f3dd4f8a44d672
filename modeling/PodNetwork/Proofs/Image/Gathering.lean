import PodNetwork.Proofs.Digest.Collisions
import PodNetwork.Proofs.Install.Preparation
import PodNetwork.Proofs.Text.Cuts

/-! What the inputs of a build are collected from.

Each input is told by one answer of the host: the revision by the version control system, the
commit of a ref by the listing of a remote repository, the architecture by the machine, and the
hash by the build file. -/
namespace PodNetwork

namespace Text

theorem newline_notMem_of_solid {cs : List Char} (h : ∀ x ∈ cs, isBlank x = false) : '\n' ∉ cs :=
  fun hn => absurd (h _ hn) (by decide)

/-- A word has characters, and none of them is blank. -/
theorem mem_words {cs word : List Char} (h : word ∈ words cs) :
    word ≠ [] ∧ ∀ x ∈ word, isBlank x = false := by
  obtain ⟨hpart, hne⟩ := List.mem_filter.mp h
  exact ⟨by simpa using hne, not_sep_of_mem_segments hpart⟩

end Text

namespace Image

open Routine
open Procedure (Event)

def gitCall (tree : String) (args : List String) : SiteCall :=
  .host (.executeWithin gitTimeout "git" ("-C" :: tree :: args))

def headCall (tree : String) : SiteCall := gitCall tree ["rev-parse", "HEAD"]

def statusCall (tree : String) : SiteCall :=
  gitCall tree ["status", "--porcelain", "--untracked-files=no"]

def diffCall (tree : String) : SiteCall :=
  gitCall tree ["diff", "--no-ext-diff", "--binary", "--", "."]

theorem runs_git_iff {tree : String} {args : List String} {events : List (Event Site)}
    {result : Attempt String} :
    Runs (git tree args) events result ↔ ∃ answer : Attempt CommandOutput,
      events = [⟨gitCall tree args, answer⟩] ∧ result = answer.map CommandOutput.stdout := by
  rw [git, runs_bind_iff]
  constructor
  · rintro (⟨e, h, rfl⟩ | ⟨before, output, after, rfl, h, h'⟩)
    · exact ⟨.error e, Procedure.runs_call_iff.mp h, rfl⟩
    · obtain ⟨rfl, rfl⟩ := runs_pure_iff.mp h'
      exact ⟨.ok output, by rw [List.append_nil, Procedure.runs_call_iff.mp h]; rfl, rfl⟩
  · rintro ⟨e | output, rfl, rfl⟩
    · exact .inl ⟨e, Procedure.runs_call_iff.mpr rfl, rfl⟩
    · exact .inr ⟨_, output, [], rfl, Procedure.runs_call_iff.mpr rfl, .done _⟩

def changeMark (diff : String) : String :=
  "-dirty-" ++ Sha256.hexPrefix (Bytes.ofString diff) diffHashLength

/-- The ways in which the revision of a tree is determined. -/
inductive Revises (tree : String) : List (Event Site) → Attempt String → Prop
  | unprinted (e : Error) : Revises tree [⟨headCall tree, .error e⟩] (.error e)
  | headless {head : CommandOutput} (unnamed : (Text.trimmed head.stdout).isEmpty = true)
    (e : Error) :
    Revises tree [⟨headCall tree, .ok head⟩] (.error e)
  | untold {head : CommandOutput} (named : (Text.trimmed head.stdout).isEmpty = false) (e : Error) :
    Revises tree [⟨headCall tree, .ok head⟩, ⟨statusCall tree, .error e⟩]
      (.ok (Text.trimmed head.stdout))
  | clean {head status : CommandOutput} (named : (Text.trimmed head.stdout).isEmpty = false)
    (blank : Text.isAllBlank status.stdout = true) :
    Revises tree [⟨headCall tree, .ok head⟩, ⟨statusCall tree, .ok status⟩]
      (.ok (Text.trimmed head.stdout))
  | marked {head status : CommandOutput} (named : (Text.trimmed head.stdout).isEmpty = false)
    (changed : Text.isAllBlank status.stdout = false) (e : Error) :
    Revises tree [⟨headCall tree, .ok head⟩, ⟨statusCall tree, .ok status⟩,
      ⟨diffCall tree, .error e⟩] (.ok (Text.trimmed head.stdout ++ "-dirty"))
  | hashed {head status : CommandOutput} (named : (Text.trimmed head.stdout).isEmpty = false)
    (changed : Text.isAllBlank status.stdout = false) (diff : CommandOutput) :
    Revises tree [⟨headCall tree, .ok head⟩, ⟨statusCall tree, .ok status⟩,
      ⟨diffCall tree, .ok diff⟩] (.ok (Text.trimmed head.stdout ++ changeMark diff.stdout))

theorem revises_of_runs {tree : String} {events : List (Event Site)} {result : Attempt String}
    (h : Runs (sourceRevision tree) events result) : Revises tree events result := by
  unfold sourceRevision at h
  rcases runs_bind_iff.mp h with ⟨e, hg, rfl⟩ | ⟨_, text, _, rfl, hg, h⟩ <;>
    obtain ⟨e' | head, rfl, hhead⟩ := runs_git_iff.mp hg <;> cases hhead
  · exact .unprinted e
  dsimp only at h
  cases named : (Text.trimmed head.stdout).isEmpty with
  | true =>
    rw [named] at h
    obtain ⟨rfl, rfl⟩ := runs_throw_iff.mp h
    exact .headless named _
  | false =>
  rw [named] at h
  obtain ⟨_, _, _, rfl, hs, h⟩ := runs_outcome_bind_iff.mp h
  obtain ⟨e | status, rfl, rfl⟩ := runs_git_iff.mp hs
  · obtain ⟨rfl, rfl⟩ := runs_pure_iff.mp h
    exact .untold named e
  dsimp only [Except.map] at h
  split at h
  · next blank =>
    obtain ⟨rfl, rfl⟩ := runs_pure_iff.mp h
    exact .clean named blank
  · next changed =>
    have changed := Bool.eq_false_iff.mpr changed
    obtain ⟨_, _, _, rfl, hd, h⟩ := runs_outcome_bind_iff.mp h
    obtain ⟨e | diff, rfl, rfl⟩ := runs_git_iff.mp hd <;>
      obtain ⟨rfl, rfl⟩ := runs_pure_iff.mp h
    · exact .marked named changed e
    · rw [String.append_assoc]
      exact .hashed named changed diff

def HeadPrinted (tree : String) (events : List (Event Site)) (head : CommandOutput) : Prop :=
  (⟨headCall tree, .ok head⟩ : Event Site) ∈ events

/-- A revision is a single line if the commit is one. -/
theorem Revises.newline_notMem {tree revision : String} {events : List (Event Site)}
    (h : Revises tree events (.ok revision))
    (line : ∀ head, HeadPrinted tree events head → '\n' ∉ (Text.trimmed head.stdout).toList) :
    '\n' ∉ revision.toList := by
  have mark : '\n' ∉ "-dirty".toList := by decide
  cases h with
  | untold => exact line _ List.mem_cons_self
  | clean => exact line _ List.mem_cons_self
  | marked =>
    rw [String.toList_append, List.mem_append, not_or]
    exact ⟨line _ List.mem_cons_self, mark⟩
  | hashed =>
    rw [changeMark, String.toList_append, String.toList_append, List.mem_append, List.mem_append,
      not_or, not_or]
    exact ⟨line _ List.mem_cons_self, by decide, Sha256.newline_notMem_hexPrefix _ _⟩

/-- The commit that a listing begins with is a word, unless the listing has none. -/
theorem listedCommit_cases (output ref : String) :
    listedCommit output ref = ref ∨
      ∃ word, word ≠ [] ∧ (∀ x ∈ word, Text.isBlank x = false) ∧
        listedCommit output ref = .ofList word := by
  unfold listedCommit
  split
  · next word found =>
    obtain ⟨line, _, hline⟩ := List.exists_of_findSome?_eq_some found
    obtain ⟨hne, hsolid⟩ := Text.mem_words (List.mem_of_head? hline)
    exact .inr ⟨word, hne, hsolid, rfl⟩
  · exact .inl rfl

theorem listedCommit_ne_empty {output ref : String} (h : ref ≠ "") :
    listedCommit output ref ≠ "" := by
  rcases listedCommit_cases output ref with heq | ⟨word, hne, _, heq⟩ <;> rw [heq]
  · exact h
  · simpa using hne

theorem newline_notMem_listedCommit {output ref : String} (h : '\n' ∉ ref.toList) :
    '\n' ∉ (listedCommit output ref).toList := by
  rcases listedCommit_cases output ref with heq | ⟨word, _, hsolid, heq⟩ <;> rw [heq]
  · exact h
  · rw [String.toList_ofList]
    exact Text.newline_notMem_of_solid hsolid

/-- A ref is resolved by what a listing says of it. -/
theorem resolved_of_runs {repository ref commit : String} {events : List (Event Site)}
    (h : Runs (resolveRef repository ref) events (.ok commit)) :
    ∃ output : CommandOutput, commit = listedCommit output.stdout ref := by
  obtain ⟨_, output, _, rfl, _, h⟩ := runs_bind_ok_iff.mp h
  exact ⟨output, Except.ok.inj (runs_pure_iff.mp h).2⟩

def resolution (ref : Option String) : Routine (Option String) :=
  match ref with
  | none | some "" => pure none
  | some ref => some <$> resolveRef ovnRepository ref

def revision (tree : String) : Routine String := do
  match ← (sourceRevision tree).outcome with
  | .ok revision => return revision
  | .error _ => return unknownRevision

/-- Collects the inputs of a build whose build file is there. -/
def gather (tree : String) (ref : Option String) : Routine Inputs := do
  let content ← Site.readFile (Path.join tree dockerfilePath)
  let host ← Site.hostInfo
  let resolvedRef ← resolution ref
  let sourceRevision ← revision tree
  return {
    sourceRevision
    targetArch := host.architecture.platformName
    origin := if resolvedRef.isSome then .fromSource else .prebuilt
    resolvedRef
    dockerfileHash := Sha256.short content }

theorem inputs_eq (tree : String) (ref : Option String) :
    Builder.inputs tree ref = (do
      if ← Site.fileExists (Path.join tree dockerfilePath) then gather tree ref
      else throw (.buildSpecMissing (Path.join tree dockerfilePath))) := by
  unfold Builder.inputs gather resolution revision
  refine bind_congr fun there => ?_
  cases there with
  | false => rfl
  | true =>
    refine bind_congr fun content => bind_congr fun host => ?_
    dsimp only
    split
    all_goals
      simp only [bind_assoc]
      refine bind_congr fun resolved => bind_congr fun told => ?_
      cases told <;> simp only [pure_bind]

theorem only_gather (tree : String) (ref : Option String) :
    Only SiteCall.IsInquiry (gather tree ref) := by
  have whole := Builder.only_inputs tree ref
  rw [inputs_eq] at whole
  exact whole.2 true

/-- Inputs are collected from a tree that has the build file. -/
theorem gathers_of_runs {tree : String} {ref : Option String} {events : List (Event Site)}
    {inputs : Inputs} (h : Runs (Builder.inputs tree ref) events (.ok inputs)) :
    ∃ gathering, gathering ⊆ events ∧ Runs (gather tree ref) gathering (.ok inputs) := by
  rw [inputs_eq] at h
  obtain ⟨there, gathering, rfl, hthere⟩ := runs_question_bind_iff.mp h
  split at hthere
  · exact ⟨gathering, List.subset_cons_self _ _, hthere⟩
  · cases (runs_throw_iff.mp hthere).2

/-- What the inputs of a build are, given the events in which they were collected. -/
structure Gathered (tree : String) (ref : Option String) (events : List (Event Site))
    (inputs : Inputs) : Prop where
  revision : inputs.sourceRevision = unknownRevision ∨
    ∃ part, part ⊆ events ∧ Revises tree part (.ok inputs.sourceRevision)
  arch : ∃ host : HostInfo, (⟨.host .hostInfo, .ok host⟩ : Event Site) ∈ events ∧
    inputs.targetArch = host.architecture.platformName
  /-- An empty ref counts as none, and no other ref is resolved to an empty commit. -/
  resolved : inputs.resolvedRef = none ∨ ∃ given ∈ ref, given ≠ "" ∧
    ∃ output : CommandOutput, inputs.resolvedRef = some (listedCommit output.stdout given)
  dockerfile : ∃ content : Bytes, inputs.dockerfileHash = Sha256.short content

theorem revision_of_runs {tree told : String} {events : List (Event Site)}
    (h : Runs (revision tree) events (.ok told)) :
    told = unknownRevision ∨ Revises tree events (.ok told) := by
  obtain ⟨before, outcome, _, rfl, hs, h⟩ := runs_outcome_bind_iff.mp h
  cases outcome with
  | error e =>
    obtain ⟨_, hu⟩ := runs_pure_iff.mp h
    exact .inl (Except.ok.inj hu)
  | ok revision =>
    obtain ⟨rfl, hr⟩ := runs_pure_iff.mp h
    obtain rfl := Except.ok.inj hr
    exact .inr (by rw [List.append_nil]; exact revises_of_runs hs)

theorem resolution_of_runs {ref resolved : Option String} {events : List (Event Site)}
    (h : Runs (resolution ref) events (.ok resolved)) :
    resolved = none ∨ ∃ given ∈ ref, given ≠ "" ∧
      ∃ output : CommandOutput, resolved = some (listedCommit output.stdout given) := by
  unfold resolution at h
  split at h
  · exact .inl (Except.ok.inj (runs_pure_iff.mp h).2)
  · exact .inl (Except.ok.inj (runs_pure_iff.mp h).2)
  · next given nonempty =>
    rw [map_eq_pure_bind] at h
    obtain ⟨_, commit, _, rfl, hr, h⟩ := runs_bind_ok_iff.mp h
    obtain ⟨output, rfl⟩ := resolved_of_runs hr
    exact .inr ⟨given, rfl, nonempty, output, Except.ok.inj (runs_pure_iff.mp h).2⟩

theorem gathered_of_runs {tree : String} {ref : Option String} {events : List (Event Site)}
    {inputs : Inputs} (h : Runs (gather tree ref) events (.ok inputs)) :
    Gathered tree ref events inputs := by
  simp only [gather, runs_bind_ok_iff, runs_pure_iff] at h
  obtain ⟨reading, content, _, rfl, hread, asking, host, _, rfl, hhost, listing, resolved, _, rfl,
    hresolved, revising, told, _, rfl, htold, rfl, h⟩ := h
  obtain rfl := Except.ok.inj h
  rw [Procedure.runs_call_iff.mp hhost]
  refine ⟨(revision_of_runs htold).imp_right fun hr => ⟨revising, ?_, hr⟩, ⟨host, ?_, rfl⟩,
    resolution_of_runs hresolved, ⟨content, rfl⟩⟩
  · exact fun e he => by simp [he]
  · exact List.mem_append_right _ List.mem_cons_self

end Image
end PodNetwork
