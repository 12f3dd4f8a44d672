import Mathlib.Data.Finset.SDiff
import Mathlib.Data.Countable.Basic
import Mathlib.Logic.Equiv.Finset
import PodNetwork.Proofs.Image.Gathering

/-! What the revision of a tree tells of uncommitted changes.

The version control system keeps files in three places: in the commit, in the index, and in the
tree. Whether there are changes is asked of all three, but what is hashed is only the difference
between the index and the tree. Changes that are staged alike in the index and the tree leave no
trace in the hash. -/
namespace PodNetwork.Image

open Routine
open Procedure (Event)

abbrev Files := Finset (String × Bytes)

/-- The tracked files of a tree at a commit. -/
structure Checkout where
  commit : String
  named : commit ≠ ""
  committed : Files
  index : Files
  working : Files

namespace Checkout

def Clean (s : Checkout) : Prop := s.index = s.committed ∧ s.working = s.index

instance (s : Checkout) : Decidable s.Clean := inferInstanceAs (Decidable (_ ∧ _))

/-- What was removed from the index and added to it to get the files of the tree. -/
def unstaged (s : Checkout) : Files × Files := (s.index \ s.working, s.working \ s.index)

theorem unstaged_of_working_eq {s : Checkout} (h : s.working = s.index) : s.unstaged = (∅, ∅) := by
  rw [unstaged, h, Finset.sdiff_self]

/-- The files of a tree are told by the index and what is not staged. -/
theorem working_eq (s : Checkout) :
    s.working = (s.index \ s.unstaged.1) ∪ s.unstaged.2 := by
  ext file
  simp only [unstaged, Finset.mem_union, Finset.mem_sdiff]
  tauto

end Checkout

/-- What the version control system prints of a tree. -/
structure Git where
  status : Checkout → String
  describe : Files × Files → String
  /-- The status says something of every tree that has changed, and nothing of the others. -/
  status_blank : ∀ s, Text.isAllBlank (status s) = true ↔ s.Clean
  /-- A description tells what it describes. -/
  describe_injective : Function.Injective describe
  describe_nothing : describe (∅, ∅) = ""

namespace Git

/-- Answers that say of a tree what is true of it. -/
structure Answers (git : Git) (tree : String) (s : Checkout) (events : List (Event Site)) :
    Prop where
  head : ∀ answer : Attempt CommandOutput, (⟨headCall tree, answer⟩ : Event Site) ∈ events →
    ∃ output : CommandOutput, answer = .ok output ∧ Text.trimmed output.stdout = s.commit
  status : ∀ answer : Attempt CommandOutput, (⟨statusCall tree, answer⟩ : Event Site) ∈ events →
    ∃ output : CommandOutput, answer = .ok output ∧ output.stdout = git.status s
  diff : ∀ answer : Attempt CommandOutput, (⟨diffCall tree, answer⟩ : Event Site) ∈ events →
    ∃ output : CommandOutput, answer = .ok output ∧ output.stdout = git.describe s.unstaged

variable {git : Git} {tree otherTree : String} {s t : Checkout}
  {events otherEvents : List (Event Site)} {result otherResult : Attempt String}

/-- The commit of a tree, marked with what is not staged if anything has changed. -/
def markedCommit (git : Git) (s : Checkout) : String :=
  if s.Clean then s.commit else s.commit ++ changeMark (git.describe s.unstaged)

theorem sourceRevision_eq (answers : git.Answers tree s events)
    (run : Runs (sourceRevision tree) events result) : result = .ok (git.markedCommit s) := by
  unfold markedCommit
  have told {head : CommandOutput} (h : (⟨headCall tree, .ok head⟩ : Event Site) ∈ events) :
      Text.trimmed head.stdout = s.commit := by
    obtain ⟨_, ⟨⟩, trimmed⟩ := answers.head _ h
    exact trimmed
  have state {status : CommandOutput} (h : (⟨statusCall tree, .ok status⟩ : Event Site) ∈ events) :
      Text.isAllBlank status.stdout = true ↔ s.Clean := by
    obtain ⟨_, ⟨⟩, printed⟩ := answers.status _ h
    rw [printed, git.status_blank]
  have second {a b : Event Site} {rest : List (Event Site)} : b ∈ a :: b :: rest :=
    List.mem_cons_of_mem _ List.mem_cons_self
  have third {a b c : Event Site} {rest : List (Event Site)} : c ∈ a :: b :: c :: rest :=
    List.mem_cons_of_mem _ second
  cases revises_of_runs run with
  | unprinted e =>
    obtain ⟨_, ⟨⟩, _⟩ := answers.head _ List.mem_cons_self
  | headless unnamed =>
    rw [told List.mem_cons_self, String.isEmpty_iff] at unnamed
    exact absurd unnamed s.named
  | untold =>
    obtain ⟨_, ⟨⟩, _⟩ := answers.status _ second
  | clean _ blank =>
    rw [told List.mem_cons_self, if_pos ((state second).mp blank)]
  | marked =>
    obtain ⟨_, ⟨⟩, _⟩ := answers.diff _ third
  | hashed _ changed diff =>
    have dirty : ¬ s.Clean := fun clean => Bool.eq_false_iff.mp changed ((state second).mpr clean)
    obtain ⟨_, ⟨⟩, printed⟩ := answers.diff _ third
    rw [told List.mem_cons_self, if_neg dirty, printed]

/-- Two descriptions leave the same mark if they are the same or collide. -/
theorem changeMark_eq_iff {diff other : String} :
    changeMark diff = changeMark other ↔ diff = other ∨
      Sha256.Collide diffHashLength (Bytes.ofString diff) (Bytes.ofString other) := by
  rw [changeMark, changeMark, String.append_right_inj, Sha256.hexPrefix_eq_iff, Bytes.ofString_inj]

/-- A marked revision is not the commit. -/
theorem append_changeMark_ne (head diff : String) : head ++ changeMark diff ≠ head := by
  intro h
  have lengths := congrArg (fun s => s.toList.length) h
  simp [changeMark] at lengths

/-- Whether the descriptions of what is not staged collide, so that their hashes do not tell them
apart. -/
def Collide (git : Git) (s t : Checkout) : Prop :=
  Sha256.Collide diffHashLength (Bytes.ofString (git.describe s.unstaged))
    (Bytes.ofString (git.describe t.unstaged))

theorem markedCommit_eq_iff (commit : s.commit = t.commit) (committed : s.committed = t.committed)
    (edited : s.working ≠ t.working) : git.markedCommit s = git.markedCommit t ↔
      ¬ s.Clean ∧ ¬ t.Clean ∧ (s.unstaged = t.unstaged ∨ git.Collide s t) := by
  unfold markedCommit
  by_cases hs : s.Clean <;> by_cases ht : t.Clean
  · -- Trees that have not changed both have the files of the commit.
    exact absurd (hs.2.trans (hs.1.trans (committed.trans (ht.1.symm.trans ht.2.symm)))) edited
  · rw [if_pos hs, if_neg ht, commit]
    exact ⟨fun h => absurd h.symm (append_changeMark_ne _ _), fun h => absurd hs h.1⟩
  · rw [if_neg hs, if_pos ht, commit]
    exact ⟨fun h => absurd h (append_changeMark_ne _ _), fun h => absurd ht h.2.1⟩
  · rw [if_neg hs, if_neg ht, commit, String.append_right_inj, changeMark_eq_iff,
      git.describe_injective.eq_iff]
    exact ⟨fun h => ⟨hs, ht, h⟩, fun h => h.2.2⟩

/-- Trees of one commit whose files differ have different revisions, unless both have changed and
what is not staged is the same in them, or its descriptions collide. So two edits on top of one
index always have different revisions, but for a collision; edits that are staged do not. -/
theorem revisions_eq_iff (answers : git.Answers tree s events)
    (otherAnswers : git.Answers otherTree t otherEvents)
    (run : Runs (sourceRevision tree) events result)
    (otherRun : Runs (sourceRevision otherTree) otherEvents otherResult)
    (commit : s.commit = t.commit) (committed : s.committed = t.committed)
    (edited : s.working ≠ t.working) :
    ∃ revision other, result = .ok revision ∧ otherResult = .ok other ∧
      (revision = other ↔
        ¬ s.Clean ∧ ¬ t.Clean ∧ (s.unstaged = t.unstaged ∨ git.Collide s t)) ∧
      (s.index = t.index → revision = other → git.Collide s t) := by
  have same : git.markedCommit s = git.markedCommit t ↔ _ :=
    markedCommit_eq_iff commit committed edited
  refine ⟨_, _, sourceRevision_eq answers run, sourceRevision_eq otherAnswers otherRun, same, ?_⟩
  intro index equal
  refine (same.mp equal).2.2.resolve_left fun unstaged => edited ?_
  rw [s.working_eq, t.working_eq, index, unstaged]

/-- The answers of a site that has a checkout, whatever its path is. -/
def site (git : Git) (s : Checkout) : (c : SiteCall) → c.Answer
  | .host (.executeWithin _ _ [_, _, "rev-parse", _]) => .ok ⟨s.commit ++ "\n", ""⟩
  | .host (.executeWithin _ _ [_, _, "status", _, _]) => .ok ⟨git.status s, ""⟩
  | .host (.executeWithin ..) => .ok ⟨git.describe s.unstaged, ""⟩
  | c => Site.obliging c

theorem answers_of_site (line : Text.trimmed (s.commit ++ "\n") = s.commit)
    (h : ∀ e ∈ events, e.answer = git.site s e.call) : git.Answers tree s events where
  head _ asked := ⟨_, h _ asked, line⟩
  status _ asked := ⟨_, h _ asked, rfl⟩
  diff _ asked := ⟨_, h _ asked, rfl⟩

theorem exists_numbering : ∃ number : Files × Files → Nat, Function.Injective number :=
  have : Countable Char := Function.Injective.countable fun _ _ => Char.toNat_inj.mp
  have : Countable UInt8 := Function.Injective.countable fun _ _ => UInt8.toNat_inj.mp
  have : Countable String := Function.Injective.countable fun _ _ => String.toList_inj.mp
  exists_injective_nat (Files × Files)

/-- The number of a change, counted out; of no change nothing is said. -/
def tally (number : Files × Files → Nat) (change : Files × Files) : String :=
  if change = (∅, ∅) then "" else .ofList (List.replicate (number change + 1) '+')

theorem tally_injective {number : Files × Files → Nat} (h : Function.Injective number) :
    Function.Injective (tally number) := by
  intro change other same
  have lengths := congrArg String.length same
  unfold tally at lengths
  split at lengths <;> split at lengths
  · next none_changed none_other => rw [none_changed, none_other]
  · simp at lengths
  · simp at lengths
  · exact h (by simpa using lengths)

/-- A version control system that prints one line for every tree that has changed, and as much of
the change as its number. -/
def numbering (number : Files × Files → Nat) (h : Function.Injective number) : Git where
  status s := if s.Clean then "" else "M  net.go\n"
  describe := tally number
  status_blank s := by
    split
    · next clean => exact ⟨fun _ => clean, fun _ => by decide⟩
    · next dirty => exact ⟨fun blank => absurd blank (by decide), fun clean => absurd clean dirty⟩
  describe_injective := tally_injective h
  describe_nothing := if_pos rfl

theorem status_numbering {number : Files × Files → Nat} (h : Function.Injective number)
    (dirty : ¬ s.Clean) : (numbering number h).status s = "M  net.go\n" :=
  if_neg dirty

/-- A tree at a commit with one file, as it was committed and as it was edited and staged. -/
def staged (before after : String) : Checkout :=
  ⟨"4f1c", by decide, {("net.go", Bytes.ofString before)}, {("net.go", Bytes.ofString after)},
    {("net.go", Bytes.ofString after)}⟩

theorem staged_clean_iff {before after : String} :
    (staged before after).Clean ↔ after = before := by
  simp [Checkout.Clean, staged, Bytes.ofString_inj]

/-- Different edits that are staged share a revision: nothing is printed of either of them. -/
theorem revisions_eq_iff_staged :
    ∃ (git : Git) (events otherEvents : List (Event Site)) (revision : String),
      let s := staged "package net\n" "package net // one\n"
      let t := staged "package net\n" "package net // two\n"
      git.status s = "M  net.go\n" ∧ git.status t = "M  net.go\n" ∧
        git.describe s.unstaged = "" ∧ git.describe t.unstaged = "" ∧
        git.Answers "/src" s events ∧ git.Answers "/src" t otherEvents ∧
        s.commit = t.commit ∧ s.committed = t.committed ∧ s.working ≠ t.working ∧
        Runs (sourceRevision "/src") events (.ok revision) ∧
        Runs (sourceRevision "/src") otherEvents (.ok revision) := by
  obtain ⟨number, injective⟩ := exists_numbering
  obtain ⟨git, changed⟩ : ∃ git : Git, ∀ s, ¬ s.Clean → git.status s = "M  net.go\n" :=
    ⟨numbering number injective, fun _ => status_numbering injective⟩
  have dirty {edit : String} (h : edit ≠ "package net\n") : ¬ (staged "package net\n" edit).Clean :=
    mt staged_clean_iff.mp h
  have unstaged (edit : String) : (staged "package net\n" edit).unstaged = (∅, ∅) :=
    Checkout.unstaged_of_working_eq rfl
  have unsaid (edit : String) : git.describe (staged "package net\n" edit).unstaged = "" :=
    (congrArg git.describe (unstaged edit)).trans git.describe_nothing
  have edited : (staged "package net\n" "package net // one\n").working ≠
      (staged "package net\n" "package net // two\n").working := by
    simp [staged, Bytes.ofString_inj]
  have run (edit : String) := Procedure.runs_recorded (I := Site)
    (git.site (staged "package net\n" edit)) (sourceRevision "/src").run
  have line : Text.trimmed "4f1c\n" = "4f1c" := by decide +kernel
  have answers (edit : String) := @answers_of_site git "/src" (staged "package net\n" edit) _ line
    (Procedure.answer_of_mem_recorded (I := Site) (p := (sourceRevision "/src").run))
  obtain ⟨revision, other, hr, ho, equal, _⟩ := revisions_eq_iff (answers "package net // one\n")
    (answers "package net // two\n") (run _) (run _) rfl rfl edited
  obtain rfl := equal.mpr ⟨dirty (by decide), dirty (by decide),
    .inl ((unstaged _).trans (unstaged _).symm)⟩
  exact ⟨git, _, _, revision, changed _ (dirty (by decide)), changed _ (dirty (by decide)),
    unsaid _, unsaid _, answers _, answers _, rfl, rfl, edited, hr ▸ run _, ho ▸ run _⟩

end Git
end PodNetwork.Image
