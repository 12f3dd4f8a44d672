import Mathlib.Data.String.Basic
import PodNetwork.Image.Revision
import PodNetwork.Proofs.Text.Cuts

/-! Which commit the name of a branch is resolved to.

A remote repository lists all refs whose name is the one asked for, or ends in it behind a slash, in
the order of their names. The commit taken is that of the first one, so that the name of a branch
stands for that branch only if no other ref of such a name comes before it. -/
namespace PodNetwork

namespace Text

/-- Texts that each end a line are the lines of what they make up. -/
theorem lines_flatMap_newline {parts : List (List Char)}
    (h : ∀ part ∈ parts, '\n' ∉ part ∧ part.getLast? ≠ some '\r') :
    lines (parts.flatMap fun part => part ++ ['\n']) = parts := by
  have cut : segments (· == '\n') (parts.flatMap fun part => part ++ ['\n']) = parts ++ [[]] := by
    induction parts with
    | nil => rfl
    | cons part parts ih =>
      have single : ∀ x ∈ part, (x == '\n') = false := by
        intro x hx
        rw [beq_eq_false_iff_ne]
        rintro rfl
        exact (h part List.mem_cons_self).1 hx
      rw [List.flatMap_cons, List.append_assoc, List.singleton_append,
        segments_append_cons single rfl, ih fun p hp => h p (List.mem_cons_of_mem _ hp),
        List.cons_append]
  have unended : parts.map (fun l => if l.getLast? = some '\r' then l.dropLast else l) = parts :=
    calc parts.map _ = parts.map id := List.map_congr_left fun part hp => if_neg (h part hp).2
      _ = parts := List.map_id parts
  simp only [lines, cut, List.dropLast_concat, List.getLast?_concat, unended]

end Text

namespace Image

open Text

/-- A ref of a remote repository: the commit that it points to, and its name. -/
structure RemoteRef where
  commit : String
  name : String
  commit_ne : commit.toList ≠ []
  commit_solid : commit.toList.any isBlank = false
  /-- A name ends no line. -/
  name_plain : '\n' ∉ name.toList ∧ '\r' ∉ name.toList

namespace RemoteRef

variable {refs : List RemoteRef} {r branch first other : RemoteRef} {ref : String}

def line (r : RemoteRef) : List Char := r.commit.toList ++ '\t' :: r.name.toList

/-- Whether a ref has a name asked for: the name itself, or one that ends in it behind a slash. -/
def Answers (r : RemoteRef) (ref : String) : Prop :=
  r.name = ref ∨ '/' :: ref.toList <:+ r.name.toList

instance (r : RemoteRef) (ref : String) : Decidable (r.Answers ref) :=
  inferInstanceAs (Decidable (r.name = ref ∨ '/' :: ref.toList <:+ r.name.toList))

def listed (refs : List RemoteRef) (ref : String) : List RemoteRef :=
  refs.filter fun r => r.Answers ref

def listing (refs : List RemoteRef) (ref : String) : String :=
  .ofList (((listed refs ref).map line).flatMap fun line => line ++ ['\n'])

theorem solid (r : RemoteRef) : ∀ x ∈ r.commit.toList, isBlank x = false := by
  simpa using r.commit_solid

theorem newline_notMem_line (r : RemoteRef) : '\n' ∉ r.line := by
  have commit : '\n' ∉ r.commit.toList := by
    intro h
    have solid : isBlank '\n' = false := r.solid _ h
    cases solid
  simp [line, commit, r.name_plain.1]

theorem getLast?_line (r : RemoteRef) : r.line.getLast? ≠ some '\r' := by
  rw [line, List.getLast?_append, List.getLast?_cons]
  intro h
  have last : r.name.toList.getLast?.getD '\t' = '\r' := by simpa using h
  cases hname : r.name.toList.getLast? with
  | none => simp [hname] at last
  | some x =>
    obtain rfl : x = '\r' := by simpa [hname] using last
    exact r.name_plain.2 (List.mem_of_getLast? hname)

theorem lines_listing (refs : List RemoteRef) (ref : String) :
    lines (listing refs ref).toList = (listed refs ref).map line := by
  rw [listing, String.toList_ofList]
  apply lines_flatMap_newline
  intro part hpart
  obtain ⟨r, -, rfl⟩ := List.mem_map.mp hpart
  exact ⟨r.newline_notMem_line, r.getLast?_line⟩

theorem head?_words_line (r : RemoteRef) : (words r.line).head? = some r.commit.toList := by
  rw [line, words_append_cons rfl, words_of_solid r.commit_ne r.solid]
  rfl

/-- The commit taken is that of the first ref listed. -/
theorem listedCommit_listing (refs : List RemoteRef) (ref : String) :
    listedCommit (listing refs ref) ref = ((listed refs ref).head?.map commit).getD ref := by
  rw [listedCommit, lines_listing]
  cases listed refs ref with
  | nil => rfl
  | cons first later =>
    rw [List.map_cons, List.findSome?_cons, head?_words_line]
    exact String.ofList_toList

/-- The ref of a name asked for whose own name comes first. -/
structure IsFirst (refs : List RemoteRef) (ref : String) (first : RemoteRef) : Prop where
  mem : first ∈ refs
  answers : first.Answers ref
  least : ∀ other ∈ refs, other.Answers ref → first.name ≤ other.name

/-- The first ref listed is the one whose name comes first. -/
theorem head?_listed_iff (sorted : refs.Pairwise fun r other => r.name < other.name) :
    (listed refs ref).head? = some first ↔ IsFirst refs ref first := by
  have ordered : (listed refs ref).Pairwise fun r other => r.name < other.name :=
    sorted.filter _
  have mem_listed {r : RemoteRef} : r ∈ listed refs ref ↔ r ∈ refs ∧ r.Answers ref := by
    simp [listed]
  cases hl : listed refs ref with
  | nil =>
    rw [List.head?_nil]
    refine ⟨nofun, fun h => ?_⟩
    have none_left : first ∈ listed refs ref := mem_listed.mpr ⟨h.mem, h.answers⟩
    rw [hl] at none_left
    cases none_left
  | cons head later =>
    rw [hl] at ordered mem_listed
    obtain ⟨behind, -⟩ := List.pairwise_cons.mp ordered
    obtain ⟨hmem, hanswers⟩ := mem_listed.mp List.mem_cons_self
    rw [List.head?_cons, Option.some_inj]
    -- All names behind the head are greater than its own, so that no ref there can be the first.
    constructor
    · rintro rfl
      refine ⟨hmem, hanswers, fun other hother ho => ?_⟩
      rcases List.mem_cons.mp (mem_listed.mpr ⟨hother, ho⟩) with rfl | hlater
      · exact le_refl _
      · exact le_of_lt (behind other hlater)
    · intro h
      rcases List.mem_cons.mp (mem_listed.mpr ⟨h.mem, h.answers⟩) with rfl | hlater
      · rfl
      · exact absurd (h.least head hmem hanswers) (not_le_of_gt (behind first hlater))

/-- The name of a branch asks for the branch, among other refs. -/
theorem answers_branch (hb : branch.name = "refs/heads/" ++ ref) : branch.Answers ref := by
  right
  rw [hb, String.toList_append]
  exact ⟨"refs/heads".toList, by simp⟩

/-- The name of a branch is resolved to the commit of the first ref listed for it, which is the
branch exactly if no other ref of such a name comes before it. -/
theorem listedCommit_branch (sorted : refs.Pairwise fun r other => r.name < other.name)
    (hmem : branch ∈ refs) (hb : branch.name = "refs/heads/" ++ ref) :
    ∃ first, IsFirst refs ref first ∧
      listedCommit (listing refs ref) ref = first.commit ∧
      (first = branch ↔ ∀ other ∈ refs, other.Answers ref → branch.name ≤ other.name) := by
  have among : branch ∈ listed refs ref := by
    simpa [listed, hmem] using answers_branch hb
  obtain ⟨first, hfirst⟩ : ∃ first, (listed refs ref).head? = some first :=
    Option.isSome_iff_exists.mp (List.isSome_head?.mpr (List.ne_nil_of_mem among))
  have isFirst : IsFirst refs ref first := (head?_listed_iff sorted).mp hfirst
  have resolved : listedCommit (listing refs ref) ref = first.commit := by
    rw [listedCommit_listing, hfirst]
    rfl
  refine ⟨first, isFirst, resolved, ?_⟩
  constructor
  · rintro rfl
    exact isFirst.least
  · intro least
    have branchFirst : IsFirst refs ref branch := ⟨hmem, answers_branch hb, least⟩
    exact Option.some.inj (hfirst.symm.trans ((head?_listed_iff sorted).mpr branchFirst))

/-- A branch of a longer name that ends alike stands before the branch asked for, and its commit is
the one taken. -/
theorem listedCommit_branch_feature :
    let feature : RemoteRef := ⟨"6f3c5a2d4b7e8f901a2b3c4d5e6f708192a3b4c5",
      "refs/heads/feature/main", by decide, by decide, by decide⟩
    let main : RemoteRef := ⟨"0a1b2c3d4e5f60718293a4b5c6d7e8f901234567", "refs/heads/main",
      by decide, by decide, by decide⟩
    let refs := [feature, main]
    (refs.Pairwise fun r other => r.name < other.name) ∧
    main ∈ refs ∧ main.name = "refs/heads/" ++ "main" ∧
    (∀ r ∈ refs, r.name ≠ "refs/tags/" ++ "main") ∧
    listedCommit (listing refs "main") "main" = feature.commit ∧
    ∃ first, IsFirst refs "main" first ∧
      listedCommit (listing refs "main") "main" = first.commit ∧ first ≠ main := by
  intro feature main refs
  have sorted : refs.Pairwise fun r other => r.name < other.name := by decide +kernel
  have listed : main ∈ refs := List.mem_cons_of_mem _ List.mem_cons_self
  have taken : listedCommit (listing refs "main") "main" = feature.commit := by decide +kernel
  have named : main.name = "refs/heads/" ++ "main" := rfl
  obtain ⟨first, isFirst, resolved, -⟩ := listedCommit_branch sorted listed named
  refine ⟨sorted, listed, named, by decide +kernel, taken, first, isFirst, resolved, ?_⟩
  rintro rfl
  have differ : feature.commit ≠ main.commit := by decide
  exact differ (taken.symm.trans resolved)

end RemoteRef
end Image
end PodNetwork
