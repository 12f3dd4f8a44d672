import PodNetwork.Corefile.Policy
import PodNetwork.Proofs.Text.Cuts

/-! Tables of rules one after the other.

A table takes every line through all of its rules. Two tables that are applied one after the other
do the same, unless the first one makes two lines of one or leaves no line at all: the text in
between is cut into lines again, and even the empty text has a line. -/
namespace PodNetwork.Corefile

open Text

namespace Rule

variable {rule : Rule} {server line out : List Char}

/-- Whether the word that a rule puts into lines, if any, keeps them lines. -/
def KeepsLines (rule : Rule) : Prop :=
  ∀ suffix, rule.action = .extend suffix → '\n' ∉ suffix.toList

theorem notMem_directive (span : Regex.Span) {c : Char} (h : c ∉ line) :
    c ∉ directive line span :=
  fun hc => h (List.mem_of_mem_take (List.mem_of_mem_drop hc))

theorem newline_notMem_extended {suffix : List Char} (span : Regex.Span) (hs : '\n' ∉ suffix)
    (hl : '\n' ∉ line) : '\n' ∉ extended suffix line span := by
  have rest : '\n' ∉ line.drop span.stop := fun h => hl (List.mem_of_mem_drop h)
  have kept := notMem_directive span hl
  unfold extended
  dsimp only
  split
  · exact hl
  · simp [kept, hs, rest]

theorem newline_notMem_forwarded (span : Regex.Span) (hs : '\n' ∉ server) (hl : '\n' ∉ line) :
    '\n' ∉ forwarded server line span := by
  have kept := notMem_directive span hl
  unfold forwarded
  split <;> simp [kept, hs]

/-- A rule makes one line of a line, if any. -/
theorem newline_notMem_rewrite (hr : rule.KeepsLines) (hs : '\n' ∉ server) (hl : '\n' ∉ line)
    (h : rule.rewrite server line = some out) : '\n' ∉ out := by
  unfold rewrite at h
  split at h
  · cases h
    exact hl
  · next found _ =>
    cases haction : rule.action with
    | drop => simp [haction] at h
    | extend suffix =>
      rw [haction] at h
      cases h
      cases found.group? 1 with
      | none => exact hl
      | some span => exact newline_notMem_extended span (hr suffix haction) hl
    | forward =>
      rw [haction] at h
      cases h
      cases found.group? 1 with
      | none => exact hl
      | some span => exact newline_notMem_forwarded span hs hl

end Rule

namespace Policy

variable {first second rules : List Rule} {server line out corefile : List Char}

/-- All rules together make one line of a line, if any. -/
theorem newline_notMem_rewrite (hr : ∀ rule ∈ rules, rule.KeepsLines) (hs : '\n' ∉ server)
    (hl : '\n' ∉ line) (h : (Policy.mk rules).rewrite server line = some out) : '\n' ∉ out := by
  unfold rewrite at h
  induction rules generalizing line with
  | nil =>
    cases h
    exact hl
  | cons rule rules ih =>
    rw [List.foldlM_cons] at h
    obtain ⟨next, hnext, hrest⟩ := Option.bind_eq_some_iff.mp h
    have hn := Rule.newline_notMem_rewrite (hr rule List.mem_cons_self) hs hl hnext
    exact ih (fun other ho => hr other (List.mem_cons_of_mem _ ho)) hn hrest

/-- The lines of a rewritten Corefile are lines. -/
theorem newline_notMem_applyLines (hr : ∀ rule ∈ rules, rule.KeepsLines) (hs : '\n' ∉ server) :
    ∀ out ∈ (Policy.mk rules).applyLines server corefile, '\n' ∉ out := by
  intro out h
  obtain ⟨line, hline, hout⟩ := List.mem_filterMap.mp h
  have hl : '\n' ∉ line := fun hn => by simpa using not_sep_of_mem_segments hline _ hn
  exact newline_notMem_rewrite hr hs hl hout

/-- A line is taken through the rules of one table and then through those of the other. -/
theorem applyLines_append (first second : List Rule) (server corefile : List Char) :
    (Policy.mk (first ++ second)).applyLines server corefile =
      ((Policy.mk first).applyLines server corefile).filterMap
        ((Policy.mk second).rewrite server) := by
  rw [applyLines, applyLines, List.filterMap_filterMap]
  refine congrArg (List.filterMap · _) (funext fun line => ?_)
  exact List.foldlM_append ..

/-- Applying two tables one after the other is applying the one that has the rules of both. -/
theorem apply_append {corefile server : String} (clean : ∀ rule ∈ first, rule.KeepsLines)
    (single : '\n' ∉ server.toList)
    (kept : (Policy.mk first).applyLines server.toList corefile.toList ≠ []) :
    (Policy.mk (first ++ second)).apply corefile server =
      (Policy.mk second).apply ((Policy.mk first).apply corefile server) server := by
  have lines : segments (· == '\n') ((Policy.mk first).apply corefile server).toList =
      (Policy.mk first).applyLines server.toList corefile.toList := by
    rw [apply, String.toList_ofList]
    exact segments_joinWith kept (newline_notMem_applyLines clean single)
  rw [apply, apply, applyLines_append, ← lines]
  rfl

theorem apply_append_kubernetes :
    let first : List Rule := [⟨"drop-loop", lineOf "loop", .drop⟩,
      ⟨"serve-extra-tld", zone, .extend "net"⟩]
    let second : List Rule := [⟨"serve-test-tld", zone, .extend "test"⟩,
      ⟨"forward-upstream", upstream, .forward⟩]
    let corefile := "    kubernetes cluster.local in-addr.arpa\n    loop\n    forward . 10.0.0.1\n"
    (Policy.mk first).apply corefile "8.8.8.8" =
      "    kubernetes cluster.local net in-addr.arpa\n    forward . 10.0.0.1\n" ∧
    (Policy.mk (first ++ second)).apply corefile "8.8.8.8" =
      (Policy.mk second).apply ((Policy.mk first).apply corefile "8.8.8.8") "8.8.8.8" := by
  intro first second corefile
  have clean : ∀ rule ∈ first, rule.KeepsLines := by
    refine List.forall_mem_cons.mpr ⟨nofun, List.forall_mem_singleton.mpr ?_⟩
    rintro _ ⟨⟩
    decide
  exact ⟨by decide +kernel, apply_append clean (by decide) (by decide +kernel)⟩

/-- A table that leaves no line leaves the empty text, and its line may be rewritten then. -/
example :
    let dropping : Rule := ⟨"drop-loop", lineOf "loop", .drop⟩
    let adding : Rule := ⟨"serve-extra-tld", .group 1 .empty, .extend "net"⟩
    (Policy.mk [dropping, adding]).apply "loop" "8.8.8.8" = "" ∧
      (Policy.mk [adding]).apply ((Policy.mk [dropping]).apply "loop" "8.8.8.8") "8.8.8.8" =
        " net" := by
  decide +kernel

end Policy
end PodNetwork.Corefile
