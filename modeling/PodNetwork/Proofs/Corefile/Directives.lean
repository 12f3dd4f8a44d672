import Mathlib.Data.List.Forall2
import PodNetwork.Corefile.Policy
import PodNetwork.Proofs.Regex.Captures
import PodNetwork.Proofs.Text.Cuts

/-! The directive that a rule keeps, and the text before it.

A rule that extends or forwards takes the first group of its pattern for the directive, and begins
the new line with it. A pattern that is not tied to the start of a line, or that begins with
something else than that group, may find the directive further behind: what stood before it is then
lost. -/
namespace PodNetwork.Corefile

open Regex Text

namespace Rule

variable {rule : Rule} {server line out : List Char} {span : Span}

/-- The part of a line that a rule takes for the directive, if its first group took part in the
match. -/
def directiveSpan? (rule : Rule) (line : List Char) : Option Span :=
  (rule.pattern.search line).bind fun found => found.group? 1

/-- The directive of a line is a part of it. -/
theorem between_of_directiveSpan? (h : rule.directiveSpan? line = some span) :
    span.Between 0 line.length := by
  obtain ⟨found, hfound, hspan⟩ := Option.bind_eq_some_iff.mp h
  exact between_of_search hfound hspan

/-- A line begins with its directive if the pattern does, and is tied to the start of a line. -/
theorem start_eq_zero_of_directiveSpan? (ha : rule.pattern.anchored = true)
    (hl : rule.pattern.leads 1 = true) (h : rule.directiveSpan? line = some span) :
    span.start = 0 := by
  obtain ⟨found, hfound, hspan⟩ := Option.bind_eq_some_iff.mp h
  exact start_eq_zero_of_search ha hl hfound hspan

/-- The patterns of the offline table are of this kind. -/
example : (Policy.zone.anchored && Policy.zone.leads 1 && Policy.upstream.anchored &&
    Policy.upstream.leads 1) = true := by decide

theorem rewrite_eq_some_of_keeps (hk : rule.action ≠ .drop) (server line : List Char) :
    ∃ out, rule.rewrite server line = some out := by
  unfold rewrite
  split
  · exact ⟨line, rfl⟩
  · cases h : rule.action with
    | drop => exact absurd h hk
    | extend suffix => exact ⟨_, rfl⟩
    | forward => exact ⟨_, rfl⟩

theorem eq_of_directiveSpan?_eq_none (hk : rule.action ≠ .drop)
    (h : rule.directiveSpan? line = none) (hout : rule.rewrite server line = some out) :
    out = line := by
  unfold rewrite at hout
  split at hout
  · exact (Option.some.inj hout).symm
  · next found hfound =>
    have uncaptured : found.group? 1 = none := by
      rwa [directiveSpan?, hfound, Option.bind_some] at h
    cases haction : rule.action with
    | drop => exact absurd haction hk
    | extend suffix => simpa [haction, uncaptured, eq_comm] using hout
    | forward => simpa [haction, uncaptured, eq_comm] using hout

theorem eq_extended {suffix : String} (haction : rule.action = .extend suffix)
    (h : rule.directiveSpan? line = some span) (hout : rule.rewrite server line = some out) :
    out = extended suffix.toList line span := by
  obtain ⟨found, hfound, hspan⟩ := Option.bind_eq_some_iff.mp h
  simpa [rewrite, hfound, haction, hspan, eq_comm] using hout

theorem eq_forwarded (haction : rule.action = .forward)
    (h : rule.directiveSpan? line = some span) (hout : rule.rewrite server line = some out) :
    out = forwarded server line span := by
  obtain ⟨found, hfound, hspan⟩ := Option.bind_eq_some_iff.mp h
  simpa [rewrite, hfound, haction, hspan, eq_comm] using hout

/-- The text up to the end of a directive is what stands before the directive, and the
directive. -/
theorem take_append_directive (h : span.start ≤ span.stop) :
    line.take span.start ++ directive line span = line.take span.stop := by
  have first : line.take span.start = (line.take span.stop).take span.start := by
    rw [List.take_take, Nat.min_eq_left h]
  rw [directive, first, List.take_append_drop]

theorem extended_of_mem {suffix : List Char} (h : suffix ∈ words (line.drop span.stop)) :
    extended suffix line span = line := by
  simp [extended, h]

/-- With the text before the directive put back, all that is new is the word behind it. -/
theorem take_append_extended {suffix : List Char} (hspan : span.start ≤ span.stop)
    (h : suffix ∉ words (line.drop span.stop)) :
    line.take span.start ++ extended suffix line span =
      line.take span.stop ++ ' ' :: (suffix ++ line.drop span.stop) := by
  have inserted : extended suffix line span =
      directive line span ++ ' ' :: (suffix ++ line.drop span.stop) := by
    simp [extended, h]
  rw [inserted, ← List.append_assoc, take_append_directive hspan]

theorem take_append_forwarded (hspan : span.start ≤ span.stop) (server : List Char) :
    line.take span.start ++ forwarded server line span =
      line.take span.stop ++
        ' ' :: (server ++ if opensBlock line then [' ', '\x7b'] else []) := by
  rw [forwarded, List.append_assoc, List.cons_append, ← List.append_assoc,
    take_append_directive hspan]

/-- A line that is made with some text put back is that text itself only if there is none to put
back. -/
theorem eq_iff_of_take_append {first : Nat} {made : List Char} (hfirst : first ≤ line.length)
    (h : line.take first ++ out = made) : out = made ↔ first = 0 := by
  constructor
  · intro same
    have longer := congrArg List.length h
    rw [← same, List.length_append, List.length_take] at longer
    omega
  · rintro rfl
    rwa [List.take_zero] at h

/-- What a rule makes of a line around the directive that it found there. -/
structure Keeps (rule : Rule) (server line : List Char) (span : Span) (out : List Char) :
    Prop where
  /-- The directive is a part of the line. -/
  inside : span.Between 0 line.length
  /-- A line that has the word already stays as it is. -/
  present : ∀ suffix, rule.action = .extend suffix →
    suffix.toList ∈ words (line.drop span.stop) → out = line
  /-- Otherwise the word is put right behind the directive, and what is lost is the text before the
  directive and nothing else. -/
  extended : ∀ suffix, rule.action = .extend suffix →
    suffix.toList ∉ words (line.drop span.stop) →
      line.take span.start ++ out =
        line.take span.stop ++ ' ' :: (suffix.toList ++ line.drop span.stop)
  /-- So the line is the one meant exactly if it begins with the directive. -/
  meant : ∀ suffix, rule.action = .extend suffix →
    suffix.toList ∉ words (line.drop span.stop) →
      (out = line.take span.stop ++ ' ' :: (suffix.toList ++ line.drop span.stop) ↔
        span.start = 0)
  /-- A line that forwards loses the same text, and goes on with the server behind the directive. -/
  forwarded : rule.action = .forward →
    line.take span.start ++ out =
      line.take span.stop ++ ' ' :: (server ++ if opensBlock line then [' ', '\x7b'] else [])
  /-- Nothing is lost if the line begins with the directive. -/
  whole : span.start = 0 → line.take span.stop <+: out
  /-- So it is with a pattern that is tied to the start of a line and begins with the group. -/
  first : rule.pattern.anchored = true → rule.pattern.leads 1 = true → span.start = 0

theorem keeps_of_rewrite (hk : rule.action ≠ .drop) (h : rule.directiveSpan? line = some span)
    (hout : rule.rewrite server line = some out) : rule.Keeps server line span out := by
  have inside : span.Between 0 line.length := between_of_directiveSpan? h
  have hspan : span.start ≤ span.stop := inside.2.1
  have present : ∀ suffix, rule.action = .extend suffix →
      suffix.toList ∈ words (line.drop span.stop) → out = line := by
    intro suffix haction hword
    rw [eq_extended haction h hout, extended_of_mem hword]
  have extended : ∀ suffix, rule.action = .extend suffix →
      suffix.toList ∉ words (line.drop span.stop) →
        line.take span.start ++ out =
          line.take span.stop ++ ' ' :: (suffix.toList ++ line.drop span.stop) := by
    intro suffix haction hword
    rw [eq_extended haction h hout, take_append_extended hspan hword]
  have forwarded : rule.action = .forward →
      line.take span.start ++ out =
        line.take span.stop ++
          ' ' :: (server ++ if opensBlock line then [' ', '\x7b'] else []) := by
    intro haction
    rw [eq_forwarded haction h hout, take_append_forwarded hspan]
  refine ⟨inside, present, extended, ?meant, forwarded, ?whole,
    fun ha hl => start_eq_zero_of_directiveSpan? ha hl h⟩
  case meant =>
    intro suffix haction hword
    exact eq_iff_of_take_append (Nat.le_trans hspan inside.2.2) (extended suffix haction hword)
  case whole =>
    intro hstart
    rw [hstart, List.take_zero] at extended forwarded
    cases haction : rule.action with
    | drop => exact absurd haction hk
    | forward =>
      have hout : out = _ := forwarded haction
      exact hout ▸ List.prefix_append _ _
    | extend suffix =>
      by_cases hword : suffix.toList ∈ words (line.drop span.stop)
      · rw [present suffix haction hword]
        exact List.take_prefix _ _
      · have hout : out = _ := extended suffix haction hword
        exact hout ▸ List.prefix_append _ _

end Rule

namespace Policy

/-- A table of one rule that keeps directives keeps all lines, in their order. -/
theorem forall₂_applyLines {rule : Rule} (hk : rule.action ≠ .drop) (server corefile : List Char) :
    List.Forall₂ (fun line out => rule.rewrite server line = some out)
      (segments (· == '\n') corefile) ((Policy.mk [rule]).applyLines server corefile) := by
  unfold applyLines
  induction segments (· == '\n') corefile with
  | nil => exact .nil
  | cons line lines ih =>
    obtain ⟨out, hout⟩ := rule.rewrite_eq_some_of_keeps hk server line
    have one : (Policy.mk [rule]).rewrite server line = some out := by
      rw [rewrite, List.foldlM_cons, hout]
      rfl
    rw [List.filterMap_cons, one]
    exact .cons hout ih

/-- A table of one rule that extends or forwards changes the lines in which the rule finds its
directive, and of these it loses the text before the directive and no other text. -/
theorem apply_directives {rule : Rule} (hk : rule.action ≠ .drop) (corefile server : String) :
    ∃ lines : List (List Char),
      ((Policy.mk [rule]).apply corefile server).toList = joinWith ['\n'] lines ∧
      List.Forall₂ (fun line out =>
          (rule.directiveSpan? line = none → out = line) ∧
          ∀ span, rule.directiveSpan? line = some span →
            rule.Keeps server.toList line span out)
        (segments (· == '\n') corefile.toList) lines := by
  refine ⟨(Policy.mk [rule]).applyLines server.toList corefile.toList, ?_, ?_⟩
  · rw [apply, String.toList_ofList]
  · apply (forall₂_applyLines hk server.toList corefile.toList).imp
    intro line out hout
    exact ⟨fun missing => Rule.eq_of_directiveSpan?_eq_none hk missing hout,
      fun span found => Rule.keeps_of_rewrite hk found hout⟩

/-- A pattern that says nothing about the start of a line finds its directive behind the
indentation, which is then lost. -/
theorem apply_directives_indented :
    let rule : Rule :=
      ⟨"serve-extra-tld", .group 1 (.catOf (letters "kubernetes cluster.local")), .extend "net"⟩
    let line := "    kubernetes cluster.local in-addr.arpa \x7b"
    Rule.ofPattern "serve-extra-tld" "(kubernetes cluster\\.local)" (.extend "net") = .ok rule ∧
    rule.action ≠ .drop ∧
    rule.directiveSpan? line.toList = some ⟨4, 28⟩ ∧
    (Policy.mk [rule]).apply line "8.8.8.8" =
      "kubernetes cluster.local net in-addr.arpa \x7b" ∧
    ¬line.toList.take 28 <+: "kubernetes cluster.local net in-addr.arpa \x7b".toList ∧
    ∃ out, ((Policy.mk [rule]).apply line "8.8.8.8").toList = out ∧
      rule.Keeps "8.8.8.8".toList line.toList ⟨4, 28⟩ out := by
  intro rule line
  have keeps : rule.action ≠ .drop := nofun
  have alone : segments (· == '\n') line.toList = [line.toList] := by decide +kernel
  have found : rule.directiveSpan? line.toList = some ⟨4, 28⟩ := by decide +kernel
  refine ⟨by decide +kernel, keeps, found, by decide +kernel, by decide +kernel, ?_⟩
  obtain ⟨lines, text, kept⟩ := apply_directives keeps line "8.8.8.8"
  rw [alone] at kept
  obtain ⟨out, rest, ⟨-, hout⟩, hrest, rfl⟩ := List.forall₂_cons_left_iff.mp kept
  obtain rfl := List.forall₂_nil_left_iff.mp hrest
  exact ⟨out, text, hout _ found⟩

end Policy
end PodNetwork.Corefile
