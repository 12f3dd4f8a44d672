import PodNetwork.Proofs.Corefile.OfflineRules

/-! Patching a Corefile again.

A line that the offline table has rewritten is one that it rewrites in the same way again, but for
the name server, of which only the last one stays. -/
namespace PodNetwork

namespace Text

/-- The last character of a trimmed text is the last one that is not blank. -/
theorem getLast?_trimEnd (cs : List Char) :
    (trimEnd cs).getLast? = cs.reverse.find? (!isBlank ·) := by
  rw [trimEnd, dropLast, List.getLast?_reverse]
  induction cs.reverse with
  | nil => rfl
  | cons x rest ih =>
    cases hx : isBlank x <;> simp [hx, ih]

theorem getLast?_trimEnd_append (cs later : List Char) :
    (trimEnd (cs ++ later)).getLast? = (trimEnd later).getLast?.or (trimEnd cs).getLast? := by
  simp only [getLast?_trimEnd, List.reverse_append, List.find?_append]

end Text

namespace Corefile

open Text Policy

namespace Offline

def droppedWords : List (List Char) :=
  ["upstream".toList, "loop".toList, "fallthrough".toList]

theorem prefix_of_isDropped {line : List Char} (h : isDropped line = true) :
    ∃ word ∈ droppedWords, word.isPrefixOf (trimStart line) = true := by
  have whole {word : List Char} (hs : startsSolid word = true) (he : endsSolid word = true)
      (h : (trim line == word) = true) : word.isPrefixOf (trimStart line) = true := by
    obtain ⟨lead, trail, hl, _, hline⟩ := (trim_eq_iff hs he).mp (eq_of_beq h)
    exact (isPrefixOf_trimStart_iff hs).mpr ⟨lead, trail, hl, hline⟩
  rw [isDropped, Bool.or_eq_true, Bool.or_eq_true] at h
  rcases h with (h | h) | h
  · exact ⟨_, List.mem_cons_self, whole (by decide) (by decide) h⟩
  · exact ⟨_, List.mem_cons_of_mem _ List.mem_cons_self, whole (by decide) (by decide) h⟩
  · exact ⟨_, List.mem_cons_of_mem _ (List.mem_cons_of_mem _ List.mem_cons_self), h⟩

theorem isDropped_append {lead directive rest : List Char} (hl : ∀ x ∈ lead, isBlank x = true)
    (hd : startsSolid directive = true)
    (hw : droppedWords.any (·.isPrefixOf (directive ++ rest)) = false) :
    isDropped (lead ++ (directive ++ rest)) = false := by
  rw [← Bool.not_eq_true]
  intro h
  obtain ⟨word, hword, hp⟩ := prefix_of_isDropped h
  rw [trimStart_append_solid hl (startsSolid_append hd rest)] at hp
  exact Bool.false_ne_true (hw ▸ List.any_eq_true.mpr ⟨word, hword, hp⟩)

section

variable {tld server lead rest : List Char}

theorem restAfter?_append {directive : List Char} (hl : ∀ x ∈ lead, isBlank x = true)
    (hd : startsSolid directive = true) (hr : IsRest rest) :
    restAfter? directive (trimStart (lead ++ (directive ++ rest))) = some rest :=
  (restAfter?_eq_some_iff hd).mpr ⟨⟨lead, hl, rfl⟩, hr⟩

/-- A line of the cluster zone is extended unless it has the domain. -/
theorem rewriteLine_zone (hl : ∀ x ∈ lead, isBlank x = true) (hr : IsRest rest) :
    rewriteLine tld server (lead ++ (zoneText.toList ++ rest)) =
      some (if tld ∈ words rest then lead ++ (zoneText.toList ++ rest)
        else lead ++ (zoneText.toList ++ (' ' :: (tld ++ rest)))) := by
  have kept : isDropped (lead ++ (zoneText.toList ++ rest)) = false :=
    isDropped_append hl solid_zoneText rfl
  have behind : restAfter? "kubernetes cluster.local".toList
      (trimStart (lead ++ (zoneText.toList ++ rest))) = some rest :=
    restAfter?_append hl solid_zoneText hr
  rw [rewriteLine, kept, if_neg Bool.false_ne_true]
  dsimp only
  rw [behind, indentation_append hl solid_zoneText]
  dsimp only
  split
  · rfl
  · simp only [List.append_assoc, List.cons_append]
    rfl

/-- A line that forwards is given the server, and keeps its brace. -/
theorem rewriteLine_upstream (hl : ∀ x ∈ lead, isBlank x = true) (hr : IsRest rest) :
    rewriteLine tld server (lead ++ (upstreamText.toList ++ rest)) =
      some (lead ++ (upstreamText.toList ++ (' ' :: (server ++
        if Rule.opensBlock (lead ++ (upstreamText.toList ++ rest)) then [' ', '\x7b']
        else [])))) := by
  have kept : isDropped (lead ++ (upstreamText.toList ++ rest)) = false :=
    isDropped_append hl solid_upstreamText rfl
  have noZone : restAfter? "kubernetes cluster.local".toList
      (trimStart (lead ++ (upstreamText.toList ++ rest))) = none := by
    rw [trimStart_append_solid hl (startsSolid_append solid_upstreamText rest)]
    rfl
  have behind : restAfter? "forward .".toList
      (trimStart (lead ++ (upstreamText.toList ++ rest))) = some rest :=
    restAfter?_append hl solid_upstreamText hr
  rw [rewriteLine, kept, if_neg Bool.false_ne_true]
  dsimp only
  rw [noZone, behind, indentation_append hl solid_upstreamText]
  simp only [List.append_assoc, List.cons_append]
  rfl

/-- Every line is dropped, is one of the two directives, or stays as it is for every server. -/
theorem rewriteLine_cases (tld line : List Char) :
    (∀ server, rewriteLine tld server line = none) ∨
      (∃ lead rest, (∀ x ∈ lead, isBlank x = true) ∧ IsRest rest ∧
        line = lead ++ (zoneText.toList ++ rest)) ∨
      (∃ lead rest, (∀ x ∈ lead, isBlank x = true) ∧ IsRest rest ∧
        line = lead ++ (upstreamText.toList ++ rest)) ∨
      ∀ server, rewriteLine tld server line = some line := by
  cases hd : isDropped line with
  | true => exact .inl fun server => by rw [rewriteLine, hd, if_pos rfl]
  | false =>
    cases hz : restAfter? zoneText.toList (trimStart line) with
    | some rest =>
      obtain ⟨⟨lead, hl, hline⟩, hr⟩ := (restAfter?_eq_some_iff solid_zoneText).mp hz
      exact .inr (.inl ⟨lead, rest, hl, hr, hline⟩)
    | none =>
      cases hu : restAfter? upstreamText.toList (trimStart line) with
      | some rest =>
        obtain ⟨⟨lead, hl, hline⟩, hr⟩ := (restAfter?_eq_some_iff solid_upstreamText).mp hu
        exact .inr (.inr (.inl ⟨lead, rest, hl, hr, hline⟩))
      | none =>
        refine .inr (.inr (.inr fun server => ?_))
        rw [rewriteLine, hd, if_neg Bool.false_ne_true]
        dsimp only
        rw [show restAfter? "kubernetes cluster.local".toList (trimStart line) = none from hz,
          show restAfter? "forward .".toList (trimStart line) = none from hu]

/-- Whether a line that forwards opens a block does not change when it is rewritten. -/
theorem opensBlock_forwarded {line : List Char} (hs : (trimEnd server).getLast? ≠ some '\x7b') :
    Rule.opensBlock (lead ++ (upstreamText.toList ++ (' ' :: (server ++
      if Rule.opensBlock line then [' ', '\x7b'] else [])))) = Rule.opensBlock line := by
  cases ho : Rule.opensBlock line with
  | true =>
    rw [if_pos rfl, Rule.opensBlock, beq_iff_eq, ← List.cons_append, ← List.append_assoc,
      ← List.append_assoc, getLast?_trimEnd_append]
    rfl
  | false =>
    rw [if_neg nofun, List.append_nil, Rule.opensBlock, beq_eq_false_iff_ne, ← List.append_assoc,
      ← List.singleton_append, ← List.append_assoc, getLast?_trimEnd_append]
    cases h : (trimEnd server).getLast? with
    | some x => rwa [Option.some_or, ← h]
    | none =>
      -- The server is blank, so that the directive is the last thing on the line.
      have stop : (trimEnd (upstreamText.toList ++ [' '])).getLast? = some '.' := by decide
      rw [Option.none_or, List.append_assoc, getLast?_trimEnd_append, stop, Option.some_or]
      decide

/-- Rewriting a line for one server and then for another is rewriting it for the other. -/
theorem rewriteLine_rewriteLine {line first second : List Char} (hne : tld ≠ [])
    (hsolid : ∀ x ∈ tld, isBlank x = false) (hfirst : (trimEnd first).getLast? ≠ some '\x7b') :
    (rewriteLine tld first line).bind (rewriteLine tld second) = rewriteLine tld second line := by
  rcases rewriteLine_cases tld line with
    h | ⟨lead, rest, hl, hr, rfl⟩ | ⟨lead, rest, hl, hr, rfl⟩ | h
  · rw [h, h]
    rfl
  · rw [rewriteLine_zone hl hr, rewriteLine_zone hl hr, Option.bind_some]
    by_cases hmem : tld ∈ words rest
    · rw [if_pos hmem, rewriteLine_zone hl hr, if_pos hmem]
    · have extended : IsRest (' ' :: (tld ++ rest)) := .inr rfl
      have has : tld ∈ words (' ' :: (tld ++ rest)) := mem_words_cons_append rfl hne hsolid hr
      rw [if_neg hmem, rewriteLine_zone hl extended, if_pos has]
  · have forwards (later : List Char) : IsRest (' ' :: later) := .inr rfl
    rw [rewriteLine_upstream hl hr, rewriteLine_upstream hl hr, Option.bind_some,
      rewriteLine_upstream hl (forwards _), opensBlock_forwarded hfirst]
  · rw [h, h, Option.bind_some, h]

theorem newline_notMem_rewriteLine {line rewritten : List Char} (ht : '\n' ∉ tld)
    (hs : '\n' ∉ server) (hn : '\n' ∉ line) (h : rewriteLine tld server line = some rewritten) :
    '\n' ∉ rewritten := by
  rcases rewriteLine_cases tld line with
    hd | ⟨lead, rest, hl, hr, rfl⟩ | ⟨lead, rest, hl, hr, rfl⟩ | hk
  · rw [hd] at h
    cases h
  · rw [rewriteLine_zone hl hr] at h
    obtain rfl := Option.some.inj h
    split
    · exact hn
    · simp only [List.mem_append, List.mem_cons, not_or] at hn ⊢
      exact ⟨hn.1, hn.2.1, by decide, ht, hn.2.2⟩
  · rw [rewriteLine_upstream hl hr] at h
    obtain rfl := Option.some.inj h
    simp only [List.mem_append, List.mem_cons, not_or] at hn ⊢
    exact ⟨hn.1, hn.2.1, by decide, hs, by split <;> decide⟩
  · rw [hk] at h
    obtain rfl := Option.some.inj h
    exact hn

end

end Offline

namespace Offline

variable {tld first second corefile : List Char}

theorem newline_notMem_rewriteLines (ht : '\n' ∉ tld) (hs : '\n' ∉ first) :
    ∀ line ∈ rewriteLines tld first corefile, '\n' ∉ line := by
  intro rewritten h
  obtain ⟨line, hline, hr⟩ := List.mem_filterMap.mp h
  exact newline_notMem_rewriteLine ht hs
    (fun hn => by simpa using not_sep_of_mem_segments hline _ hn) hr

theorem filterMap_rewriteLines (hne : tld ≠ []) (hsolid : ∀ x ∈ tld, isBlank x = false)
    (hbrace : (trimEnd first).getLast? ≠ some '\x7b') :
    (rewriteLines tld first corefile).filterMap (rewriteLine tld second) =
      rewriteLines tld second corefile := by
  rw [rewriteLines, List.filterMap_filterMap, rewriteLines]
  exact congrArg (List.filterMap · _) (funext fun line => rewriteLine_rewriteLine hne hsolid hbrace)

/-- The lines of a patched Corefile are the rewritten lines. If no line was kept, the text is empty,
and its one line, which is empty, makes no difference. -/
theorem joinWith_rewriteLines (hne : tld ≠ []) (hsolid : ∀ x ∈ tld, isBlank x = false)
    (hline : '\n' ∉ first) (hbrace : (trimEnd first).getLast? ≠ some '\x7b') :
    joinWith ['\n'] (rewriteLines tld second (joinWith ['\n'] (rewriteLines tld first corefile))) =
      joinWith ['\n'] (rewriteLines tld second corefile) := by
  have htld : '\n' ∉ tld := fun h => absurd (hsolid _ h) (by decide)
  have again := @filterMap_rewriteLines tld first second corefile hne hsolid hbrace
  by_cases hnil : rewriteLines tld first corefile = []
  · rw [hnil] at again ⊢
    rw [← again]
    rfl
  · rw [rewriteLines, segments_joinWith hnil (newline_notMem_rewriteLines htld hline), again]

end Offline

namespace Policy

/-- Patching a patched Corefile is patching the Corefile: nothing is left of the first server. -/
theorem apply_apply {topLevelDomain corefile first second : String} (hne : topLevelDomain ≠ "")
    (hsolid : ∀ x ∈ topLevelDomain.toList, Text.isBlank x = false) (hline : '\n' ∉ first.toList)
    (hbrace : (Text.trimEnd first.toList).getLast? ≠ some '\x7b') :
    (offline topLevelDomain).apply ((offline topLevelDomain).apply corefile first) second =
      (offline topLevelDomain).apply corefile second := by
  have hne : topLevelDomain.toList ≠ [] := by simpa using hne
  simp only [apply, applyLines_offline, String.toList_ofList]
  rw [Offline.joinWith_rewriteLines hne hsolid hline hbrace]

theorem apply_apply_kubernetes :
    let corefile := ".:53 \x7b\n    kubernetes cluster.local in-addr.arpa \x7b\n" ++
      "        fallthrough in-addr.arpa\n    \x7d\n    forward . /etc/resolv.conf \x7b\n" ++
      "        max_concurrent 1000\n    \x7d\n    loop\n\x7d\n"
    (offline "net").apply ((offline "net").apply corefile "8.8.8.8") "1.1.1.1" =
      (offline "net").apply corefile "1.1.1.1" := by
  have solid : ∀ x ∈ "net".toList, Text.isBlank x = false := by
    simp only [← Bool.not_eq_true', ← List.all_eq_true]
    decide
  exact apply_apply (by decide) solid (by decide) (by decide)

end Policy
end Corefile
end PodNetwork
