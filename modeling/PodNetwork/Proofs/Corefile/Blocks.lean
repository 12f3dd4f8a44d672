import Mathlib.Data.List.Induction
import PodNetwork.Proofs.Corefile.Repatching

/-! The blocks of a patched Corefile.

A server that reads a Corefile cuts the comment off a line before it takes the line apart. The
table cuts nothing off: for it, a line that forwards opens a block if a brace is the last thing on
it. On such a line a patch writes down what the table takes the line for, and on all other lines it
leaves the blocks as they are. -/
namespace PodNetwork

namespace Text

variable {cs line part rest : List Char}

/-- What is left of the rest of a line if its comment is cut off. A comment begins with a number
sign that stands behind a blank. -/
def uncommentedAfter (blank : Bool) : List Char → List Char
  | [] => []
  | c :: rest => if blank && c == '#' then [] else c :: uncommentedAfter (isBlank c) rest

def uncommented (line : List Char) : List Char := uncommentedAfter true line

/-- A rest that begins with a blank is read in the same way wherever it stands. -/
theorem uncommentedAfter_eq_uncommented (hr : Corefile.IsRest rest) (blank : Bool) :
    uncommentedAfter blank rest = uncommented rest := by
  cases rest with
  | nil => rfl
  | cons c rest =>
    have hc : isBlank c = true := by simpa [Corefile.IsRest] using hr
    have ne : c ≠ '#' := by
      rintro rfl
      cases hc
    simp [uncommented, uncommentedAfter, ne]

theorem uncommentedAfter_append (hp : '#' ∉ part) (hr : Corefile.IsRest rest) (blank : Bool) :
    uncommentedAfter blank (part ++ rest) = part ++ uncommented rest := by
  induction part generalizing blank with
  | nil => exact uncommentedAfter_eq_uncommented hr blank
  | cons c part ih =>
    have ne : c ≠ '#' := fun hc => hp (hc ▸ List.mem_cons_self)
    have later : '#' ∉ part := fun h => hp (List.mem_cons_of_mem _ h)
    simp [uncommentedAfter, ne, ih later]

/-- A part without number signs is not cut. -/
theorem uncommented_append (hp : '#' ∉ part) (hr : Corefile.IsRest rest) :
    uncommented (part ++ rest) = part ++ uncommented rest := uncommentedAfter_append hp hr true

theorem isRest_uncommented (hr : Corefile.IsRest rest) : Corefile.IsRest (uncommented rest) := by
  cases rest with
  | nil => exact .inl rfl
  | cons c rest =>
    have hc : isBlank c = true := by simpa [Corefile.IsRest] using hr
    rw [uncommented, uncommentedAfter]
    split
    · exact .inl rfl
    · exact .inr (by simpa using hc)

theorem words_append (hr : Corefile.IsRest rest) :
    words (part ++ rest) = words part ++ words rest := by
  cases rest with
  | nil => simp [show words [] = [] from rfl]
  | cons c rest =>
    have hc : isBlank c = true := by simpa [Corefile.IsRest] using hr
    rw [words_append_cons hc, words_cons hc]

/-- A text that ends with a solid character has a last word, which ends with it. -/
theorem getLast?_words_append_singleton {x : Char} (hx : isBlank x = false) (cs : List Char) :
    ∃ word, (words (cs ++ [x])).getLast? = some (word ++ [x]) := by
  by_cases h : ∃ y ∈ cs, isBlank y = true
  · obtain ⟨y, hy, blank⟩ := h
    obtain ⟨before, after, hcs⟩ := List.append_of_mem hy
    have shorter : after.length < cs.length := by
      rw [hcs, List.length_append, List.length_cons]
      omega
    obtain ⟨word, hword⟩ := getLast?_words_append_singleton hx after
    refine ⟨word, ?_⟩
    rw [hcs, List.append_assoc, List.cons_append, words_append_cons blank, List.getLast?_append,
      hword]
    rfl
  · have solid : ∀ y ∈ cs ++ [x], isBlank y = false := by
      intro y hy
      rcases List.mem_append.mp hy with hy | hy
      · exact Bool.eq_false_iff.mpr fun blank => h ⟨y, hy, blank⟩
      · rwa [List.mem_singleton.mp hy]
    have one : words (cs ++ [x]) = [cs ++ [x]] := words_of_solid (by simp) solid
    exact ⟨cs, by rw [one]; rfl⟩
termination_by cs.length

/-- The last character that is not blank is that of the last word. -/
theorem getLast?_trimEnd_eq_words (cs : List Char) :
    (trimEnd cs).getLast? = (words cs).getLast?.bind List.getLast? := by
  induction cs using List.reverseRecOn with
  | nil => rfl
  | append_singleton cs x ih =>
    rw [getLast?_trimEnd_append]
    cases hx : isBlank x with
    | true =>
      have none_last : (trimEnd [x]).getLast? = none := by simp [getLast?_trimEnd, hx]
      rw [none_last, Option.none_or, ih, words_append_cons hx, show words [] = [] from rfl,
        List.append_nil]
    | false =>
      have last : (trimEnd [x]).getLast? = some x := by simp [getLast?_trimEnd, hx]
      obtain ⟨word, hword⟩ := getLast?_words_append_singleton hx cs
      rw [last, Option.some_or, hword]
      simp

end Text

namespace Corefile

open Text Policy

/-- Whether a server takes a line for one that opens a block: once the comment is cut off, the last
word is an opening brace. -/
def opens (line : List Char) : Bool := (words (uncommented line)).getLast? == some ['\x7b']

section

variable {line lead part rest word : List Char}

/-- Nothing else than a brace or a number sign makes a difference for the rest of a line. -/
theorem opens_append (hp : '#' ∉ part) (hb : '\x7b' ∉ part) (hr : IsRest rest) :
    opens (part ++ rest) = opens rest := by
  have none_before : (words part).getLast? ≠ some ['\x7b'] := by
    intro h
    have hw : ['\x7b'] ∈ words part := List.mem_of_getLast? h
    exact hb (mem_of_mem_words hw List.mem_cons_self)
  rw [opens, opens, uncommented_append hp hr, words_append (isRest_uncommented hr),
    List.getLast?_append]
  cases (words (uncommented rest)).getLast? with
  | some word => rfl
  | none => simpa using none_before

/-- The table and the server agree on a line without a comment, unless its last word is longer than
the brace that it ends with. -/
theorem opensBlock_eq_opens (hc : uncommented line = line)
    (alone : ∀ word, (words line).getLast? = some word → word.getLast? = some '\x7b' →
      word = ['\x7b']) : Rule.opensBlock line = opens line := by
  rw [Rule.opensBlock, getLast?_trimEnd_eq_words, opens, hc]
  cases h : (words line).getLast? with
  | none => rfl
  | some word =>
    rw [Option.bind_some, Bool.eq_iff_iff, beq_iff_eq, beq_iff_eq, Option.some_inj]
    constructor
    · exact alone word h
    · rintro rfl
      rfl

/-- A word that stands in a line without any effect on its blocks: it has no number sign, no brace
and no blank. -/
def IsHarmless (word : List Char) : Prop :=
  ∀ x ∈ word, x ≠ '#' ∧ x ≠ '\x7b' ∧ x ≠ '\x7d' ∧ isBlank x = false

-- Looks at the characters of the word only, not at all there are.
instance (word : List Char) : Decidable (IsHarmless word) := List.decidableBAll _ word

theorem IsHarmless.notMem_comment (h : IsHarmless word) : '#' ∉ word :=
  fun hx => (h _ hx).1 rfl

theorem IsHarmless.notMem_brace (h : IsHarmless word) : '\x7b' ∉ word :=
  fun hx => (h _ hx).2.1 rfl

theorem IsHarmless.notMem_newline (h : IsHarmless word) : '\n' ∉ word := by
  intro hx
  have solid : isBlank '\n' = false := (h _ hx).2.2.2
  cases solid

theorem notMem_of_blanks {x : Char} (hx : isBlank x = false) (hl : ∀ y ∈ lead, isBlank y = true) :
    x ∉ lead := by
  intro h
  rw [hl x h] at hx
  cases hx

theorem opens_directive {directive : List Char} (hl : ∀ x ∈ lead, isBlank x = true)
    (hd : '#' ∉ directive ∧ '\x7b' ∉ directive) (hr : IsRest rest) :
    opens (lead ++ (directive ++ rest)) = opens rest := by
  have comment : '#' ∉ lead := notMem_of_blanks rfl hl
  have brace : '\x7b' ∉ lead := notMem_of_blanks rfl hl
  rw [← List.append_assoc]
  apply opens_append _ _ hr
  · rw [List.mem_append, not_or]
    exact ⟨comment, hd.1⟩
  · rw [List.mem_append, not_or]
    exact ⟨brace, hd.2⟩

theorem opens_extended {directive : List Char} (hl : ∀ x ∈ lead, isBlank x = true)
    (hd : '#' ∉ directive ∧ '\x7b' ∉ directive) (hw : IsHarmless word) (hr : IsRest rest) :
    opens (lead ++ (directive ++ ' ' :: (word ++ rest))) = opens rest := by
  have whole : directive ++ ' ' :: (word ++ rest) = (directive ++ ' ' :: word) ++ rest := by simp
  rw [whole]
  apply opens_directive hl _ hr
  simp only [List.mem_append, List.mem_cons, not_or]
  exact ⟨⟨hd.1, by decide, hw.notMem_comment⟩, hd.2, by decide, hw.notMem_brace⟩

end

def forwards (line : List Char) : Bool :=
  (Offline.restAfter? upstreamText.toList (trimStart line)).isSome

section

variable {tld server line rewritten lead rest : List Char}

theorem forwards_iff :
    forwards line = true ↔ ∃ lead rest, (∀ x ∈ lead, isBlank x = true) ∧ IsRest rest ∧
      line = lead ++ (upstreamText.toList ++ rest) := by
  rw [forwards, Option.isSome_iff_exists]
  constructor
  · rintro ⟨rest, h⟩
    obtain ⟨⟨lead, hl, hline⟩, hr⟩ := (restAfter?_eq_some_iff solid_upstreamText).mp h
    exact ⟨lead, rest, hl, hr, hline⟩
  · rintro ⟨lead, rest, hl, hr, hline⟩
    exact ⟨rest, (restAfter?_eq_some_iff solid_upstreamText).mpr ⟨⟨lead, hl, hline⟩, hr⟩⟩

/-- What a server reads in a line that was kept. -/
theorem opens_rewriteLine (ht : IsHarmless tld) (hs : IsHarmless server)
    (h : Offline.rewriteLine tld server line = some rewritten) :
    opens rewritten = if forwards line then Rule.opensBlock line else opens line := by
  cases hf : forwards line with
  | true =>
    obtain ⟨lead, rest, hl, hr, rfl⟩ := forwards_iff.mp hf
    rw [Offline.rewriteLine_upstream hl hr] at h
    obtain rfl := Option.some.inj h
    have clean : '#' ∉ upstreamText.toList ∧ '\x7b' ∉ upstreamText.toList := by decide
    rw [if_pos rfl]
    cases Rule.opensBlock (lead ++ (upstreamText.toList ++ rest)) with
    | true => exact opens_extended hl clean hs (.inr rfl)
    | false => exact opens_extended hl clean hs (.inl rfl)
  | false =>
    rw [if_neg Bool.false_ne_true]
    rcases Offline.rewriteLine_cases tld line with
      dropped | ⟨lead, rest, hl, hr, rfl⟩ | ⟨lead, rest, hl, hr, hline⟩ | kept
    · rw [dropped] at h
      cases h
    · rw [Offline.rewriteLine_zone hl hr] at h
      obtain rfl := Option.some.inj h
      have clean : '#' ∉ zoneText.toList ∧ '\x7b' ∉ zoneText.toList := by decide
      split
      · rfl
      · rw [opens_extended hl clean ht hr, opens_directive hl clean hr]
    · rw [forwards_iff.mpr ⟨lead, rest, hl, hr, hline⟩] at hf
      cases hf
    · rw [kept] at h
      rw [Option.some.inj h]

end

namespace Policy

/-- The lines that a table keeps, each with what it becomes. -/
def kept (policy : Policy) (server corefile : List Char) : List (List Char × List Char) :=
  (segments (· == '\n') corefile).filterMap fun line =>
    (policy.rewrite server line).map fun rewritten => (line, rewritten)

theorem map_kept (policy : Policy) (server corefile : List Char) :
    (policy.kept server corefile).map Prod.snd = policy.applyLines server corefile := by
  rw [kept, applyLines, List.map_filterMap]
  congr 1
  funext line
  cases policy.rewrite server line <;> rfl

/-- What a patch makes of the blocks of a Corefile. -/
structure Rewrites (topLevelDomain server corefile : String)
    (lines : List (List Char × List Char)) : Prop where
  /-- The patched Corefile consists of the lines that were kept, in their order. -/
  text : ((offline topLevelDomain).apply corefile server).toList =
    joinWith ['\n'] (lines.map Prod.snd)
  segments : lines ≠ [] →
    Text.segments (· == '\n') ((offline topLevelDomain).apply corefile server).toList =
      lines.map Prod.snd
  /-- A server takes a line that forwards for what the table took it for, and any other line for
  what it was before. -/
  reads : ∀ line ∈ lines, opens line.2 =
    if forwards line.1 then Rule.opensBlock line.1 else opens line.1
  /-- A line without a comment opens a block if it did before, unless its last word was longer than
  the brace that it ended with. -/
  stays : ∀ line ∈ lines, uncommented line.1 = line.1 →
    (∀ word, (words line.1).getLast? = some word → word.getLast? = some '\x7b' → word = ['\x7b']) →
      opens line.2 = opens line.1

/-- A patch changes the blocks of a Corefile only where the table misjudges a line that forwards. -/
theorem rewrites_kept {topLevelDomain server : String} (ht : IsHarmless topLevelDomain.toList)
    (hs : IsHarmless server.toList) (corefile : String) :
    Rewrites topLevelDomain server corefile
      ((offline topLevelDomain).kept server.toList corefile.toList) := by
  let lines := (offline topLevelDomain).kept server.toList corefile.toList
  have text : ((offline topLevelDomain).apply corefile server).toList =
      joinWith ['\n'] (lines.map Prod.snd) := by
    rw [map_kept, apply, String.toList_ofList]
  have reads : ∀ line ∈ lines, opens line.2 =
      if forwards line.1 then Rule.opensBlock line.1 else opens line.1 := by
    intro line hline
    obtain ⟨before, hbefore, hrewrite⟩ := List.mem_filterMap.mp hline
    obtain ⟨after, hafter, rfl⟩ := Option.map_eq_some_iff.mp hrewrite
    have single : '\n' ∉ before := fun hn => by simpa using not_sep_of_mem_segments hbefore _ hn
    rw [offline_rewrite single] at hafter
    exact opens_rewriteLine ht hs hafter
  refine ⟨text, fun some_kept => ?_, reads, fun line hline uncut alone => ?_⟩
  · have clean : ∀ line ∈ lines.map Prod.snd, '\n' ∉ line := by
      rw [map_kept, applyLines_offline]
      exact Offline.newline_notMem_rewriteLines ht.notMem_newline hs.notMem_newline
    have nonempty : lines.map Prod.snd ≠ [] := by simpa using some_kept
    rw [text, segments_joinWith nonempty clean]
  · rw [reads line hline, opensBlock_eq_opens uncut alone, ite_self]

/-- A comment behind a brace hides the brace from the table, which then leaves it out. -/
theorem rewrites_kept_commented :
    let corefile := ".:53 \x7b\n    forward . /etc/resolv.conf \x7b # upstream servers\n" ++
      "        max_concurrent 1000\n    \x7d\n\x7d"
    let lines := (offline "net").kept "8.8.8.8".toList corefile.toList
    (IsHarmless "net".toList ∧ IsHarmless "8.8.8.8".toList) ∧
    lines.map (fun line => (forwards line.1, opens line.1, opens line.2)) =
      [(false, true, true), (true, true, false), (false, false, false), (false, false, false),
        (false, false, false)] ∧
    Rewrites "net" "8.8.8.8" corefile lines := by
  have net : IsHarmless "net".toList := by decide
  have server : IsHarmless "8.8.8.8".toList := by decide
  exact ⟨⟨net, server⟩, by decide +kernel, rewrites_kept net server _⟩

end Policy
end Corefile
end PodNetwork
