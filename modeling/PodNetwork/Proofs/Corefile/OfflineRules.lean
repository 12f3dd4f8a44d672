import PodNetwork.Corefile.Policy
import PodNetwork.Corefile.Offline
import PodNetwork.Proofs.Regex.Outcomes
import PodNetwork.Proofs.Text.Cuts

/-! The offline table and its plain reading agree on every line.

Each pattern begins at the start of a line with blanks and a fixed directive, so that a match fixes
where the directive ends; what follows decides only whether there is a match. -/
namespace PodNetwork.Corefile

open Regex Regex.Cursor Text

/-- Blanks and then a directive, at the start of a line. -/
def LedBy (directive line rest : List Char) : Prop :=
  ∃ lead, (∀ x ∈ lead, isBlank x = true) ∧ line = lead ++ (directive ++ rest)

theorem isSome_search_textStart {r : Regex} {cs : List Char} :
    ((Regex.cat (.anchor .textStart) r).search cs).isSome = true ↔
      ∃ d, d ∈ outcomes r (.ofText cs) := by
  rw [search_textStart, List.isSome_head?]
  exact ⟨List.exists_mem_of_ne_nil _, fun ⟨_, hd⟩ => List.ne_nil_of_mem hd⟩

/-- What stands behind a directive: nothing, or a blank and anything. -/
def IsRest (rest : List Char) : Prop := rest = [] ∨ rest.head?.any isBlank = true

theorem indentation_append {lead directive rest : List Char} (hl : ∀ x ∈ lead, isBlank x = true)
    (hd : startsSolid directive = true) :
    Offline.indentation (lead ++ (directive ++ rest)) = lead := by
  have solid := startsSolid_append hd rest
  cases hs : directive ++ rest with
  | nil => simp [hs, startsSolid] at solid
  | cons x tail =>
    have hx : isBlank x = false := by simpa [hs, startsSolid] using solid
    rw [Offline.indentation, List.takeWhile_append_of_pos hl,
      List.takeWhile_cons_of_neg (by simp [hx]), List.append_nil]

theorem restAfter?_append_iff {directive tail rest : List Char} :
    Offline.restAfter? directive (directive ++ tail) = some rest ↔ rest = tail ∧ IsRest tail := by
  have hp : directive.isPrefixOf (directive ++ tail) = true :=
    List.isPrefixOf_iff_prefix.mpr (List.prefix_append _ _)
  have ht : (directive ++ tail).drop directive.length = tail := List.drop_left
  rw [Offline.restAfter?, if_pos hp, ht]
  dsimp only
  split
  · next h =>
    have hr : IsRest tail := by simpa [IsRest] using h
    exact ⟨fun he => ⟨(Option.some.inj he).symm, hr⟩, fun ⟨he, _⟩ => by rw [he]⟩
  · next h => exact ⟨nofun, fun ⟨_, hr⟩ => absurd (by simpa [IsRest] using hr) h⟩

theorem restAfter?_eq_some_iff {directive line rest : List Char}
    (hd : startsSolid directive = true) :
    Offline.restAfter? directive (trimStart line) = some rest ↔
      LedBy directive line rest ∧ IsRest rest := by
  constructor
  · intro h
    have hp : directive.isPrefixOf (trimStart line) = true := by
      unfold Offline.restAfter? at h
      split at h
      · assumption
      · cases h
    obtain ⟨lead, tail, hl, rfl⟩ := (isPrefixOf_trimStart_iff hd).mp hp
    rw [trimStart_append_solid hl (startsSolid_append hd tail)] at h
    obtain ⟨rfl, hr⟩ := restAfter?_append_iff.mp h
    exact ⟨⟨lead, hl, rfl⟩, hr⟩
  · rintro ⟨⟨lead, hl, rfl⟩, hr⟩
    rw [trimStart_append_solid hl (startsSolid_append hd rest)]
    exact restAfter?_append_iff.mpr ⟨rfl, hr⟩

namespace Rule

variable {lead word rest : List Char}

theorem directive_append : Rule.directive (lead ++ (word ++ rest)) ⟨0, (lead ++ word).length⟩ =
    lead ++ word := by
  rw [Rule.directive, ← List.append_assoc, List.take_left, List.drop_zero]

theorem extended_append {suffix : List Char} :
    extended suffix (lead ++ (word ++ rest)) ⟨0, (lead ++ word).length⟩ =
      if suffix ∈ words rest then lead ++ (word ++ rest)
      else lead ++ word ++ ' ' :: suffix ++ rest := by
  have hdrop : (lead ++ (word ++ rest)).drop (lead ++ word).length = rest := by
    rw [← List.append_assoc, List.drop_left]
  rw [extended, hdrop, directive_append]
  simp only [List.any_eq_true, decide_eq_true_eq, exists_eq_right]

theorem forwarded_append {server : List Char} :
    forwarded server (lead ++ (word ++ rest)) ⟨0, (lead ++ word).length⟩ =
      lead ++ word ++ ' ' :: server ++
        if opensBlock (lead ++ (word ++ rest)) then [' ', '\x7b'] else [] := by
  rw [forwarded, directive_append]

end Rule

namespace Policy

theorem mem_outcomes_blanks {c d : Cursor} : d ∈ outcomes blanks c ↔ c.Takes .blank d :=
  mem_outcomes_star_set

theorem mem_outcomes_anything {c d : Cursor} :
    d ∈ outcomes anything c ↔ c.Takes (.negated .newline) d := mem_outcomes_star_set

theorem notMem_newline {cs : List Char} :
    (∀ x ∈ cs, (CharSet.negated .newline).mem x = true) ↔ '\n' ∉ cs := by
  simp only [CharSet.mem_negated, CharSet.newline, Bool.not_eq_true', ← Bool.not_eq_true,
    CharSet.mem_single]
  exact ⟨fun h hn => h _ hn rfl, fun h x hx he => h (he ▸ hx)⟩

/-- The places behind blanks and a word at the start of a line. -/
theorem mem_outcomes_blanks_letters {word : String} {line : List Char} {d : Cursor} :
    d ∈ outcomes (catOf (blanks :: letters word)) (.ofText line) ↔
      ∃ lead, (∀ x ∈ lead, isBlank x = true) ∧ line = lead ++ (word.toList ++ d.after) ∧
        d.before = (lead ++ word.toList).reverse ∧ d.groups = [] := by
  rw [mem_outcomes_catOf_cons]
  simp only [mem_outcomes_blanks, mem_outcomes_letters]
  constructor
  · intro ⟨m, ⟨lead, hl, ha, hb, hg⟩, ha', hb', hg'⟩
    refine ⟨lead, hl, by rw [← ha']; exact ha, ?_, hg'.trans hg⟩
    rw [hb', hb, List.reverse_append]
    exact congrArg _ (List.append_nil _)
  · rintro ⟨lead, hl, rfl, hb, hg⟩
    refine ⟨⟨lead.reverse, word.toList ++ d.after, []⟩, ⟨lead, hl, rfl, ?_, rfl⟩, rfl, ?_, hg⟩
    · exact (List.append_nil _).symm
    · rw [hb, List.reverse_append]

/-- A pattern of a whole line is found exactly in the lines that are its word but for blanks. -/
theorem isSome_search_lineOf {word : String} {line : List Char} :
    ((lineOf word).search line).isSome = true ↔
      ∃ trail, (∀ x ∈ trail, isBlank x = true) ∧ LedBy word.toList line trail := by
  have shape : lineOf word = .cat (.anchor .textStart)
      (catOf ((blanks :: letters word) ++ [blanks, .anchor .textEnd])) := rfl
  rw [shape, isSome_search_textStart]
  simp only [mem_outcomes_catOf_append, mem_outcomes_blanks_letters, mem_outcomes_before_textEnd,
    mem_outcomes_blanks]
  constructor
  · rintro ⟨d, m, ⟨lead, hl, rfl, _⟩, ⟨trail, ht, ha, _⟩, hd⟩
    rw [hd, List.append_nil] at ha
    exact ⟨trail, ht, lead, hl, by rw [ha]⟩
  · rintro ⟨trail, ht, lead, hl, rfl⟩
    exact ⟨⟨trail.reverse ++ (lead ++ word.toList).reverse, [], []⟩,
      ⟨(lead ++ word.toList).reverse, trail, []⟩, ⟨lead, hl, rfl, rfl, rfl⟩,
      ⟨trail, ht, (List.append_nil _).symm, rfl, rfl⟩, rfl⟩

/-- A pattern of the start of a line is found in the lines that begin with its word but for blanks
and go on without a newline. -/
theorem isSome_search_lineFrom {word : String} {line : List Char} :
    ((lineFrom word).search line).isSome = true ↔
      ∃ rest, '\n' ∉ rest ∧ LedBy word.toList line rest := by
  have shape : lineFrom word = .cat (.anchor .textStart)
      (catOf ((blanks :: letters word) ++ [anything, .anchor .textEnd])) := rfl
  rw [shape, isSome_search_textStart]
  simp only [mem_outcomes_catOf_append, mem_outcomes_blanks_letters, mem_outcomes_before_textEnd,
    mem_outcomes_anything]
  constructor
  · rintro ⟨d, m, ⟨lead, hl, rfl, _⟩, ⟨rest, hr, ha, _⟩, hd⟩
    rw [hd, List.append_nil] at ha
    exact ⟨rest, notMem_newline.mp hr, lead, hl, by rw [ha]⟩
  · rintro ⟨rest, hr, lead, hl, rfl⟩
    exact ⟨⟨rest.reverse ++ (lead ++ word.toList).reverse, [], []⟩,
      ⟨(lead ++ word.toList).reverse, rest, []⟩, ⟨lead, hl, rfl, rfl, rfl⟩,
      ⟨rest, notMem_newline.mpr hr, (List.append_nil _).symm, rfl, rfl⟩, rfl⟩

/-- The places behind a directive at the start of a line: it is captured with the blanks before
it. -/
theorem mem_outcomes_directive {words : String} {line : List Char} {d : Cursor} :
    d ∈ outcomes (directive words) (.ofText line) ↔
      ∃ lead, (∀ x ∈ lead, isBlank x = true) ∧ line = lead ++ (words.toList ++ d.after) ∧
        d.before = (lead ++ words.toList).reverse ∧
        d.groups = [(1, ⟨0, (lead ++ words.toList).length⟩)] := by
  rw [directive, mem_outcomes_group]
  simp only [mem_outcomes_blanks_letters]
  constructor
  · rintro ⟨m, ⟨lead, hl, rfl, hb, hg⟩, rfl⟩
    refine ⟨lead, hl, rfl, hb, ?_⟩
    simp only [Cursor.capture, Cursor.offset, Cursor.ofText, hb, hg, List.length_reverse]
    rfl
  · rintro ⟨lead, hl, rfl, hb, hg⟩
    refine ⟨⟨d.before, d.after, []⟩, ⟨lead, hl, rfl, hb, rfl⟩, ?_⟩
    obtain ⟨before, after, groups⟩ := d
    simp only at hb hg
    simp [Cursor.capture, Cursor.offset, Cursor.ofText, hb, hg, Nat.add_comm]

/-- What follows a directive in a pattern: it captures nothing, and is found before the texts that
it accepts, none of which continues the directive itself. -/
structure Continues (tail : List Regex) (accepts : List Char → Prop) : Prop where
  keeps : ∀ c, ∀ d ∈ outcomes (catOf tail) c, d.groups = c.groups
  accepts_iff : ∀ c, (∃ d, d ∈ outcomes (catOf tail) c) ↔ accepts c.after
  isRest : ∀ rest, accepts rest → IsRest rest

section Directive

variable {words : String} {tail : List Regex} {accepts : List Char → Prop} {line : List Char}

theorem Continues.isSome_search (h : Continues tail accepts) :
    ((Regex.cat (.anchor .textStart) (catOf (directive words :: tail))).search line).isSome = true ↔
      ∃ rest, LedBy words.toList line rest ∧ accepts rest := by
  rw [isSome_search_textStart]
  simp only [mem_outcomes_catOf_cons, mem_outcomes_directive]
  constructor
  · rintro ⟨d, m, ⟨lead, hl, rfl, _⟩, hd⟩
    exact ⟨m.after, ⟨lead, hl, rfl⟩, (h.accepts_iff m).mp ⟨d, hd⟩⟩
  · rintro ⟨rest, ⟨lead, hl, rfl⟩, hr⟩
    obtain ⟨d, hd⟩ := (h.accepts_iff ⟨(lead ++ words.toList).reverse, rest, _⟩).mpr hr
    exact ⟨d, _, ⟨lead, hl, rfl, rfl, rfl⟩, hd⟩

/-- The first group is the directive with its indentation. -/
theorem Continues.group?_eq (h : Continues tail accepts) (hw : startsSolid words.toList = true)
    {d : Cursor}
    (hd : (Regex.cat (.anchor .textStart) (catOf (directive words :: tail))).search line =
      some d) :
    d.group? 1 = some ⟨0, (Offline.indentation line ++ words.toList).length⟩ := by
  rw [search_textStart] at hd
  obtain ⟨m, hm, hmd⟩ := mem_outcomes_catOf_cons.mp (List.mem_of_head? hd)
  obtain ⟨lead, hl, rfl, _, hg⟩ := mem_outcomes_directive.mp hm
  rw [indentation_append hl hw, Cursor.group?, h.keeps m d hmd, hg]
  rfl

/-- A pattern and the plain reading agree about the directive of a line: neither finds it, or both
do, and the pattern captures it with its indentation. -/
inductive Agrees (pattern : Regex) (words : String) (line : List Char) : Prop where
  | missing (unread : Offline.restAfter? words.toList (trimStart line) = none)
    (unmatched : pattern.search line = none)
  | found {rest : List Char} {d : Cursor} (led : LedBy words.toList line rest)
    (read : Offline.restAfter? words.toList (trimStart line) = some rest)
    (matched : pattern.search line = some d)
    (captured : d.group? 1 = some ⟨0, (Offline.indentation line ++ words.toList).length⟩)

theorem Continues.agrees (h : Continues tail accepts) (hw : startsSolid words.toList = true)
    (accepted : ∀ rest, LedBy words.toList line rest → IsRest rest → accepts rest) :
    Agrees (Regex.cat (.anchor .textStart) (catOf (directive words :: tail))) words line := by
  cases read : Offline.restAfter? words.toList (trimStart line) with
  | none =>
    refine .missing read ?_
    rw [← Option.not_isSome_iff_eq_none, h.isSome_search]
    intro ⟨rest, hled, hr⟩
    rw [(restAfter?_eq_some_iff hw).mpr ⟨hled, h.isRest rest hr⟩] at read
    cases read
  | some rest =>
    obtain ⟨hled, hr⟩ := (restAfter?_eq_some_iff hw).mp read
    have matched := h.isSome_search.mpr ⟨rest, hled, accepted rest hled hr⟩
    obtain ⟨d, hd⟩ := Option.isSome_iff_exists.mp matched
    exact .found hled read hd (h.group?_eq hw hd)

end Directive

def zoneText : String := "kubernetes cluster.local"

def upstreamText : String := "forward ."

theorem solid_zoneText : startsSolid zoneText.toList = true := by decide

theorem solid_upstreamText : startsSolid upstreamText.toList = true := by decide

theorem continues_zone : Continues [.alt (.set .blank) (.anchor .textEnd)] IsRest := by
  refine ⟨?_, ?_, fun _ hr => hr⟩
  · intro c d hd
    rcases mem_outcomes_alt.mp hd with hd | hd
    · obtain ⟨x, _, _, _, hg⟩ := mem_outcomes_set.mp hd
      exact hg
    · rw [(mem_outcomes_textEnd.mp hd).2]
  · intro c
    simp only [catOf, mem_outcomes_alt, mem_outcomes_set, mem_outcomes_textEnd, IsRest]
    constructor
    · rintro ⟨d, ⟨x, hx, ha, _⟩ | ⟨he, _⟩⟩
      · exact .inr (by rw [ha]; exact hx)
      · exact .inl he
    · rintro (he | hb)
      · exact ⟨c, .inr ⟨he, rfl⟩⟩
      · cases ha : c.after with
        | nil => simp [ha] at hb
        | cons x rest =>
          rw [ha] at hb
          exact ⟨⟨x :: c.before, rest, c.groups⟩, .inl ⟨x, hb, ha, rfl, rfl⟩⟩

theorem agrees_zone (line : List Char) : Agrees zone zoneText line :=
  continues_zone.agrees solid_zoneText fun _ _ hr => hr

/-- The rule that serves the extra domain, said without its pattern. -/
theorem rewrite_zone {topLevelDomain : String} {server line : List Char} :
    Rule.rewrite ⟨"serve-extra-tld", zone, .extend topLevelDomain⟩ server line =
      some (match Offline.restAfter? zoneText.toList (trimStart line) with
        | some rest =>
          if topLevelDomain.toList ∈ Text.words rest then line
          else Offline.indentation line ++ zoneText.toList ++ ' ' :: topLevelDomain.toList ++ rest
        | none => line) := by
  unfold Rule.rewrite
  cases agrees_zone line with
  | missing unread unmatched => simp only [unread, unmatched]
  | found led read matched captured =>
    obtain ⟨lead, hl, rfl⟩ := led
    rw [indentation_append hl solid_zoneText] at captured ⊢
    simp only [read, matched, captured, Option.map_some, Option.getD_some, Rule.extended_append]

/-- What stands behind the directive of a line that forwards: nothing, or a blank and anything but a
newline. -/
def IsLineRest (rest : List Char) : Prop :=
  rest = [] ∨ ∃ b r, rest = b :: r ∧ isBlank b = true ∧ '\n' ∉ r

theorem IsRest.isLineRest {rest : List Char} (h : IsRest rest) (hn : '\n' ∉ rest) :
    IsLineRest rest := by
  rcases h with rfl | hb
  · exact .inl rfl
  · cases rest with
    | nil => exact .inl rfl
    | cons b r => exact .inr ⟨b, r, rfl, hb, fun hm => hn (List.mem_cons_of_mem _ hm)⟩

theorem continues_upstream : Continues
    [.optional true (.catOf [.set .blank, anything]), .anchor .textEnd] IsLineRest := by
  refine ⟨?_, ?_, ?_⟩
  · intro c d hd
    obtain ⟨hd, _⟩ := mem_outcomes_before_textEnd.mp hd
    rcases mem_outcomes_optional.mp hd with rfl | hd
    · rfl
    · simp only [catOf, mem_outcomes_cat, mem_outcomes_set, mem_outcomes_anything] at hd
      obtain ⟨m, ⟨_, _, _, _, hm⟩, _, _, _, _, hg⟩ := hd
      exact hg.trans hm
  · intro c
    simp only [mem_outcomes_before_textEnd, mem_outcomes_optional]
    simp only [catOf, mem_outcomes_cat, mem_outcomes_set, mem_outcomes_anything]
    constructor
    · rintro ⟨d, rfl | ⟨m, ⟨b, hb, ha, _⟩, taken, ht, ha', _⟩, he⟩
      · exact .inl he
      · refine .inr ⟨b, taken, ?_, hb, notMem_newline.mp ht⟩
        rw [ha, ha', he, List.append_nil]
        rfl
    · rintro (he | ⟨b, r, ha, hb, hr⟩)
      · exact ⟨c, .inl rfl, he⟩
      · exact ⟨⟨r.reverse ++ b :: c.before, [], c.groups⟩, .inr ⟨⟨b :: c.before, r, c.groups⟩,
          ⟨b, hb, ha, rfl, rfl⟩, r, notMem_newline.mpr hr, (List.append_nil r).symm, rfl, rfl⟩, rfl⟩
  · rintro rest (rfl | ⟨b, r, rfl, hb, _⟩)
    · exact .inl rfl
    · exact .inr hb

theorem agrees_upstream {line : List Char}
    (h : ∀ rest, Offline.restAfter? upstreamText.toList (trimStart line) = some rest →
      '\n' ∉ rest) : Agrees upstream upstreamText line :=
  continues_upstream.agrees solid_upstreamText fun rest hled hr =>
    IsRest.isLineRest hr (h rest ((restAfter?_eq_some_iff solid_upstreamText).mpr ⟨hled, hr⟩))

/-- The rule that forwards queries for the outside, said without its pattern. -/
theorem rewrite_upstream {server line : List Char}
    (h : ∀ rest, Offline.restAfter? upstreamText.toList (trimStart line) = some rest →
      '\n' ∉ rest) :
    Rule.rewrite ⟨"forward-upstream", upstream, .forward⟩ server line =
      some (match Offline.restAfter? upstreamText.toList (trimStart line) with
        | some _ => Offline.indentation line ++ upstreamText.toList ++ ' ' :: server ++
          if Rule.opensBlock line then [' ', '\x7b'] else []
        | none => line) := by
  unfold Rule.rewrite
  cases agrees_upstream h with
  | missing unread unmatched => simp only [unread, unmatched]
  | found led read matched captured =>
    obtain ⟨lead, hl, rfl⟩ := led
    rw [indentation_append hl solid_upstreamText] at captured ⊢
    simp only [read, matched, captured, Option.map_some, Option.getD_some, Rule.forwarded_append]

theorem rewrite_drop {name : String} {pattern : Regex} {server line : List Char} {dropped : Bool}
    (h : (pattern.search line).isSome = dropped) :
    Rule.rewrite ⟨name, pattern, .drop⟩ server line = if dropped then none else some line := by
  subst h
  unfold Rule.rewrite
  cases pattern.search line <;> rfl

theorem isSome_search_lineOf_eq {word : String} {line : List Char}
    (hs : startsSolid word.toList = true) (he : endsSolid word.toList = true) :
    ((lineOf word).search line).isSome = (trim line == word.toList) := by
  rw [Bool.eq_iff_iff, isSome_search_lineOf, beq_iff_eq, trim_eq_iff hs he]
  constructor
  · intro ⟨trail, ht, lead, hl, hline⟩
    exact ⟨lead, trail, hl, ht, hline⟩
  · intro ⟨lead, trail, hl, ht, hline⟩
    exact ⟨trail, ht, lead, hl, hline⟩

theorem isSome_search_lineFrom_eq {word : String} {line : List Char}
    (hs : startsSolid word.toList = true) (hn : '\n' ∉ line) :
    ((lineFrom word).search line).isSome = word.toList.isPrefixOf (trimStart line) := by
  rw [Bool.eq_iff_iff, isSome_search_lineFrom, isPrefixOf_trimStart_iff hs]
  constructor
  · intro ⟨rest, _, lead, hl, hline⟩
    exact ⟨lead, rest, hl, hline⟩
  · rintro ⟨lead, rest, hl, rfl⟩
    refine ⟨rest, fun hm => hn ?_, lead, hl, rfl⟩
    exact List.mem_append_right _ (List.mem_append_right _ hm)

/-- The rules that drop lines act first, and leave the others as they are. -/
theorem offline_rewrite_eq {topLevelDomain : String} {server line : List Char} (hn : '\n' ∉ line) :
    (offline topLevelDomain).rewrite server line =
      if Offline.isDropped line then none
      else (Rule.rewrite ⟨"serve-extra-tld", zone, .extend topLevelDomain⟩ server line).bind
        (Rule.rewrite ⟨"forward-upstream", upstream, .forward⟩ server) := by
  have upstream := @isSome_search_lineOf_eq "upstream" line (by decide) (by decide)
  have loop := @isSome_search_lineOf_eq "loop" line (by decide) (by decide)
  have fallthrough := @isSome_search_lineFrom_eq "fallthrough" line (by decide) hn
  unfold Offline.isDropped
  generalize (trim line == "upstream".toList) = isUpstream at upstream ⊢
  generalize (trim line == "loop".toList) = isLoop at loop ⊢
  generalize "fallthrough".toList.isPrefixOf (trimStart line) = isFallthrough at fallthrough ⊢
  rw [rewrite, offline, List.foldlM_cons, rewrite_drop upstream]
  cases isUpstream with
  | true => rfl
  | false =>
    rw [if_neg nofun, Option.bind_eq_bind, Option.bind_some, List.foldlM_cons,
      rewrite_drop fallthrough]
    cases isFallthrough with
    | true => cases isLoop <;> rfl
    | false =>
      rw [if_neg nofun, Option.bind_eq_bind, Option.bind_some, List.foldlM_cons, rewrite_drop loop]
      cases isLoop with
      | true => rfl
      | false =>
        rw [if_neg nofun, Option.bind_eq_bind, Option.bind_some, if_neg nofun, List.foldlM_cons]
        refine congrArg _ (funext fun line => ?_)
        rw [List.foldlM_cons]
        exact bind_pure _

/-- A line of the cluster zone forwards nothing. -/
theorem restAfter?_upstreamText_of_ledBy {line rest : List Char}
    (h : LedBy zoneText.toList line rest) :
    Offline.restAfter? upstreamText.toList (trimStart line) = none := by
  obtain ⟨lead, hl, rfl⟩ := h
  rw [trimStart_append_solid hl (startsSolid_append solid_zoneText rest)]
  have different : upstreamText.toList.isPrefixOf (zoneText.toList ++ rest) = false := rfl
  rw [Offline.restAfter?, different]
  rfl

theorem rewrite_upstream_of_ledBy {server line rest : List Char}
    (h : LedBy zoneText.toList line rest) :
    Rule.rewrite ⟨"forward-upstream", upstream, .forward⟩ server line = some line := by
  have none_behind := restAfter?_upstreamText_of_ledBy h
  rw [rewrite_upstream (by simp [none_behind]), none_behind]

/-- On a line without a newline, the offline table does what its plain reading says. -/
theorem offline_rewrite {topLevelDomain : String} {server line : List Char} (hn : '\n' ∉ line) :
    (offline topLevelDomain).rewrite server line =
      Offline.rewriteLine topLevelDomain.toList server line := by
  rw [offline_rewrite_eq hn, Offline.rewriteLine, rewrite_zone, Option.bind_some]
  split
  · rfl
  change _ = match Offline.restAfter? zoneText.toList (trimStart line) with
    | some rest => _
    | none => _
  cases hz : Offline.restAfter? zoneText.toList (trimStart line) with
  | some rest =>
    obtain ⟨⟨lead, hl, rfl⟩, _⟩ := (restAfter?_eq_some_iff solid_zoneText).mp hz
    dsimp only
    split
    · exact rewrite_upstream_of_ledBy ⟨lead, hl, rfl⟩
    · rw [indentation_append hl solid_zoneText]
      exact @rewrite_upstream_of_ledBy _ _ (' ' :: topLevelDomain.toList ++ rest)
        ⟨lead, hl, by simp only [List.append_assoc]⟩
  | none =>
    dsimp only
    rw [rewrite_upstream fun rest hr => ?_]
    · change some _ = match Offline.restAfter? upstreamText.toList (trimStart line) with
        | some _ => _
        | none => _
      cases Offline.restAfter? upstreamText.toList (trimStart line) <;> rfl
    · obtain ⟨⟨lead, hl, rfl⟩, _⟩ := (restAfter?_eq_some_iff solid_upstreamText).mp hr
      exact fun hm => hn (List.mem_append_right _ (List.mem_append_right _ hm))

theorem applyLines_offline {topLevelDomain : String} {server corefile : List Char} :
    (offline topLevelDomain).applyLines server corefile =
      Offline.rewriteLines topLevelDomain.toList server corefile := by
  unfold applyLines Offline.rewriteLines
  have clean := fun part hpart => @not_sep_of_mem_segments corefile (· == '\n') part hpart
  generalize Text.segments (· == '\n') corefile = lines at clean ⊢
  induction lines with
  | nil => rfl
  | cons line lines ih =>
    have hn : '\n' ∉ line := fun hn => by simpa using clean line List.mem_cons_self _ hn
    rw [List.filterMap_cons, List.filterMap_cons, offline_rewrite hn,
      ih fun part hpart => clean part (List.mem_cons_of_mem _ hpart)]

/-- The names of the offline rules, their patterns as they are written, and what becomes of a line
that matches. -/
def offlineTexts (topLevelDomain : String) : List (String × String × Action) :=
  [("drop-upstream", "^\\s*upstream\\s*$", .drop),
    ("drop-fallthrough", "^\\s*fallthrough.*$", .drop),
    ("drop-loop", "^\\s*loop\\s*$", .drop),
    ("serve-extra-tld", "^(\\s*kubernetes cluster\\.local)(?:\\s|$)", .extend topLevelDomain),
    ("forward-upstream", "^(\\s*forward \\.)(?:\\s.*)?$", .forward)]

def readRules (texts : List (String × String × Action)) : Attempt (List Rule) :=
  texts.mapM fun (name, pattern, action) => Rule.ofPattern name pattern action

/-- Reading the patterns of the offline rules gives the offline table. -/
theorem readRules_offlineTexts (topLevelDomain : String) :
    readRules (offlineTexts topLevelDomain) = .ok (offline topLevelDomain).rules := by
  have captures : ¬zone.groupCount < 2 ∧ ¬upstream.groupCount < 2 := by decide
  simp only [readRules, offlineTexts, List.mapM_cons, List.mapM_nil, Rule.ofPattern,
    ofPattern?_offline, captures, and_false, ne_eq, not_true_eq_false, false_and, ite_false]
  rfl

/-- The patterns of the offline rules are read to a table that does to every line, and so to every
Corefile, what the plain reading of the rules says. -/
theorem offline_eq_plainReading (topLevelDomain server : String) :
    readRules (offlineTexts topLevelDomain) = .ok (offline topLevelDomain).rules ∧
      (∀ line : List Char, '\n' ∉ line →
        (offline topLevelDomain).rewrite server.toList line =
          Offline.rewriteLine topLevelDomain.toList server.toList line) ∧
      ∀ corefile : String, (offline topLevelDomain).apply corefile server =
        .ofList (joinWith ['\n']
          (Offline.rewriteLines topLevelDomain.toList server.toList corefile.toList)) := by
  refine ⟨readRules_offlineTexts topLevelDomain, fun line hn => offline_rewrite hn, ?_⟩
  intro corefile
  rw [apply, applyLines_offline]

/-- A line that opens the block of the cluster zone has a word put behind its directive, and a
longer word is another directive. -/
theorem offline_eq_plainReading_zone :
    let line := "\t kubernetes cluster.local in-addr.arpa \x7b".toList
    let longer := "\t kubernetes cluster.localhost \x7b".toList
    '\n' ∉ line ∧
      (offline "net").rewrite "8.8.8.8".toList line =
        some "\t kubernetes cluster.local net in-addr.arpa \x7b".toList ∧
      '\n' ∉ longer ∧ (offline "net").rewrite "8.8.8.8".toList longer = some longer := by
  intro line longer
  have plain := (offline_eq_plainReading "net" "8.8.8.8").2.1
  have hline : '\n' ∉ line := by decide
  have hlonger : '\n' ∉ longer := by decide
  refine ⟨hline, ?_, hlonger, ?_⟩
  · rw [plain line hline]
    decide
  · rw [plain longer hlonger]
    decide

end Policy
end PodNetwork.Corefile
