import PodNetwork.Proofs.Regex.Outcomes

/-! Where the groups of a match lie.

A match moves through a text from left to right and never changes it. A group is captured from
the place where its expression began to the place where it ended, so that it lies between the two
ends of the match, and no two ends of it are the wrong way round. -/
namespace PodNetwork.Regex

/-- The indices of the groups of an expression. -/
def indices : Regex → List Nat
  | .group index r => index :: r.indices
  | .cat a b | .alt a b => a.indices ++ b.indices
  | .optional _ r | .plus _ r => r.indices
  | _ => []

def Span.Between (span : Span) (first last : Nat) : Prop :=
  first ≤ span.start ∧ span.start ≤ span.stop ∧ span.stop ≤ last

theorem Span.Between.mono {span : Span} {first last first' last' : Nat}
    (h : span.Between first last) (hf : first' ≤ first) (hl : last ≤ last') :
    span.Between first' last' := by
  obtain ⟨hstart, hspan, hstop⟩ := h
  exact ⟨by omega, hspan, by omega⟩

/-- The second place is a later one of the same text, and was reached from the first one by
captures of the groups listed, all between the two. -/
structure Cursor.Reaches (indices : List Nat) (c d : Cursor) : Prop where
  text : d.text = c.text
  forward : c.offset ≤ d.offset
  captures : ∃ captured, d.groups = captured ++ c.groups ∧
    ∀ g ∈ captured, g.1 ∈ indices ∧ g.2.Between c.offset d.offset

namespace Cursor.Reaches

variable {indices wider : List Nat} {c d e : Cursor}

theorem refl (indices : List Nat) (c : Cursor) : c.Reaches indices c :=
  ⟨rfl, Nat.le_refl _, [], rfl, nofun⟩

theorem mono (h : c.Reaches indices d) (hw : ∀ i ∈ indices, i ∈ wider) : c.Reaches wider d := by
  obtain ⟨captured, hgroups, hbetween⟩ := h.captures
  exact ⟨h.text, h.forward, captured, hgroups,
    fun g hg => ⟨hw _ (hbetween g hg).1, (hbetween g hg).2⟩⟩

theorem trans (h : c.Reaches indices d) (h' : d.Reaches indices e) : c.Reaches indices e := by
  obtain ⟨captured, hgroups, hbetween⟩ := h.captures
  obtain ⟨captured', hgroups', hbetween'⟩ := h'.captures
  refine ⟨h'.text.trans h.text, Nat.le_trans h.forward h'.forward, captured' ++ captured, ?_, ?_⟩
  · rw [hgroups', hgroups, List.append_assoc]
  · intro g hg
    rcases List.mem_append.mp hg with hg | hg
    · exact ⟨(hbetween' g hg).1, (hbetween' g hg).2.mono h.forward (Nat.le_refl _)⟩
    · exact ⟨(hbetween g hg).1, (hbetween g hg).2.mono (Nat.le_refl _) h'.forward⟩

/-- The group that ends at a place is captured from where it began. -/
theorem capture (h : c.Reaches indices d) (index : Nat) :
    c.Reaches (index :: indices) (d.capture index c.offset) := by
  obtain ⟨captured, hgroups, hbetween⟩ := h.captures
  refine ⟨h.text, h.forward, (index, ⟨c.offset, d.offset⟩) :: captured, ?_, ?_⟩
  · rw [Cursor.capture, hgroups, List.cons_append]
  · intro g hg
    rcases List.mem_cons.mp hg with rfl | hg
    · exact ⟨List.mem_cons_self, Nat.le_refl _, h.forward, Nat.le_refl _⟩
    · exact ⟨List.mem_cons_of_mem _ (hbetween g hg).1, (hbetween g hg).2⟩

/-- A group that is not captured on the way is still the one captured before. -/
theorem group?_eq (h : c.Reaches indices d) {index : Nat} (hi : index ∉ indices) :
    d.group? index = c.group? index := by
  obtain ⟨captured, hgroups, hbetween⟩ := h.captures
  have uncaptured : captured.find? (fun g => g.1 = index) = none := by
    rw [List.find?_eq_none]
    intro g hg hindex
    have heq : g.1 = index := by simpa using hindex
    exact hi (heq ▸ (hbetween g hg).1)
  rw [Cursor.group?, Cursor.group?, hgroups, List.find?_append, uncaptured, Option.none_or]

/-- A group captured on the way lies on the way. -/
theorem between (h : c.Reaches indices d) {index : Nat} {span : Span}
    (hnew : c.group? index = none) (hs : d.group? index = some span) :
    span.Between c.offset d.offset := by
  obtain ⟨captured, hgroups, hbetween⟩ := h.captures
  have unfound : c.groups.find? (fun g => g.1 = index) = none := by
    simpa [Cursor.group?] using hnew
  rw [Cursor.group?, hgroups, List.find?_append, unfound, Option.or_none] at hs
  obtain ⟨g, hg, rfl⟩ := Option.map_eq_some_iff.mp hs
  exact (hbetween g (List.mem_of_find?_eq_some hg)).2

end Cursor.Reaches

section

variable {indices : List Nat} {step : Cursor → List Cursor} {greedy : Bool} {c d : Cursor}

/-- A fold that visits places one after the other reaches what each visit reaches. -/
theorem reaches_of_mem_foldl {places : List Cursor} {state : List Nat × List Cursor}
    {visit : List Nat × List Cursor → Cursor → List Nat × List Cursor}
    (hvisit : ∀ state, ∀ m ∈ places, ∀ d ∈ (visit state m).2,
      d ∈ state.2 ∨ c.Reaches indices d)
    (hstate : ∀ d ∈ state.2, c.Reaches indices d) (h : d ∈ (places.foldl visit state).2) :
    c.Reaches indices d := by
  induction places generalizing state with
  | nil => exact hstate d h
  | cons m places ih =>
    apply ih (fun state n hn => hvisit state n (List.mem_cons_of_mem _ hn)) _ h
    intro e he
    rcases hvisit state m List.mem_cons_self e he with he | he
    · exact hstate e he
    · exact he

/-- Every further repetition starts where the last one ended. -/
theorem reaches_of_mem_again (hstep : ∀ c, ∀ d ∈ step c, c.Reaches indices d) {fuel : Nat}
    {seen : List Nat} (h : d ∈ (again step greedy fuel seen c).2) : c.Reaches indices d := by
  induction fuel generalizing seen c d with
  | zero =>
    rw [again, List.mem_singleton] at h
    exact h ▸ .refl indices c
  | succ fuel ih =>
    rw [again] at h
    split at h
    · cases h
    · split at h
      next later more hfold =>
      -- One step leads to each place visited, and the repetitions behind it go on from there.
      have collected : ∀ e ∈ more, c.Reaches indices e := by
        intro e he
        have he : e ∈ (later, more).2 := he
        rw [← hfold] at he
        apply reaches_of_mem_foldl _ _ he
        · intro state m hm d hd
          have first : c.Reaches indices m := hstep c m (List.mem_filter.mp hm).1
          rcases List.mem_append.mp hd with hd | hd
          · exact .inl hd
          · exact .inr (first.trans (ih hd))
        · intro d hd
          cases hd
      cases greedy with
      | true =>
        rcases List.mem_append.mp h with h | h
        · exact collected d h
        · exact List.mem_singleton.mp h ▸ .refl indices c
      | false =>
        rcases List.mem_cons.mp h with rfl | h
        · exact .refl indices d
        · exact collected d h

theorem reaches_of_mem_repetitions (hstep : ∀ c, ∀ d ∈ step c, c.Reaches indices d)
    (h : d ∈ repetitions step greedy c) : c.Reaches indices d := by
  apply reaches_of_mem_foldl _ _ h
  · intro state m hm d hd
    have first : c.Reaches indices m := hstep c m hm
    dsimp only at hd
    split at hd
    · rcases List.mem_append.mp hd with hd | hd
      · exact .inl hd
      · exact .inr (first.trans (reaches_of_mem_again hstep hd))
    · rcases List.mem_append.mp hd with hd | hd
      · exact .inl hd
      · exact .inr (List.mem_singleton.mp hd ▸ first)
  · intro d hd
    cases hd

end

theorem mem_outcomes_anchor {a : Anchor} {c d : Cursor} :
    d ∈ outcomes (.anchor a) c ↔ a.holds c = true ∧ d = c := by
  rw [outcomes]
  split
  · next holds => simp [holds]
  · next fails => simp [fails]

/-- All that an expression reaches, by cases on how the expression is built. -/
theorem reaches_of_mem_outcomes {r : Regex} {c d : Cursor} (h : d ∈ outcomes r c) :
    c.Reaches r.indices d := by
  induction r generalizing c d with
  | empty =>
    rw [outcomes, List.mem_singleton] at h
    exact h ▸ .refl _ d
  | set s =>
    obtain ⟨x, -, hafter, hbefore, hgroups⟩ := mem_outcomes_set.mp h
    have text : d.text = c.text := by simp [Cursor.text, hafter, hbefore]
    have forward : c.offset ≤ d.offset := by simp [Cursor.offset, hbefore]
    exact ⟨text, forward, [], hgroups, fun g hg => absurd hg List.not_mem_nil⟩
  | anchor a =>
    obtain ⟨-, rfl⟩ := mem_outcomes_anchor.mp h
    exact .refl _ d
  | cat a b iha ihb =>
    obtain ⟨m, hm, hd⟩ := mem_outcomes_cat.mp h
    have left : c.Reaches (a.indices ++ b.indices) m :=
      (iha hm).mono fun i hi => List.mem_append_left _ hi
    have right : m.Reaches (a.indices ++ b.indices) d :=
      (ihb hd).mono fun i hi => List.mem_append_right _ hi
    exact left.trans right
  | alt a b iha ihb =>
    rcases mem_outcomes_alt.mp h with h | h
    · exact (iha h).mono fun i hi => List.mem_append_left _ hi
    · exact (ihb h).mono fun i hi => List.mem_append_right _ hi
  | optional greedy r ih =>
    rcases mem_outcomes_optional.mp h with rfl | h
    · exact .refl _ d
    · exact ih h
  | plus greedy r ih => exact reaches_of_mem_repetitions (fun c d hd => ih hd) h
  | group index r ih =>
    obtain ⟨m, hm, rfl⟩ := mem_outcomes_group.mp h
    exact (ih hm).capture index

/-- A match found by a search began at some place of the text, with nothing captured. -/
theorem exists_of_search {r : Regex} {cs : List Char} {found : Cursor}
    (h : r.search cs = some found) :
    ∃ start : Cursor, start.text = cs ∧ start.groups = [] ∧ found ∈ outcomes r start := by
  suffices from_place : ∀ before rest, r.searchFrom before rest = some found →
      ∃ start : Cursor, start.text = before.reverse ++ rest ∧ start.groups = [] ∧
        found ∈ outcomes r start from from_place [] cs h
  -- The search goes from place to place, and what it has left behind is kept the other way round.
  intro before rest hfound
  induction rest generalizing before with
  | nil => exact ⟨⟨before, [], []⟩, rfl, rfl, List.mem_of_head? hfound⟩
  | cons x rest ih =>
    rw [searchFrom] at hfound
    split at hfound
    · next d hd =>
      obtain rfl := Option.some.inj hfound
      exact ⟨⟨before, x :: rest, []⟩, rfl, rfl, List.mem_of_head? hd⟩
    · obtain ⟨start, htext, hgroups, hmem⟩ := ih (x :: before) hfound
      exact ⟨start, by simpa using htext, hgroups, hmem⟩

/-- A group of a match is a part of the text. -/
theorem between_of_search {r : Regex} {cs : List Char} {found : Cursor} {index : Nat} {span : Span}
    (h : r.search cs = some found) (hs : found.group? index = some span) :
    span.Between 0 cs.length := by
  obtain ⟨start, htext, hgroups, hmem⟩ := exists_of_search h
  have reached : start.Reaches r.indices found := reaches_of_mem_outcomes hmem
  have new : start.group? index = none := by
    rw [Cursor.group?, hgroups]
    rfl
  have inside : found.offset ≤ cs.length := by
    rw [← htext, ← reached.text, Cursor.text, List.length_append, List.length_reverse,
      Cursor.offset]
    omega
  exact (reached.between new hs).mono (Nat.zero_le _) inside

/-- Whether an expression matches at the start of a text only. -/
def anchored : Regex → Bool
  | .anchor a => a == .textStart
  | .cat a _ => a.anchored
  | .alt a b => a.anchored && b.anchored
  | .group _ r => r.anchored
  | _ => false

theorem offset_eq_zero_of_anchored {r : Regex} {c d : Cursor} (hr : r.anchored = true)
    (h : d ∈ outcomes r c) : c.offset = 0 := by
  induction r generalizing c d with
  | anchor a =>
    obtain rfl : a = .textStart := by simpa [anchored] using hr
    obtain ⟨holds, rfl⟩ := mem_outcomes_anchor.mp h
    simpa [Anchor.holds, Cursor.offset] using holds
  | cat a b iha ihb =>
    obtain ⟨m, hm, hd⟩ := mem_outcomes_cat.mp h
    exact iha hr hm
  | alt a b iha ihb =>
    obtain ⟨ha, hb⟩ := Bool.and_eq_true_iff.mp hr
    rcases mem_outcomes_alt.mp h with h | h
    · exact iha ha h
    · exact ihb hb h
  | group index r ih =>
    obtain ⟨m, hm, rfl⟩ := mem_outcomes_group.mp h
    exact ih hr hm
  | empty | set | optional | plus => cases hr

/-- Whether an expression begins with a group, and captures that group nowhere else. -/
def leads (index : Nat) : Regex → Bool
  | .group i _ => i == index
  | .cat (.anchor _) b => b.leads index
  | .cat a b => a.leads index && !b.indices.contains index
  | .alt a b => a.leads index && b.leads index
  | _ => false

theorem start_eq_offset_of_leads {index : Nat} {r : Regex} {c d : Cursor}
    (hr : r.leads index = true) (h : d ∈ outcomes r c) :
    ∃ stop, d.group? index = some ⟨c.offset, stop⟩ := by
  fun_induction leads index r generalizing c d with
  | case1 i r =>
    obtain rfl : i = index := by simpa using hr
    obtain ⟨m, hm, rfl⟩ := mem_outcomes_group.mp h
    exact ⟨m.offset, by simp [Cursor.capture, Cursor.group?]⟩
  | case2 a b ih =>
    obtain ⟨m, hm, hd⟩ := mem_outcomes_cat.mp h
    obtain ⟨-, rfl⟩ := mem_outcomes_anchor.mp hm
    exact ih hr hd
  | case3 a b _ ih =>
    obtain ⟨ha, hb⟩ := Bool.and_eq_true_iff.mp hr
    obtain ⟨m, hm, hd⟩ := mem_outcomes_cat.mp h
    obtain ⟨stop, hstop⟩ := ih ha hm
    have uncaptured : index ∉ b.indices := by simpa using hb
    exact ⟨stop, by rw [(reaches_of_mem_outcomes hd).group?_eq uncaptured, hstop]⟩
  | case4 a b iha ihb =>
    obtain ⟨ha, hb⟩ := Bool.and_eq_true_iff.mp hr
    rcases mem_outcomes_alt.mp h with h | h
    · exact iha ha h
    · exact ihb hb h
  | case5 => cases hr

/-- A group that an expression for the start of a text begins with is captured from there. -/
theorem start_eq_zero_of_search {r : Regex} {cs : List Char} {found : Cursor} {index : Nat}
    {span : Span} (ha : r.anchored = true) (hl : r.leads index = true)
    (h : r.search cs = some found) (hs : found.group? index = some span) : span.start = 0 := by
  obtain ⟨start, -, -, hmem⟩ := exists_of_search h
  obtain ⟨stop, hstop⟩ := start_eq_offset_of_leads hl hmem
  obtain rfl := Option.some.inj (hs.symm.trans hstop)
  exact offset_eq_zero_of_anchored ha hmem

end PodNetwork.Regex
