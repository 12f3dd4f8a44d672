import PodNetwork.Regex.Basic

/-! The places that an expression can reach, for the expressions that tables of rules are made of.

What is said here is which places are reached and not in which order, which is enough for an
expression all of whose outcomes capture the same. -/
namespace PodNetwork.Regex

/-- The second place lies behind the first one by some characters. -/
def Cursor.Reads (word : List Char) (c d : Cursor) : Prop :=
  c.after = word ++ d.after ∧ d.before = word.reverse ++ c.before ∧ d.groups = c.groups

/-- The second place lies behind the first one by characters of a set. -/
def Cursor.Takes (s : CharSet) (c d : Cursor) : Prop :=
  ∃ taken, (∀ x ∈ taken, s.mem x = true) ∧ c.Reads taken d

open Cursor

theorem reads_nil_iff {c d : Cursor} : c.Reads [] d ↔ d = c := by
  obtain ⟨before, after, groups⟩ := c
  obtain ⟨before', after', groups'⟩ := d
  simp [Reads, eq_comm, and_left_comm]

theorem reads_cons_iff {x : Char} {word : List Char} {c d : Cursor} :
    c.Reads (x :: word) d ↔ ∃ m, c.Reads [x] m ∧ m.Reads word d := by
  constructor
  · intro ⟨ha, hb, hg⟩
    exact ⟨⟨x :: c.before, word ++ d.after, c.groups⟩, ⟨ha, rfl, rfl⟩, rfl, by simpa using hb, hg⟩
  · intro ⟨m, ⟨ha, hb, hg⟩, ha', hb', hg'⟩
    exact ⟨by rw [ha, ha']; rfl, by rw [hb', hb]; simp, hg'.trans hg⟩

theorem mem_outcomes_set {s : CharSet} {c d : Cursor} :
    d ∈ outcomes (.set s) c ↔ ∃ x, s.mem x = true ∧ c.Reads [x] d := by
  obtain ⟨before, after, groups⟩ := c
  obtain ⟨before', after', groups'⟩ := d
  cases after with
  | nil => simp [outcomes, Reads]
  | cons y rest =>
    by_cases hy : s.mem y = true
    · simp only [outcomes, hy, if_true, List.mem_singleton, Reads]
      constructor
      · intro h
        cases h
        exact ⟨y, hy, rfl, rfl, rfl⟩
      · rintro ⟨x, _, ha, hb, hg⟩
        obtain ⟨rfl, rfl⟩ := List.cons.inj ha
        cases hb
        cases hg
        rfl
    · simp only [outcomes, hy, Bool.false_eq_true, if_false, List.not_mem_nil, false_iff, Reads]
      rintro ⟨x, hx, ha, _⟩
      obtain ⟨rfl, _⟩ := List.cons.inj ha
      exact hy hx

theorem mem_outcomes_catOf_cons {r : Regex} {rs : List Regex} {c d : Cursor} :
    d ∈ outcomes (catOf (r :: rs)) c ↔ ∃ m ∈ outcomes r c, d ∈ outcomes (catOf rs) m := by
  cases rs with
  | nil => simp [catOf, outcomes]
  | cons s rs => exact mem_outcomes_cat

theorem mem_outcomes_catOf_append {rs ss : List Regex} {c d : Cursor} :
    d ∈ outcomes (catOf (rs ++ ss)) c ↔
      ∃ m ∈ outcomes (catOf rs) c, d ∈ outcomes (catOf ss) m := by
  induction rs generalizing c with
  | nil => simp [catOf, outcomes]
  | cons r rs ih =>
    rw [List.cons_append, mem_outcomes_catOf_cons]
    simp only [mem_outcomes_catOf_cons, ih]
    constructor
    · rintro ⟨m, hm, n, hn, hd⟩
      exact ⟨n, ⟨m, hm, hn⟩, hd⟩
    · rintro ⟨n, ⟨m, hm, hn⟩, hd⟩
      exact ⟨m, hm, n, hn, hd⟩

theorem mem_outcomes_letters {word : String} {c d : Cursor} :
    d ∈ outcomes (catOf (letters word)) c ↔ c.Reads word.toList d := by
  unfold letters
  induction word.toList generalizing c with
  | nil => simp [catOf, outcomes, reads_nil_iff]
  | cons x rest ih =>
    rw [List.map_cons, mem_outcomes_catOf_cons, reads_cons_iff]
    simp only [ih, mem_outcomes_set, CharSet.mem_single]
    constructor
    · rintro ⟨m, ⟨_, rfl, hm⟩, hd⟩
      exact ⟨m, hm, hd⟩
    · rintro ⟨m, hm, hd⟩
      exact ⟨m, ⟨x, rfl, hm⟩, hd⟩

theorem takes_iff {s : CharSet} {c d : Cursor} :
    c.Takes s d ↔ d = c ∨ ∃ m ∈ outcomes (.set s) c, m.Takes s d := by
  simp only [mem_outcomes_set]
  constructor
  · intro ⟨taken, hs, h⟩
    cases taken with
    | nil => exact .inl (reads_nil_iff.mp h)
    | cons x taken =>
      obtain ⟨m, hm, hd⟩ := reads_cons_iff.mp h
      exact .inr ⟨m, ⟨x, hs x List.mem_cons_self, hm⟩, taken,
        fun y hy => hs y (List.mem_cons_of_mem _ hy), hd⟩
  · rintro (rfl | ⟨m, ⟨x, hx, hm⟩, taken, hs, hd⟩)
    · exact ⟨[], nofun, reads_nil_iff.mpr rfl⟩
    · exact ⟨x :: taken, List.forall_mem_cons.mpr ⟨hx, hs⟩, reads_cons_iff.mpr ⟨m, hm, hd⟩⟩

/-- A set has at most one outcome, and it consumes one character. -/
theorem outcomes_set_cases (s : CharSet) (c : Cursor) :
    outcomes (.set s) c = [] ∨
      ∃ m, outcomes (.set s) c = [m] ∧ c.after.length = m.after.length + 1 ∧
        m.offset = c.offset + 1 := by
  obtain ⟨before, after, groups⟩ := c
  cases after with
  | nil => exact .inl rfl
  | cons x rest =>
    by_cases hx : s.mem x = true
    · exact .inr ⟨⟨x :: before, rest, groups⟩, by simp [outcomes, hx], rfl, rfl⟩
    · exact .inl (by simp [outcomes, hx])

/-- The places seen so far lie before the current one, so that none of them ends a repetition. -/
theorem mem_again_set {s : CharSet} {greedy : Bool} {fuel : Nat} {seen : List Nat} {c d : Cursor}
    (hf : c.after.length < fuel) (hs : ∀ n ∈ seen, n < c.offset) :
    d ∈ (again (outcomes (.set s)) greedy fuel seen c).2 ↔ c.Takes s d := by
  induction fuel generalizing seen c with
  | zero => exact absurd hf (Nat.not_lt_zero _)
  | succ fuel ih =>
    have unseen : seen.contains c.offset = false := by
      rw [List.contains_eq_mem, decide_eq_false_iff_not]
      exact fun h => Nat.lt_irrefl _ (hs _ h)
    rw [again, unseen, takes_iff]
    rcases outcomes_set_cases s c with hn | ⟨m, hm, hl, ho⟩
    · cases greedy <;> simp [hn]
    · have progressed : c.progressed m = true := by
        simp only [progressed, decide_eq_true_eq]
        omega
      have rest := @ih (c.offset :: seen) m (by omega) ?_
      · cases greedy <;> simp [hm, progressed, rest, or_comm]
      · intro n hn
        rcases List.mem_cons.mp hn with rfl | hn
        · omega
        · have := hs n hn
          omega

theorem mem_outcomes_optional {greedy : Bool} {r : Regex} {c d : Cursor} :
    d ∈ outcomes (.optional greedy r) c ↔ d = c ∨ d ∈ outcomes r c := by
  cases greedy <;> simp [outcomes, or_comm]

theorem mem_outcomes_star_set {s : CharSet} {greedy : Bool} {c d : Cursor} :
    d ∈ outcomes (star greedy (.set s)) c ↔ c.Takes s d := by
  have repeated : d ∈ repetitions (outcomes (.set s)) greedy c ↔
      ∃ m ∈ outcomes (.set s) c, m.Takes s d := by
    rcases outcomes_set_cases s c with hn | ⟨m, hm, hl, ho⟩
    · simp [repetitions, hn]
    · have progressed : c.progressed m = true := by
        simp only [progressed, decide_eq_true_eq]
        omega
      simp only [repetitions, hm, List.foldl_cons, List.foldl_nil, progressed, if_true,
        List.nil_append, List.mem_singleton, exists_eq_left]
      exact mem_again_set (Nat.lt_succ_self _) nofun
  rw [star, mem_outcomes_optional, takes_iff]
  exact or_congr Iff.rfl repeated

theorem mem_outcomes_group {index : Nat} {r : Regex} {c d : Cursor} :
    d ∈ outcomes (.group index r) c ↔ ∃ m ∈ outcomes r c, d = m.capture index c.offset := by
  simp [outcomes, eq_comm]

theorem mem_outcomes_textEnd {c d : Cursor} :
    d ∈ outcomes (.anchor .textEnd) c ↔ c.after = [] ∧ d = c := by
  cases h : c.after <;> simp [outcomes, Anchor.holds, h]

theorem mem_outcomes_before_textEnd {r : Regex} {c d : Cursor} :
    d ∈ outcomes (catOf [r, .anchor .textEnd]) c ↔ d ∈ outcomes r c ∧ d.after = [] := by
  rw [mem_outcomes_catOf_cons]
  simp only [catOf, mem_outcomes_textEnd]
  constructor
  · rintro ⟨m, hm, he, rfl⟩
    exact ⟨hm, he⟩
  · intro ⟨hd, he⟩
    exact ⟨d, hd, he, rfl⟩

/-- An expression that begins at the start of the text is found nowhere else. -/
theorem search_textStart (r : Regex) (cs : List Char) :
    (Regex.cat (.anchor .textStart) r).search cs = (outcomes r (.ofText cs)).head? := by
  have elsewhere (before : List Char) (b : Char) (cs : List Char) :
      (Regex.cat (.anchor .textStart) r).searchFrom (b :: before) cs = none := by
    induction cs generalizing b before with
    | nil => rfl
    | cons c cs ih => exact ih _ _
  have here : outcomes (.cat (.anchor .textStart) r) (.ofText cs) = outcomes r (.ofText cs) := by
    simp [outcomes, Anchor.holds, Cursor.ofText]
  rw [← here]
  cases cs with
  | nil => rfl
  | cons c cs =>
    rw [search, searchFrom, elsewhere, Cursor.ofText]
    split
    · next d found => exact found.symm
    · next missing => exact missing.symm

end PodNetwork.Regex
