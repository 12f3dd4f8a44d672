import Mathlib.Data.List.TakeWhile
import PodNetwork.Text.Blank

/-! What the cuts of a text leave: trimming, segments and words. -/
namespace PodNetwork.Text

variable {p : Char → Bool} {lead trail word cs : List Char}

theorem dropFirst_append (h : ∀ x ∈ lead, p x = true) :
    dropFirst p (lead ++ cs) = dropFirst p cs := List.dropWhile_append_of_pos h

theorem dropFirst_cons {x : Char} (h : p x = false) : dropFirst p (x :: cs) = x :: cs :=
  List.dropWhile_cons_of_neg (by simp [h])

theorem dropLast_append (h : ∀ x ∈ trail, p x = true) :
    dropLast p (cs ++ trail) = dropLast p cs := by
  rw [dropLast, List.reverse_append,
    List.dropWhile_append_of_pos fun x hx => h x (List.mem_reverse.mp hx), dropLast]

theorem dropLast_append_singleton {x : Char} (h : p x = false) :
    dropLast p (cs ++ [x]) = cs ++ [x] := by
  rw [dropLast, List.reverse_append, List.reverse_singleton, List.singleton_append,
    List.dropWhile_cons_of_neg (by simp [h])]
  simp

/-- What is dropped from the end belongs to the class. -/
theorem exists_dropLast (p : Char → Bool) (cs : List Char) :
    ∃ trail, cs = dropLast p cs ++ trail ∧ ∀ x ∈ trail, p x = true := by
  refine ⟨(cs.reverse.takeWhile p).reverse, ?_, fun x hx => ?_⟩
  · rw [dropLast, ← List.reverse_append, List.takeWhile_append_dropWhile, List.reverse_reverse]
  · exact List.all_eq_true.mp List.all_takeWhile x (List.mem_reverse.mp hx)

theorem exists_dropFirst (p : Char → Bool) (cs : List Char) :
    ∃ lead, cs = lead ++ dropFirst p cs ∧ ∀ x ∈ lead, p x = true :=
  ⟨cs.takeWhile p, List.takeWhile_append_dropWhile.symm,
    fun x hx => List.all_eq_true.mp List.all_takeWhile x hx⟩

/-- A run of characters of a class is cut off as a whole, if what follows begins with another
character. -/
theorem span_append {run rest : List Char} (inside : ∀ c ∈ run, p c = true)
    (stop : ∀ c ∈ rest.head?, p c = false) :
    (run ++ rest).takeWhile p = run ∧ (run ++ rest).dropWhile p = rest := by
  rw [List.takeWhile_append_of_pos inside, List.dropWhile_append_of_pos inside]
  cases rest with
  | nil => exact ⟨List.append_nil _, rfl⟩
  | cons c rest =>
    have other : ¬p c = true := Bool.eq_false_iff.mp (stop c rfl)
    rw [List.takeWhile_cons_of_neg other, List.dropWhile_cons_of_neg other, List.append_nil]
    exact ⟨rfl, rfl⟩

/-- What stands around a text and belongs to the class goes. -/
theorem dropAround_append (hl : ∀ x ∈ lead, p x = true) (ht : ∀ x ∈ trail, p x = true) :
    dropAround p (lead ++ (cs ++ trail)) = dropAround p cs := by
  rw [dropAround, dropFirst_append hl, dropFirst, List.dropWhile_append]
  split
  · next hempty =>
    have hcs : dropFirst p cs = [] := List.isEmpty_iff.mp hempty
    have htrail : trail.dropWhile p = [] := List.dropWhile_eq_nil_iff.mpr ht
    rw [dropAround, hcs, htrail]
  · exact dropLast_append ht

/-- A text without the class at its ends stays as it is. -/
theorem dropAround_eq_self (first : ∀ x ∈ cs.head?, p x = false)
    (last : ∀ x ∈ cs.getLast?, p x = false) : dropAround p cs = cs := by
  have front : dropFirst p cs = cs := by
    cases cs with
    | nil => rfl
    | cons x rest => exact dropFirst_cons (first x rfl)
  rw [dropAround, front]
  rcases List.eq_nil_or_concat cs with rfl | ⟨init, x, rfl⟩
  · rfl
  · rw [List.concat_eq_append] at last ⊢
    exact dropLast_append_singleton (last x (by simp))

def startsSolid (cs : List Char) : Bool := cs.head?.any (!isBlank ·)

def endsSolid (cs : List Char) : Bool := cs.getLast?.any (!isBlank ·)

theorem trimStart_append_solid (hl : ∀ x ∈ lead, isBlank x = true) (hw : startsSolid cs = true) :
    trimStart (lead ++ cs) = cs := by
  rw [trimStart, dropFirst_append hl]
  cases cs with
  | nil => simp [startsSolid] at hw
  | cons x rest => exact dropFirst_cons (by simpa [startsSolid] using hw)

theorem trimEnd_append_solid (ht : ∀ x ∈ trail, isBlank x = true) (hw : endsSolid cs = true) :
    trimEnd (cs ++ trail) = cs := by
  rw [trimEnd, dropLast_append ht]
  rcases List.eq_nil_or_concat cs with rfl | ⟨init, x, rfl⟩
  · simp [endsSolid] at hw
  · rw [List.concat_eq_append] at hw ⊢
    exact dropLast_append_singleton (by simpa [endsSolid] using hw)

theorem startsSolid_append (h : startsSolid word = true) (rest : List Char) :
    startsSolid (word ++ rest) = true := by
  cases word with
  | nil => simp [startsSolid] at h
  | cons x word => exact h

theorem isPrefixOf_trimStart_iff (hw : startsSolid word = true) :
    word.isPrefixOf (trimStart cs) = true ↔
      ∃ lead rest, (∀ x ∈ lead, isBlank x = true) ∧ cs = lead ++ (word ++ rest) := by
  rw [List.isPrefixOf_iff_prefix]
  constructor
  · intro ⟨rest, hr⟩
    obtain ⟨lead, hcs, hl⟩ := exists_dropFirst isBlank cs
    exact ⟨lead, rest, hl, by rw [hr]; exact hcs⟩
  · rintro ⟨lead, rest, hl, rfl⟩
    rw [trimStart_append_solid hl (startsSolid_append hw rest)]
    exact List.prefix_append _ _

theorem trim_eq_iff (hs : startsSolid word = true) (he : endsSolid word = true) :
    trim cs = word ↔ ∃ lead trail, (∀ x ∈ lead, isBlank x = true) ∧
      (∀ x ∈ trail, isBlank x = true) ∧ cs = lead ++ (word ++ trail) := by
  constructor
  · rintro rfl
    obtain ⟨lead, hcs, hl⟩ := exists_dropFirst isBlank cs
    obtain ⟨trail, htrim, ht⟩ := exists_dropLast isBlank (dropFirst isBlank cs)
    exact ⟨lead, trail, hl, ht, hcs.trans (congrArg (lead ++ ·) htrim)⟩
  · rintro ⟨lead, trail, hl, ht, rfl⟩
    have := trimStart_append_solid hl (startsSolid_append hs trail)
    exact (congrArg (dropLast isBlank) this).trans (trimEnd_append_solid ht he)

theorem cutAt?_append_cons {sep : Char} {a b : List Char} (h : sep ∉ a) :
    cutAt? sep (a ++ sep :: b) = some (a, b) := by
  induction a with
  | nil => simp [cutAt?]
  | cons c a ih =>
    have hc : c ≠ sep := by
      rintro rfl
      exact h List.mem_cons_self
    simp [cutAt?, hc, ih fun hm => h (List.mem_cons_of_mem _ hm)]

theorem notMem_of_cutAt? {sep : Char} {a b : List Char} (h : cutAt? sep cs = some (a, b)) :
    sep ∉ a := by
  induction cs generalizing a with
  | nil => simp [cutAt?] at h
  | cons c rest ih =>
    unfold cutAt? at h
    split at h
    · cases h
      exact List.not_mem_nil
    · next hc =>
      obtain ⟨⟨a', b'⟩, hr, he⟩ := Option.map_eq_some_iff.mp h
      cases he
      intro hm
      rcases List.mem_cons.mp hm with rfl | hm
      · exact hc rfl
      · exact ih hr hm

/-- The first separator is the one that a text is cut at. -/
theorem cutAt?_eq_some_iff {sep : Char} {a b : List Char} :
    cutAt? sep cs = some (a, b) ↔ cs = a ++ sep :: b ∧ sep ∉ a := by
  refine ⟨fun h => ⟨eq_append_of_cutAt? h, notMem_of_cutAt? h⟩, ?_⟩
  rintro ⟨rfl, h⟩
  exact cutAt?_append_cons h

/-- A separator cuts a text in two. -/
theorem segments_append_sep {sep : Char → Bool} {x : Char} (hx : sep x = true)
    (cs later : List Char) :
    segments sep (cs ++ x :: later) = segments sep cs ++ segments sep later := by
  induction cs with
  | nil => simp [segments, hx]
  | cons c cs ih =>
    rw [List.cons_append, segments, segments, ih]
    split
    · rfl
    · cases hs : segments sep cs with
      | nil => exact absurd hs (segments_ne_nil sep cs)
      | cons first parts => rfl

theorem segments_of_none {sep : Char → Bool} (hw : ∀ y ∈ word, sep y = false) :
    segments sep word = [word] := by
  induction word with
  | nil => rfl
  | cons y word ih =>
    rw [segments, ih fun z hz => hw z (List.mem_cons_of_mem _ hz)]
    simp [hw y List.mem_cons_self]

theorem segments_append_cons {sep : Char → Bool} {x : Char} (hw : ∀ y ∈ word, sep y = false)
    (hx : sep x = true) : segments sep (word ++ x :: cs) = word :: segments sep cs := by
  rw [segments_append_sep hx, segments_of_none hw, List.singleton_append]

/-- A segment holds no separator. -/
theorem not_sep_of_mem_segments {sep : Char → Bool} {part : List Char}
    (h : part ∈ segments sep cs) : ∀ x ∈ part, sep x = false := by
  induction cs generalizing part with
  | nil =>
    rw [segments, List.mem_singleton] at h
    simp [h]
  | cons c rest ih =>
    rw [segments] at h
    split at h
    · rcases List.mem_cons.mp h with rfl | h
      · simp
      · exact ih h
    · next hc =>
      split at h
      · next heq => exact absurd heq (segments_ne_nil sep rest)
      · next first parts heq =>
        rcases List.mem_cons.mp h with rfl | h
        · refine List.forall_mem_cons.mpr ⟨by simpa using hc, ih ?_⟩
          rw [heq]
          exact List.mem_cons_self
        · refine ih ?_
          rw [heq]
          exact List.mem_cons_of_mem _ h

/-- A segment has all its characters from the text. -/
theorem mem_of_mem_segments {sep : Char → Bool} {part : List Char} {x : Char}
    (h : part ∈ segments sep cs) (hx : x ∈ part) : x ∈ cs := by
  induction cs generalizing part with
  | nil =>
    rw [segments, List.mem_singleton] at h
    rwa [h] at hx
  | cons c rest ih =>
    rw [segments] at h
    split at h
    · rcases List.mem_cons.mp h with rfl | h
      · cases hx
      · exact List.mem_cons_of_mem _ (ih h hx)
    · split at h
      · next heq => exact absurd heq (segments_ne_nil sep rest)
      · next first parts heq =>
        rw [heq] at ih
        rcases List.mem_cons.mp h with rfl | h
        · rcases List.mem_cons.mp hx with rfl | hx
          · exact List.mem_cons_self
          · exact List.mem_cons_of_mem _ (ih List.mem_cons_self hx)
        · exact List.mem_cons_of_mem _ (ih (List.mem_cons_of_mem _ h) hx)

/-- Lines that hold no newline are the lines of the text that they are joined to. -/
theorem segments_joinWith {sep : Char} {parts : List (List Char)} (hne : parts ≠ [])
    (h : ∀ part ∈ parts, sep ∉ part) : segments (· == sep) (joinWith [sep] parts) = parts := by
  have clean {part} (hp : part ∈ parts) : ∀ x ∈ part, (x == sep) = false := by
    intro x hx
    rw [beq_eq_false_iff_ne]
    rintro rfl
    exact h part hp hx
  induction parts with
  | nil => exact absurd rfl hne
  | cons part rest ih =>
    cases rest with
    | nil => exact segments_of_none (clean List.mem_cons_self)
    | cons next rest =>
      rw [joinWith, List.append_assoc, List.singleton_append,
        segments_append_cons (clean List.mem_cons_self) (by simp)]
      · rw [ih nofun (fun p hp => h p (List.mem_cons_of_mem _ hp)) fun hp =>
          clean (List.mem_cons_of_mem _ hp)]
      · exact nofun

/-- The words on both sides of a blank are told apart from each other. -/
theorem words_append_cons {blank : Char} (hb : isBlank blank = true) (cs later : List Char) :
    words (cs ++ blank :: later) = words cs ++ words later := by
  rw [words, segments_append_sep hb, List.filter_append]
  rfl

theorem words_cons {blank : Char} (hb : isBlank blank = true) (cs : List Char) :
    words (blank :: cs) = words cs := words_append_cons hb [] cs

theorem words_append_blanks {gap : List Char} (hg : ∀ x ∈ gap, isBlank x = true) (cs : List Char) :
    words (gap ++ cs) = words cs := by
  induction gap with
  | nil => rfl
  | cons x gap ih =>
    rw [List.cons_append, words_cons (hg x List.mem_cons_self)]
    exact ih fun y hy => hg y (List.mem_cons_of_mem _ hy)

/-- A text without blanks is its own only word. -/
theorem words_of_solid (hne : word ≠ []) (hw : ∀ x ∈ word, isBlank x = false) :
    words word = [word] := by
  rw [words, segments_of_none hw]
  simp [hne]

theorem mem_of_mem_words {x : Char} (hw : word ∈ words cs) (hx : x ∈ word) : x ∈ cs := by
  have hpart : word ∈ segments isBlank cs := (List.mem_filter.mp hw).1
  exact mem_of_mem_segments hpart hx

/-- A text without blanks is a word of every text in which it stands between blanks. -/
theorem mem_words_cons_append {blank : Char} (hb : isBlank blank = true) (hne : word ≠ [])
    (hw : ∀ x ∈ word, isBlank x = false) (hc : cs = [] ∨ cs.head?.any isBlank = true) :
    word ∈ words (blank :: (word ++ cs)) := by
  rw [words_cons hb]
  cases cs with
  | nil => simp [words_of_solid hne hw]
  | cons x rest =>
    have hx : isBlank x = true := by simpa using hc
    rw [words_append_cons hx, words_of_solid hne hw]
    simp

end PodNetwork.Text
