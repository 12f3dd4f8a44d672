import PodNetwork.Json.Reader
import PodNetwork.Proofs.Json.Grammar
import PodNetwork.Proofs.Text.Cuts

/-! Reading finds the number of every numeral.

A numeral is cut behind its whole digits, behind its fraction and behind its exponent; each part
begins with a character that the part before it cannot have. -/
namespace PodNetwork.Json

open Grammar

variable {digits places fraction exponent text : List Char} {power : Int} {n : Number}

theorem foldl_eq_count (digits : List Char) :
    digits.foldl (fun n d => 10 * n + (d.toNat - 48)) 0 = count digits := rfl

theorem numeral?_append (hdigits : IsDigits digits) (hfraction : Fraction places fraction)
    (hexponent : Exponent power exponent) :
    Binary64.numeral? (digits ++ (fraction ++ exponent)) =
      some (count (digits ++ places), power - places.length) := by
  obtain ⟨hrun, hrest⟩ := Text.span_append hdigits.digit (hfraction.head_append hexponent)
  have ne : digits.isEmpty = false := by simpa using hdigits.ne
  have behind : ∀ c ∈ exponent.head?, c.isDigit = false := Fraction.none.head_append hexponent
  unfold Binary64.numeral?
  simp only [hrun, hrest, ne, Bool.false_and, Bool.false_eq_true, if_false, foldl_eq_count]
  cases hexponent with
  | none =>
    cases hfraction with
    | none => simp
    | point h =>
      obtain ⟨hplaces, hbehind⟩ := Text.span_append h.digit behind
      simp only [List.cons_append, hplaces, hbehind, Int.zero_sub]
  | power hmark hsign h =>
    have all := h.all
    obtain ⟨d, ds, rfl, -, minus, plus⟩ := h.exists_cons
    simp only [exponentSigns, List.mem_cons, List.not_mem_nil, or_false, Prod.mk.injEq]
      at hmark hsign
    cases hfraction with
    | none =>
      rcases hmark with rfl | rfl <;> rcases hsign with ⟨rfl, rfl⟩ | ⟨rfl, rfl⟩ | ⟨rfl, rfl⟩ <;>
        simp [all, minus, plus]
    | point h =>
      obtain ⟨hplaces, hbehind⟩ := Text.span_append h.digit behind
      simp only [List.cons_append, hplaces, hbehind]
      rcases hmark with rfl | rfl <;> rcases hsign with ⟨rfl, rfl⟩ | ⟨rfl, rfl⟩ | ⟨rfl, rfl⟩ <;>
        simp [all, minus, plus]

theorem ofText?_append (negative : Bool) (hdigits : IsDigits digits)
    (hfraction : Fraction places fraction) (hexponent : Exponent power exponent) :
    Binary64.ofText? (sign negative ++ (digits ++ (fraction ++ exponent))) =
      some (.ofDecimal negative (count (digits ++ places)) (power - places.length)) := by
  have read := numeral?_append hdigits hfraction hexponent
  obtain ⟨d, ds, rfl, -, minus, plus⟩ := hdigits.exists_cons
  unfold Binary64.ofText?
  rw [List.cons_append] at read ⊢
  cases negative <;> simp [sign, minus, plus, read]

theorem isPlain_append (hdigits : IsWhole digits) (hfraction : Fraction places fraction)
    (hexponent : Exponent power exponent) :
    isPlain (digits ++ (fraction ++ exponent)) = true := by
  obtain ⟨hrun, hrest⟩ := Text.span_append hdigits.digit (hfraction.head_append hexponent)
  have lead : (digits == ['0'] || digits.head?.any (· != '0')) = true := by
    obtain ⟨d, ds, rfl⟩ := List.exists_cons_of_ne_nil hdigits.ne
    by_cases h : d = '0'
    · simp [hdigits.lead (congrArg some h)]
    · simp [h]
  simp only [isPlain, hrun, hrest, lead, Bool.true_and]
  cases hfraction with
  | none =>
    cases hexponent with
    | none => rfl
    | power hmark =>
      simp only [List.mem_cons, List.not_mem_nil, or_false] at hmark
      rcases hmark with rfl | rfl <;> rfl
  | point h =>
    obtain ⟨d, ds, rfl, digit, -⟩ := h.exists_cons
    exact digit

/-- A numeral has nothing but digits if there is nothing behind its whole digits. -/
theorem all_isDigit_append (hdigits : IsDigits digits) (hfraction : Fraction places fraction)
    (hexponent : Exponent power exponent) :
    (digits ++ (fraction ++ exponent)).all Char.isDigit = (fraction ++ exponent).isEmpty := by
  have behind := hfraction.head_append hexponent
  rw [List.all_append, hdigits.all, Bool.true_and]
  cases h : fraction ++ exponent with
  | nil => rfl
  | cons c rest =>
    rw [h] at behind
    simp [behind c rfl]

theorem fits_false (n : Nat) : fits false n = decide (n < Nat.pow 2 64) := rfl

theorem fits_true (n : Nat) : fits true n = !(decide (n = 0) || decide (n > Nat.pow 2 63)) := by
  rw [Bool.eq_iff_iff, fits, if_pos rfl]
  simp only [Bool.and_eq_true, Bool.not_eq_true', Bool.or_eq_false_iff, decide_eq_true_eq,
    decide_eq_false_iff_not, Nat.pow_eq]
  omega

/-- Only whole digits that fit stay a whole number. -/
theorem numberOf?_append (negative : Bool) (hdigits : IsWhole digits)
    (hfraction : Fraction places fraction) (hexponent : Exponent power exponent) :
    numberOf? (sign negative ++ (digits ++ (fraction ++ exponent))) =
      if fraction ++ exponent = [] ∧ fits negative (count digits) = true then
        some (.whole (if negative then -count digits else count digits))
      else
        let x := Binary64.ofDecimal negative (count (digits ++ places)) (power - places.length)
        if x.isFinite then some (.float x) else none := by
  have plain := isPlain_append hdigits hfraction hexponent
  have all := all_isDigit_append hdigits.toIsDigits hfraction hexponent
  have float := ofText?_append negative hdigits.toIsDigits hfraction hexponent
  obtain ⟨d, ds, rfl, -, minus, -⟩ := hdigits.exists_cons
  generalize fraction ++ exponent = tail at *
  rw [List.cons_append] at plain all float ⊢
  unfold numberOf?
  cases negative with
  | false =>
    rw [sign, if_neg Bool.false_ne_true, List.nil_append] at float ⊢
    simp only [List.cons.injEq, minus, false_and, imp_false, not_false_eq_true, implies_true,
      plain, all, float, foldl_eq_count, fits_false]
    cases tail <;> simp
  | true =>
    rw [sign, if_pos rfl, List.singleton_append] at float ⊢
    simp only [plain, all, float, foldl_eq_count, fits_true]
    cases tail with
    | nil =>
      rw [List.append_nil]
      cases decide (count (d :: ds) = 0) || decide (count (d :: ds) > Nat.pow 2 63) <;> simp
    | cons => simp

theorem numberOf?_numeral (h : Numeral n text) : numberOf? text = some n := by
  cases h with
  | @whole negative digits hdigits fit =>
    have read := numberOf?_append negative hdigits .none .none
    rwa [if_pos ⟨rfl, fit⟩, List.append_nil, List.append_nil] at read
  | @rounded negative digits _ fraction exponent _ _ hdigits hfraction hexponent unfit nearest
      finite =>
    have apart : ¬(fraction ++ exponent = [] ∧ fits negative (count digits) = true) :=
      fun ⟨bare, fit⟩ => Bool.eq_false_iff.mp (unfit bare) fit
    rw [numberOf?_append negative hdigits hfraction hexponent, if_neg apart]
    simp only [nearest, finite, if_true]

theorem isNumeral_of_isDigits (h : IsDigits digits) : ∀ c ∈ digits, isNumeral c = true := by
  intro c hc
  simp [isNumeral, h.digit c hc]

theorem isNumeral_of_sign (negative : Bool) : ∀ c ∈ sign negative, isNumeral c = true := by
  cases negative <;> simp [sign, isNumeral]

theorem isNumeral_of_fraction (h : Fraction places fraction) :
    ∀ c ∈ fraction, isNumeral c = true := by
  cases h with
  | none => exact nofun
  | point h => exact List.forall_mem_cons.mpr ⟨rfl, isNumeral_of_isDigits h⟩

theorem isNumeral_of_exponent (h : Exponent power exponent) :
    ∀ c ∈ exponent, isNumeral c = true := by
  have marks : ∀ mark ∈ ['e', 'E'], isNumeral mark = true := by simp [isNumeral]
  have signs : ∀ entry ∈ exponentSigns, entry.1.all isNumeral = true := by decide
  cases h with
  | none => exact nofun
  | power hmark hsign h =>
    refine List.forall_mem_cons.mpr ⟨marks _ hmark, List.forall_mem_append.mpr ?_⟩
    exact ⟨List.all_eq_true.mp (signs _ hsign), isNumeral_of_isDigits h⟩

/-- A numeral has only the characters that the reader collects for one. -/
theorem isNumeral_of_numeral (h : Numeral n text) : ∀ c ∈ text, isNumeral c = true := by
  cases h with
  | whole hdigits =>
    rw [List.forall_mem_append]
    exact ⟨isNumeral_of_sign _, isNumeral_of_isDigits hdigits.toIsDigits⟩
  | rounded hdigits hfraction hexponent =>
    simp only [List.forall_mem_append]
    exact ⟨isNumeral_of_sign _, isNumeral_of_isDigits hdigits.toIsDigits,
      isNumeral_of_fraction hfraction, isNumeral_of_exponent hexponent⟩

theorem exists_head_append (negative : Bool) (h : IsDigits digits) (tail : List Char) :
    ∃ c rest, sign negative ++ (digits ++ tail) = c :: rest ∧ (c = '-' ∨ c.isDigit = true) := by
  obtain ⟨d, ds, rfl, digit, -⟩ := h.exists_cons
  cases negative with
  | false => exact ⟨d, ds ++ tail, rfl, .inr digit⟩
  | true => exact ⟨'-', d :: ds ++ tail, rfl, .inl rfl⟩

/-- A numeral begins with its sign or with a digit. -/
theorem exists_head_of_numeral (h : Numeral n text) :
    ∃ c rest, text = c :: rest ∧ (c = '-' ∨ c.isDigit = true) := by
  cases h with
  | whole hdigits => simpa using exists_head_append _ hdigits.toIsDigits []
  | rounded hdigits => exact exists_head_append _ hdigits.toIsDigits _

end PodNetwork.Json
