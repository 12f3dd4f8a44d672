import Mathlib.Tactic.FieldSimp
import PodNetwork.Proofs.Backoff.Attempts

/-! How long the pauses between attempts are.

The longest delay of a plan bounds what a delay grows to. It does not bound the first delay, and it
is applied before a pause is scaled by the factor that is drawn for it. So a pause can be longer
than the longest delay, by half of it if the first delay is not longer either. -/
namespace PodNetwork.RetryPlan

/-- The delay, before jitter, after a number of attempts and one more that fail. -/
def delayAfter? (plan : RetryPlan) (attempts : Nat) : Option Rat :=
  (plan.delaysFrom (attempts + 1) plan.initialDelay)[attempts]?

/-- Whether no pause is longer than the longest delay, whatever is drawn and however often attempts
fail. -/
def Capped {ε : Type} (plan : RetryPlan) (errors : Nat → ε) : Prop :=
  ∀ jitter : Nat → Rat, (∀ i, IsJitter (jitter i)) → ∀ bound,
    ∀ pause ∈ (plan.run jitter (fun i => (.error (errors i) : Except ε Unit)) bound).pauses,
      pause ≤ plan.maxDelay

section

variable {plan : RetryPlan} {i n : Nat} {delay nominal : Rat}

theorem delaysFrom_succ :
    plan.delaysFrom (n + 1) delay =
      delay :: ((plan.nextDelay? delay).map (plan.delaysFrom n)).getD [] := by
  rw [delaysFrom]
  cases plan.nextDelay? delay <;> rfl

/-- Only the first delay is not held below the longest one. -/
theorem delaysFrom_bounds (longest : 0 ≤ plan.maxDelay)
    (h : (plan.delaysFrom n delay)[i]? = some nominal) :
    i = 0 ∧ nominal = delay ∨ 0 < i ∧ 0 ≤ nominal ∧ nominal ≤ plan.maxDelay := by
  induction n generalizing delay i with
  | zero => cases h
  | succ n ih =>
    rw [delaysFrom_succ] at h
    cases i with
    | zero => exact .inl ⟨rfl, (Option.some.inj h).symm⟩
    | succ i =>
      right
      rw [List.getElem?_cons_succ] at h
      cases grown : plan.nextDelay? delay with
      | none =>
        rw [grown] at h
        cases h
      | some later =>
        rw [grown] at h
        have bounds := nextDelay?_bounds longest grown
        rcases ih h with ⟨-, rfl⟩ | ⟨-, nonneg, capped⟩
        · exact ⟨Nat.succ_pos i, bounds⟩
        · exact ⟨Nat.succ_pos i, nonneg, capped⟩

end

section

variable {ε α : Type} {plan : RetryPlan} {jitter : Nat → Rat} {results : Nat → Except ε α}

/-- An attempt makes no pause, or one pause with those behind it that the grown delay leads to. -/
theorem pauses_runFrom_succ (plan : RetryPlan) (jitter : Nat → Rat) (results : Nat → Except ε α)
    (fuel done : Nat) (delay : Rat) :
    (plan.runFrom jitter results (fuel + 1) done delay).pauses = [] ∨
      plan.exhausted (done + 1) = false ∧ ∃ rest,
        (plan.runFrom jitter results (fuel + 1) done delay).pauses =
          delay * jitter (done + 1) :: rest ∧
        (rest = [] ∨ ∃ later, plan.nextDelay? delay = some later ∧
          rest = (plan.runFrom jitter results fuel (done + 1) later).pauses) := by
  rw [runFrom]
  dsimp only
  split
  · exact .inl rfl
  split
  · exact .inl rfl
  next allowed =>
  split
  · refine .inr ⟨Bool.eq_false_iff.mpr allowed, ?_⟩
    cases grown : plan.nextDelay? delay with
    | none => exact ⟨[], rfl, .inl rfl⟩
    | some later => exact ⟨_, rfl, .inr ⟨later, rfl, rfl⟩⟩
  · exact .inl rfl

/-- The pause after an attempt is the delay that its number leads to, scaled by the factor drawn
for it, and there is none after the last attempt allowed. -/
theorem pause_runFrom {fuel done i : Nat} {delay pause : Rat}
    (h : (plan.runFrom jitter results fuel done delay).pauses[i]? = some pause) :
    (∃ nominal, (plan.delaysFrom (i + 1) delay)[i]? = some nominal ∧
      pause = nominal * jitter (done + i + 1)) ∧
      (plan.maxAttempts ≠ 0 → done + i + 1 < plan.maxAttempts) := by
  induction fuel generalizing done delay i with
  | zero => cases h
  | succ fuel ih =>
    rcases pauses_runFrom_succ plan jitter results fuel done delay with
      none_made | ⟨allowed, rest, made, later_made⟩
    · rw [none_made] at h
      cases h
    rw [made] at h
    cases i with
    | zero =>
      obtain rfl := Option.some.inj h
      exact ⟨⟨delay, rfl, rfl⟩, exhausted_eq_false_iff.mp allowed⟩
    | succ i =>
      rw [List.getElem?_cons_succ] at h
      rcases later_made with rfl | ⟨later, grown, rfl⟩
      · cases h
      obtain ⟨⟨nominal, found, scaled⟩, more⟩ := ih h
      have shift : done + 1 + i + 1 = done + (i + 1) + 1 := by omega
      rw [shift] at scaled more
      refine ⟨⟨nominal, ?_, scaled⟩, more⟩
      rw [delaysFrom_succ, grown]
      exact found

/-- What stays below a bound for every factor that may be drawn leaves room for half as much
again. -/
theorem three_halves_le {delay bound : Rat} (bound_nonneg : 0 ≤ bound)
    (h : ∀ factor, IsJitter factor → delay * factor ≤ bound) : 3 / 2 * delay ≤ bound := by
  by_contra longer
  rw [not_le] at longer
  have positive : 0 < delay := by linarith
  -- a factor half way between the one that just keeps the bound and the least upper bound of all
  have ratio : 0 ≤ bound / delay ∧ bound / delay < 3 / 2 :=
    ⟨div_nonneg bound_nonneg positive.le, (div_lt_iff₀ positive).mpr longer⟩
  have kept := h ((bound / delay + 3 / 2) / 2) ⟨by linarith, by linarith⟩
  have product : delay * ((bound / delay + 3 / 2) / 2) = (bound + 3 / 2 * delay) / 2 := by
    field_simp
  linarith

theorem delayAfter?_bounds (initial : 0 ≤ plan.initialDelay) (longest : 0 ≤ plan.maxDelay) {i : Nat}
    {delay : Rat} (found : plan.delayAfter? i = some delay) :
    0 ≤ delay ∧ delay ≤ if i = 0 then plan.initialDelay else plan.maxDelay := by
  rcases delaysFrom_bounds longest found with ⟨rfl, rfl⟩ | ⟨positive, nonneg, capped⟩
  · exact ⟨initial, by rw [if_pos rfl]⟩
  · exact ⟨nonneg, by rwa [if_neg positive.ne']⟩

/-- The first pause is at most half as long again as the first delay, and every other one at most
half as long again as the longest delay. -/
theorem pause_run_le (initial : 0 ≤ plan.initialDelay) (longest : 0 ≤ plan.maxDelay)
    (drawn : ∀ i, IsJitter (jitter i)) {bound i : Nat} {pause : Rat}
    (h : (plan.run jitter results bound).pauses[i]? = some pause) :
    (∃ delay, plan.delayAfter? i = some delay ∧ pause = delay * jitter (i + 1)) ∧
      pause ≤ 3 / 2 * if i = 0 then plan.initialDelay else plan.maxDelay := by
  obtain ⟨⟨delay, found, scaled⟩, -⟩ := pause_runFrom h
  rw [Nat.zero_add] at scaled
  obtain ⟨nonneg, bounded⟩ := delayAfter?_bounds initial longest found
  refine ⟨⟨delay, found, scaled⟩, ?_⟩
  calc
    pause = delay * jitter (i + 1) := scaled
    _ ≤ 3 / 2 * delay := scaled_le nonneg (drawn _)
    _ ≤ 3 / 2 * if i = 0 then plan.initialDelay else plan.maxDelay := by linarith

/-- A pause that a plan allows is made if all attempts fail. -/
theorem exists_pause (feasible : plan.Feasible) (drawn : ∀ i, IsJitter (jitter i))
    (results : Nat → Except ε α) (failed : ∀ i, ∃ e, results i = .error e) {i : Nat}
    (allowed : plan.maxAttempts ≠ 0 → i + 1 < plan.maxAttempts) :
    ∃ pause, (plan.run jitter results (i + 1)).pauses[i]? = some pause := by
  obtain ⟨pauses, later, length, ran⟩ :=
    run_errors feasible drawn (i + 1) (fun i _ _ => failed i) allowed
  have all := ran 0
  rw [Nat.zero_add] at all
  rw [all, RetryRun.pauses_after, List.getElem?_append_left (by omega)]
  exact ⟨_, List.getElem?_eq_getElem (by omega)⟩

/-- The longest delay bounds all pauses just if all delays leave room to be scaled. -/
theorem capped_iff (feasible : plan.Feasible) (errors : Nat → ε) :
    plan.Capped errors ↔
      ∀ i delay, (plan.maxAttempts ≠ 0 → i + 1 < plan.maxAttempts) →
        plan.delayAfter? i = some delay → 3 / 2 * delay ≤ plan.maxDelay := by
  have initial := nonneg_of_isDuration feasible.initial
  have longest := nonneg_of_isDuration feasible.longest
  constructor
  · intro capped i delay allowed found
    refine three_halves_le longest fun factor drawn => ?_
    obtain ⟨pause, made⟩ := exists_pause feasible (fun _ => drawn)
      (fun i => (.error (errors i) : Except ε Unit)) (fun i => ⟨_, rfl⟩) allowed
    obtain ⟨⟨nominal, same, scaled⟩, -⟩ := pause_runFrom made
    obtain rfl := Option.some.inj (found.symm.trans same)
    rw [← scaled]
    exact capped _ (fun _ => drawn) _ _ (List.mem_of_getElem? made)
  · intro room jitter drawn bound pause hpause
    obtain ⟨i, made⟩ := List.getElem?_of_mem hpause
    obtain ⟨⟨delay, found, scaled⟩, allowed⟩ := pause_runFrom made
    rw [Nat.zero_add] at scaled allowed
    calc
      pause = delay * jitter (i + 1) := scaled
      _ ≤ 3 / 2 * delay := scaled_le (delayAfter?_bounds initial longest found).1 (drawn _)
      _ ≤ plan.maxDelay := room i delay allowed found

/-- Every pause is one of the plan's delays, scaled, and at most half as long again as what bounds
that delay: the first delay for the first pause, the longest delay for every other one. The longest
delay bounds the pauses themselves just if all delays leave room to be scaled. -/
theorem pauses_bound (initial : 0 ≤ plan.initialDelay) (longest : 0 ≤ plan.maxDelay) :
    (∀ (jitter : Nat → Rat) (results : Nat → Except ε α), (∀ i, IsJitter (jitter i)) →
      ∀ bound i pause, (plan.run jitter results bound).pauses[i]? = some pause →
        (∃ delay, plan.delayAfter? i = some delay ∧ pause = delay * jitter (i + 1)) ∧
          pause ≤ 3 / 2 * if i = 0 then plan.initialDelay else plan.maxDelay) ∧
    (plan.Feasible → ∀ errors : Nat → ε, plan.Capped errors ↔
      ∀ i delay, (plan.maxAttempts ≠ 0 → i + 1 < plan.maxAttempts) →
        plan.delayAfter? i = some delay → 3 / 2 * delay ≤ plan.maxDelay) :=
  ⟨fun _ _ drawn _ _ _ made => pause_run_le initial longest drawn made,
    fun feasible errors => capped_iff feasible errors⟩

/-- A plan that begins with a delay longer than its longest one. -/
def headlong : RetryPlan where
  maxAttempts := 2
  initialDelay := 4000
  maxDelay := 1000
  growth := .factor 1

theorem feasible_headlong : Feasible headlong where
  growth := by
    change (0 : Rat) ≤ 1
    norm_num
  initial := by norm_num [IsDuration, headlong]
  longest := by norm_num [IsDuration, headlong]

theorem pauses_bound_headlong :
    0 ≤ headlong.initialDelay ∧ 0 ≤ headlong.maxDelay ∧ Feasible headlong ∧
      ¬ headlong.Capped fun _ => "not found" := by
  have initial : 0 ≤ headlong.initialDelay := by norm_num [headlong]
  have longest : 0 ≤ headlong.maxDelay := by norm_num [headlong]
  refine ⟨initial, longest, feasible_headlong, fun capped => ?_⟩
  have room := ((pauses_bound (α := Unit) initial longest).2 feasible_headlong _).mp capped 0 4000
    (fun _ => by decide) rfl
  norm_num [headlong] at room

end

end PodNetwork.RetryPlan
