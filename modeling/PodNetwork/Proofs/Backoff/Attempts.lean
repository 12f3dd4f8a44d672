import Mathlib.Tactic.Linarith
import PodNetwork.Backoff

/-! How retrying goes on and how it ends.

An attempt that fails is followed by a pause and the next attempt, unless it was the last one that
is allowed. The delay that is left behind can be waited for again, however it is scaled, so a run
of failed attempts goes on as it began. It ends with the first success, or with the error of the
last attempt. -/
namespace PodNetwork

def Growth.Nonnegative : Growth → Prop
  | .factor value => 0 ≤ value
  | .infinite negative => negative = false
  | .undefined => False

def spaced (pauses : List Rat) : List RetryEvent :=
  pauses.flatMap fun delay => [.attempt, .pause delay]

namespace RetryRun

variable {ε α : Type} {outcome : RetryEnd ε α}

@[simp] theorem pauses_after (run : RetryRun ε α) (pauses : List Rat) :
    (run.after (spaced pauses)).pauses = pauses ++ run.pauses := by
  induction pauses with
  | nil => rfl
  | cons delay rest ih => exact congrArg (delay :: ·) ih

@[simp] theorem attempts_after (run : RetryRun ε α) (pauses : List Rat) :
    (run.after (spaced pauses)).attempts = pauses.length + run.attempts := by
  induction pauses with
  | nil => exact (Nat.zero_add _).symm
  | cons delay rest ih =>
    have first : (run.after (spaced (delay :: rest))).attempts =
        (run.after (spaced rest)).attempts + 1 := by simp [attempts, after, spaced]
    rw [first, ih, List.length_cons]
    omega

theorem after_after (run : RetryRun ε α) (early late : List RetryEvent) :
    (run.after late).after early = run.after (early ++ late) := by simp [after]

/-- A run that is over with an attempt, counted from one. One pause is made after each attempt
before it, and none after it. -/
structure EndsAt (run : RetryRun ε α) (last : Nat) (outcome : RetryEnd ε α) : Prop where
  outcome_eq : run.outcome = outcome
  attempts_eq : run.attempts = last
  pauses_length : run.pauses.length + 1 = last
  events_eq : run.events = spaced run.pauses ++ [.attempt]

/-- A run that is not over with a number of attempts, each of which was followed by one pause. -/
structure GoesOn (run : RetryRun ε α) (attempts : Nat) : Prop where
  outcome_eq : run.outcome = .unfinished
  attempts_eq : run.attempts = attempts
  pauses_length : run.pauses.length = attempts
  events_eq : run.events = spaced run.pauses

theorem endsAt_after (outcome : RetryEnd ε α) (pauses : List Rat) :
    EndsAt (after ⟨outcome, [.attempt]⟩ (spaced pauses)) (pauses.length + 1) outcome := by
  have all : (after ⟨outcome, [.attempt]⟩ (spaced pauses)).pauses = pauses :=
    (pauses_after _ _).trans (List.append_nil _)
  exact {
    outcome_eq := rfl
    attempts_eq := attempts_after _ _
    pauses_length := by rw [all]
    events_eq := by rw [all]; rfl }

theorem goesOn_after (pauses : List Rat) :
    GoesOn (after (⟨.unfinished, []⟩ : RetryRun ε α) (spaced pauses)) pauses.length := by
  have all : (after (⟨.unfinished, []⟩ : RetryRun ε α) (spaced pauses)).pauses = pauses :=
    (pauses_after _ _).trans (List.append_nil _)
  exact {
    outcome_eq := rfl
    attempts_eq := attempts_after _ _
    pauses_length := by rw [all]
    events_eq := by rw [all]; exact List.append_nil _ }

end RetryRun

namespace RetryPlan

/-- The factors that may be drawn for a pause. -/
def IsJitter (factor : Rat) : Prop := 1 / 2 ≤ factor ∧ factor < 3 / 2

/-- A plan whose pauses can all be waited for, whatever is drawn. -/
structure Feasible (plan : RetryPlan) : Prop where
  growth : plan.growth.Nonnegative
  initial : IsDuration (3 / 2 * plan.initialDelay)
  longest : IsDuration (3 / 2 * plan.maxDelay)

/-- How retrying has to end, and with which attempt: with the first success, or with the error of
the last attempt that is allowed. -/
inductive Verdict {ε α : Type} (plan : RetryPlan) (results : Nat → Except ε α) :
    Nat → RetryEnd ε α → Prop where
  | success {first : Nat} {a : α} (positive : 0 < first)
      (failed : ∀ i, 0 < i → i < first → ∃ e, results i = .error e)
      (succeeded : results first = .ok a)
      (allowed : plan.maxAttempts ≠ 0 → first ≤ plan.maxAttempts) :
      Verdict plan results first (.success a)
  | failure {e : ε} (limited : plan.maxAttempts ≠ 0)
      (failed : ∀ i, 0 < i → i < plan.maxAttempts → ∃ e, results i = .error e)
      (last : results plan.maxAttempts = .error e) :
      Verdict plan results plan.maxAttempts (.failure e)

section

variable {plan : RetryPlan} {delay later factor : Rat}

theorem exhausted_iff {attempt : Nat} :
    plan.exhausted attempt = true ↔ plan.maxAttempts ≠ 0 ∧ plan.maxAttempts ≤ attempt := by
  simp [exhausted]

theorem exhausted_eq_false_iff {attempt : Nat} :
    plan.exhausted attempt = false ↔ (plan.maxAttempts ≠ 0 → attempt < plan.maxAttempts) := by
  simp [exhausted]

/-- A delay that has grown is no longer than the longest one, and not negative. -/
theorem nextDelay?_bounds (longest : 0 ≤ plan.maxDelay) (h : plan.nextDelay? delay = some later) :
    0 ≤ later ∧ later ≤ plan.maxDelay := by
  unfold nextDelay? at h
  split at h
  · next f _ =>
    dsimp only at h
    rw [← min_def] at h
    split at h
    · cases h
    · next nonneg =>
      obtain rfl := Option.some.inj h
      exact ⟨not_lt.mp nonneg, min_le_right _ _⟩
  · split at h
    · cases h
    · exact Option.some.inj h ▸ ⟨longest, le_refl _⟩
  · exact Option.some.inj h ▸ ⟨longest, le_refl _⟩

theorem exists_nextDelay? (growth : plan.growth.Nonnegative) (longest : 0 ≤ plan.maxDelay)
    (nonneg : 0 ≤ delay) : ∃ later, plan.nextDelay? delay = some later := by
  unfold nextDelay?
  cases hgrowth : plan.growth with
  | factor f =>
    have positive : 0 ≤ f := by simpa [hgrowth, Growth.Nonnegative] using growth
    have grown : 0 ≤ delay * f := mul_nonneg nonneg positive
    have capped : ¬ (if delay * f ≤ plan.maxDelay then delay * f else plan.maxDelay) < 0 := by
      split
      · exact not_lt.mpr grown
      · exact not_lt.mpr longest
    exact ⟨_, if_neg capped⟩
  | infinite negative =>
    have positive : negative = false := by simpa [hgrowth, Growth.Nonnegative] using growth
    exact ⟨plan.maxDelay, by simp [positive]⟩
  | undefined => exact ⟨plan.maxDelay, rfl⟩

theorem scaled_le (nonneg : 0 ≤ delay) (drawn : IsJitter factor) :
    delay * factor ≤ 3 / 2 * delay := by
  linarith [mul_le_mul_of_nonneg_left drawn.2.le nonneg]

theorem nonneg_of_isDuration (fits : IsDuration (3 / 2 * delay)) : 0 ≤ delay := by
  linarith [fits.1]

theorem isDuration_pause (fits : IsDuration (3 / 2 * delay)) (drawn : IsJitter factor) :
    IsDuration (delay * factor) := by
  have nonneg := nonneg_of_isDuration fits
  exact ⟨mul_nonneg nonneg (by linarith [drawn.1]), (scaled_le nonneg drawn).trans_lt fits.2⟩

theorem Feasible.exists_nextDelay? (feasible : plan.Feasible) (fits : IsDuration (3 / 2 * delay)) :
    ∃ later, plan.nextDelay? delay = some later ∧ IsDuration (3 / 2 * later) := by
  have longest := nonneg_of_isDuration feasible.longest
  obtain ⟨later, grown⟩ :=
    RetryPlan.exists_nextDelay? feasible.growth longest (nonneg_of_isDuration fits)
  obtain ⟨nonneg, capped⟩ := nextDelay?_bounds longest grown
  exact ⟨later, grown, by linarith, by linarith [feasible.longest.2]⟩

end

section

variable {ε α : Type} {plan : RetryPlan} {jitter : Nat → Rat} {results : Nat → Except ε α}
  {fuel done : Nat} {delay : Rat}

theorem runFrom_success {a : α} (succeeded : results (done + 1) = .ok a) :
    plan.runFrom jitter results (fuel + 1) done delay = ⟨.success a, [.attempt]⟩ := by
  simp only [runFrom, succeeded]

theorem runFrom_failure {e : ε} (failed : results (done + 1) = .error e)
    (last : plan.exhausted (done + 1) = true) :
    plan.runFrom jitter results (fuel + 1) done delay = ⟨.failure e, [.attempt]⟩ := by
  simp only [runFrom, failed, last, if_true]

/-- A failed attempt that is not the last one allowed is followed by one pause. -/
theorem runFrom_error (feasible : plan.Feasible) (drawn : ∀ i, IsJitter (jitter i))
    (fits : IsDuration (3 / 2 * delay)) (failed : ∃ e, results (done + 1) = .error e)
    (allowed : plan.exhausted (done + 1) = false) :
    ∃ later, IsDuration (3 / 2 * later) ∧ ∀ fuel,
      plan.runFrom jitter results (fuel + 1) done delay =
        (plan.runFrom jitter results fuel (done + 1) later).after
          (spaced [delay * jitter (done + 1)]) := by
  obtain ⟨e, failed⟩ := failed
  obtain ⟨later, grown, later_fits⟩ := feasible.exists_nextDelay? fits
  have waited : IsDuration (delay * jitter (done + 1)) := isDuration_pause fits (drawn _)
  refine ⟨later, later_fits, fun fuel => ?_⟩
  simp only [runFrom, failed, allowed, waited, grown, if_true, Bool.false_eq_true, if_false]
  rfl

/-- What one such attempt does, any number of them do one after the other. -/
theorem runFrom_errors (feasible : plan.Feasible) (drawn : ∀ i, IsJitter (jitter i)) (n : Nat)
    (fits : IsDuration (3 / 2 * delay))
    (failed : ∀ i, done < i → i ≤ done + n → ∃ e, results i = .error e)
    (allowed : ∀ i, done < i → i ≤ done + n → plan.exhausted i = false) :
    ∃ pauses later, pauses.length = n ∧ ∀ fuel,
      plan.runFrom jitter results (fuel + n) done delay =
        (plan.runFrom jitter results fuel (done + n) later).after (spaced pauses) := by
  induction n generalizing done delay with
  | zero => exact ⟨[], delay, rfl, fun fuel => rfl⟩
  | succ n ih =>
    obtain ⟨later, later_fits, first⟩ := runFrom_error feasible drawn fits
      (failed (done + 1) (by omega) (by omega)) (allowed (done + 1) (by omega) (by omega))
    have still_failed : ∀ i, done + 1 < i → i ≤ done + 1 + n → ∃ e, results i = .error e :=
      fun i above below => failed i (by omega) (by omega)
    have still_allowed : ∀ i, done + 1 < i → i ≤ done + 1 + n → plan.exhausted i = false :=
      fun i above below => allowed i (by omega) (by omega)
    obtain ⟨pauses, last, length, rest⟩ := ih later_fits still_failed still_allowed
    refine ⟨delay * jitter (done + 1) :: pauses, last, by rw [List.length_cons, length], ?_⟩
    intro fuel
    have shift : done + 1 + n = done + (n + 1) := by omega
    rw [← Nat.add_assoc, first, rest, RetryRun.after_after, shift]
    rfl

/-- The attempts before the one that decides are made with pauses in between. -/
theorem run_errors (feasible : plan.Feasible) (drawn : ∀ i, IsJitter (jitter i)) (n : Nat)
    (failed : ∀ i, 0 < i → i ≤ n → ∃ e, results i = .error e)
    (allowed : plan.maxAttempts ≠ 0 → n < plan.maxAttempts) :
    ∃ pauses later, pauses.length = n ∧ ∀ fuel,
      plan.run jitter results (fuel + n) =
        (plan.runFrom jitter results fuel n later).after (spaced pauses) := by
  have all_failed : ∀ i, 0 < i → i ≤ 0 + n → ∃ e, results i = .error e :=
    fun i above below => failed i above (by omega)
  have all_allowed : ∀ i, 0 < i → i ≤ 0 + n → plan.exhausted i = false := by
    intro i above below
    refine exhausted_eq_false_iff.mpr fun limited => ?_
    have more := allowed limited
    omega
  obtain ⟨pauses, later, length, ran⟩ :=
    runFrom_errors feasible drawn n feasible.initial all_failed all_allowed
  refine ⟨pauses, later, length, fun fuel => ?_⟩
  rw [run, ran, Nat.zero_add]

/-- Retrying is over with the first attempt behind failed ones that is not followed by another. -/
theorem run_endsAt (feasible : plan.Feasible) (drawn : ∀ i, IsJitter (jitter i)) {n : Nat}
    {outcome : RetryEnd ε α} (failed : ∀ i, 0 < i → i ≤ n → ∃ e, results i = .error e)
    (allowed : plan.maxAttempts ≠ 0 → n < plan.maxAttempts)
    (ended : ∀ fuel delay, plan.runFrom jitter results (fuel + 1) n delay = ⟨outcome, [.attempt]⟩)
    {bound : Nat} (enough : n + 1 ≤ bound) :
    (plan.run jitter results bound).EndsAt (n + 1) outcome := by
  obtain ⟨pauses, later, length, ran⟩ := run_errors feasible drawn n failed allowed
  obtain ⟨fuel, rfl⟩ : ∃ fuel, bound = fuel + 1 + n := ⟨bound - (n + 1), by omega⟩
  rw [ran, ended, ← length]
  exact RetryRun.endsAt_after outcome pauses

theorem run_of_verdict (feasible : plan.Feasible) (drawn : ∀ i, IsJitter (jitter i)) {last : Nat}
    {outcome : RetryEnd ε α} (verdict : Verdict plan results last outcome) {bound : Nat}
    (enough : last ≤ bound) : (plan.run jitter results bound).EndsAt last outcome := by
  cases verdict with
  | success positive failed succeeded allowed =>
    obtain ⟨n, rfl⟩ := Nat.exists_eq_add_of_lt positive
    rw [Nat.zero_add] at *
    refine run_endsAt feasible drawn (fun i above below => failed i above (by omega))
      (fun limited => ?_) (fun fuel delay => runFrom_success succeeded) enough
    exact allowed limited
  | failure limited failed last =>
    obtain ⟨n, allowed⟩ := Nat.exists_eq_succ_of_ne_zero limited
    rw [allowed] at failed last enough ⊢
    refine run_endsAt feasible drawn (fun i above below => failed i above (by omega))
      (fun _ => by omega) (fun fuel delay => runFrom_failure last ?_) enough
    exact exhausted_iff.mpr ⟨limited, by omega⟩

/-- A limit always leads to a verdict. -/
theorem exists_verdict (results : Nat → Except ε α) (limited : plan.maxAttempts ≠ 0) :
    ∃ last outcome, last ≤ plan.maxAttempts ∧ Verdict plan results last outcome := by
  have error_or_ok (i : Nat) : (∃ e, results i = .error e) ∨ ∃ a, results i = .ok a := by
    cases results i with
    | error e => exact .inl ⟨e, rfl⟩
    | ok a => exact .inr ⟨a, rfl⟩
  by_cases success : ∃ i, 0 < i ∧ i ≤ plan.maxAttempts ∧ ∃ a, results i = .ok a
  · -- the least such attempt decides, as all before it fail
    classical
    obtain ⟨positive, allowed, a, succeeded⟩ := Nat.find_spec success
    refine ⟨Nat.find success, .success a, allowed, .success positive ?_ succeeded fun _ => allowed⟩
    intro i above below
    refine (error_or_ok i).resolve_right fun ok => Nat.find_min success below ?_
    exact ⟨above, by omega, ok⟩
  · have failed (i : Nat) (above : 0 < i) (below : i ≤ plan.maxAttempts) :
        ∃ e, results i = .error e :=
      (error_or_ok i).resolve_right fun ok => success ⟨i, above, below, ok⟩
    obtain ⟨e, last⟩ := failed plan.maxAttempts (by omega) (le_refl _)
    exact ⟨_, _, le_refl _, .failure limited (fun i above below => failed i above below.le) last⟩

theorem run_of_errors (feasible : plan.Feasible) (drawn : ∀ i, IsJitter (jitter i))
    (unlimited : plan.maxAttempts = 0) {bound : Nat}
    (failed : ∀ i, 0 < i → i ≤ bound → ∃ e, results i = .error e) :
    (plan.run jitter results bound).GoesOn bound := by
  obtain ⟨pauses, later, length, ran⟩ :=
    run_errors feasible drawn bound failed fun limited => absurd unlimited limited
  have all := ran 0
  rw [Nat.zero_add] at all
  rw [all, ← length]
  exact RetryRun.goesOn_after pauses

/-- Retrying ends with its verdict, in exactly as many attempts as that takes and with one pause
between any two of them; a limit always leads to a verdict. Without a limit it goes on as long as
the attempts fail. -/
theorem run_course (feasible : plan.Feasible) (drawn : ∀ i, IsJitter (jitter i))
    (results : Nat → Except ε α) :
    (plan.maxAttempts ≠ 0 →
      ∃ last outcome, last ≤ plan.maxAttempts ∧ Verdict plan results last outcome) ∧
    (∀ last outcome, Verdict plan results last outcome → ∀ bound, last ≤ bound →
      (plan.run jitter results bound).EndsAt last outcome) ∧
    (plan.maxAttempts = 0 → ∀ bound, (∀ i, 0 < i → i ≤ bound → ∃ e, results i = .error e) →
      (plan.run jitter results bound).GoesOn bound) :=
  ⟨exists_verdict results, fun _ _ verdict _ enough => run_of_verdict feasible drawn verdict enough,
    fun unlimited _ failed => run_of_errors feasible drawn unlimited failed⟩

theorem feasible_discovery : Feasible discovery where
  growth := by
    change (0 : Rat) ≤ 2
    norm_num
  initial := by norm_num [IsDuration, discovery]
  longest := by norm_num [IsDuration, discovery]

/-- A server that is there only at the third attempt. -/
def lateAnswer (attempt : Nat) : Except String Nat :=
  if attempt < 3 then .error "not found" else .ok attempt

theorem run_course_lateAnswer :
    Feasible discovery ∧ IsJitter (5 / 4) ∧
      (discovery.run (fun _ => 5 / 4) lateAnswer 5).EndsAt 3 (.success 3) := by
  have drawn : IsJitter (5 / 4) := by norm_num [IsJitter]
  have failed : ∀ i, 0 < i → i < 3 → ∃ e, lateAnswer i = .error e :=
    fun i _ below => ⟨_, if_pos below⟩
  refine ⟨feasible_discovery, drawn, ?_⟩
  exact (run_course feasible_discovery (fun _ => drawn) lateAnswer).2.1 _ _
    (.success (by decide) failed rfl (by decide)) 5 (by decide)

end

end RetryPlan

end PodNetwork
