import Mathlib.Algebra.Order.Floor.Div
import PodNetwork.Proofs.Readiness.Polling

/-! The schedule of a wait for pods.

A wait plans each listing for one interval after the listing before it ended, but never for later
than the deadline. A listing may take any time, also beyond the deadline. The measure is the time
that is left: every listing that a wait goes on from was planned for before the deadline, so it
came a whole interval after the listing before it. -/
namespace PodNetwork.Readiness

open Routine
open Procedure (Event)

/-- Whether a listing succeeded and shows at least one pod and only ready ones. -/
def ShowsReady (listing : Listing) : Prop :=
  ∃ pods, listing.pods = .ok pods ∧ pods ≠ [] ∧ ∀ pod ∈ pods, pod.ready = true

theorem isReady_iff {listing : Listing} : isReady listing = true ↔ ShowsReady listing := by
  unfold isReady ShowsReady
  cases listing.pods <;> simp

def elapsed (polls : List Poll) : Nat := (polls.map Poll.time).sum

@[simp] theorem elapsed_nil : elapsed [] = 0 := rfl

@[simp] theorem elapsed_cons (poll : Poll) (polls : List Poll) :
    elapsed (poll :: polls) = poll.time + elapsed polls := rfl

@[simp] theorem elapsed_append (polls more : List Poll) :
    elapsed (polls ++ more) = elapsed polls + elapsed more := by
  simp [elapsed]

/-- When the listings are made of polls that begin at a given time. -/
def starts : Nat → List Poll → List Nat
  | _, [] => []
  | now, poll :: polls => (now + poll.pause) :: starts (now + poll.time) polls

/-- How polls that begin at a given time end a wait: with the first listing that shows ready pods
or, where none does, with one that is made at the deadline or after it. -/
inductive Ends (ns selector : String) (timeout now : Nat) : List Poll → Attempt Unit → Prop where
  | ready (before : List Poll) (last : Poll)
      (unready : ∀ poll ∈ before, ¬ ShowsReady poll.listing) (shown : ShowsReady last.listing) :
      Ends ns selector timeout now (before ++ [last]) (.ok ())
  | late (before : List Poll) (last : Poll)
      (unready : ∀ poll ∈ before ++ [last], ¬ ShowsReady poll.listing)
      (deadline : timeout ≤ now + elapsed before + last.pause) :
      Ends ns selector timeout now (before ++ [last]) (.error (.notReady ns selector timeout))

section

variable {ns selector : String} {timeout now interval : Nat} {poll : Poll} {polls : List Poll}
  {result : Attempt Unit}

theorem Ends.cons (unready : ¬ ShowsReady poll.listing)
    (h : Ends ns selector timeout (now + poll.time) polls result) :
    Ends ns selector timeout now (poll :: polls) result := by
  cases h with
  | ready before last hbefore shown =>
    exact .ready (poll :: before) last (List.forall_mem_cons.mpr ⟨unready, hbefore⟩) shown
  | late before last hpolls deadline =>
    refine .late (poll :: before) last (List.forall_mem_cons.mpr ⟨unready, hpolls⟩) ?_
    rw [elapsed_cons]
    omega

theorem Ends.timeout_le (h : Ends ns selector timeout now polls result)
    (failed : result ≠ .ok ()) : timeout ≤ now + elapsed polls := by
  cases h with
  | ready => exact absurd rfl failed
  | late before last _ deadline =>
    have : elapsed (before ++ [last]) = elapsed before + (last.pause + last.listing.took) := by
      simp [Poll.time]
    omega

theorem Waits.ends (h : Waits ns selector timeout now polls result) :
    Ends ns selector timeout now polls result := by
  induction h with
  | ready shown => exact .ready [] _ (by simp) (isReady_iff.mp shown)
  | @late now poll unready deadline =>
    refine .late [] poll ?_ (by simpa using deadline)
    simpa [← isReady_iff] using unready
  | again unready _ _ ih => exact ih.cons (by simpa [← isReady_iff] using unready)

theorem Waits.length_pos (h : Waits ns selector timeout now polls result) : 0 < polls.length := by
  cases h <;> exact Nat.succ_pos _

/-- A listing before the deadline comes a whole interval after the time its poll began. -/
theorem Paced.pause_eq (h : Paced timeout interval now (poll :: polls))
    (early : now + poll.pause < timeout) : poll.pause = interval := by
  have : poll.pause = min (now + interval) timeout - now := h.1
  omega

/-- All listings but the first take a whole interval of the time before the deadline. -/
theorem Waits.length_eq_one_or_lt (h : Waits ns selector timeout now polls result)
    (paced : Paced timeout interval now polls) :
    polls.length = 1 ∨ now + (polls.length - 1) * interval < timeout := by
  induction h with
  | ready | late => exact .inl rfl
  | @again now poll polls result _ early rest ih =>
    right
    have pause : poll.pause = interval := paced.pause_eq early
    obtain ⟨n, hn⟩ : ∃ n, polls.length = n + 1 := Nat.exists_eq_add_one.mpr rest.length_pos
    have time : poll.time = interval + poll.listing.took := by rw [Poll.time, pause]
    rcases ih paced.2 with one | more
    · simp only [List.length_cons, one]
      omega
    · simp only [List.length_cons, hn, Nat.add_sub_cancel, Nat.succ_mul] at more ⊢
      omega

theorem Waits.length_le (positive : 0 < interval)
    (h : Waits ns selector timeout 0 polls result) (paced : Paced timeout interval 0 polls) :
    polls.length ≤ max 1 (timeout ⌈/⌉ interval) := by
  rcases h.length_eq_one_or_lt paced with one | more
  · exact one ▸ Nat.le_max_left _ _
  · have beyond : ¬ timeout ⌈/⌉ interval ≤ polls.length - 1 := by
      rw [ceilDiv_le_iff_le_mul positive, Nat.mul_comm]
      omega
    omega

/-- A listing that a wait goes on from was planned for before the deadline, so that one listing
delays the plan and one more the end. -/
theorem Waits.elapsed_le {longest : Nat} (h : Waits ns selector timeout now polls result)
    (paced : Paced timeout interval now polls) (soon : now ≤ timeout + longest)
    (short : ∀ poll ∈ polls, poll.listing.took ≤ longest) :
    now + elapsed polls ≤ timeout + 2 * longest := by
  induction h with
  | @ready now poll _ | @late now poll _ _ =>
    have pause : poll.pause = min (now + interval) timeout - now := paced.1
    have took : poll.listing.took ≤ longest := short poll List.mem_cons_self
    simp only [elapsed_cons, elapsed_nil, Poll.time]
    omega
  | @again now poll polls result _ early _ ih =>
    obtain ⟨took, hrest⟩ := List.forall_mem_cons.mp short
    have onward : now + poll.time ≤ timeout + longest := by
      rw [Poll.time]
      omega
    have := ih paced.2 onward hrest
    rw [elapsed_cons]
    omega

/-- Listings that take no time keep to the multiples of the interval up to the deadline. -/
theorem Waits.starts_eq (h : Waits ns selector timeout now polls result)
    (paced : Paced timeout interval now polls) (begun : now ≤ timeout)
    (instant : ∀ poll ∈ polls, poll.listing.took = 0) :
    starts now polls =
      (List.range polls.length).map fun k => min (now + (k + 1) * interval) timeout := by
  induction h with
  | @ready now poll _ | @late now poll _ _ =>
    have pause : poll.pause = min (now + interval) timeout - now := paced.1
    have start : now + poll.pause = min (now + (0 + 1) * interval) timeout := by
      rw [Nat.zero_add, Nat.one_mul]
      omega
    exact congrArg (· :: []) start
  | @again now poll polls result _ early _ ih =>
    obtain ⟨took, hrest⟩ := List.forall_mem_cons.mp instant
    have pause : poll.pause = interval := paced.pause_eq early
    have onward : now + poll.time = now + interval := by rw [Poll.time, pause, took, Nat.add_zero]
    have later := ih paced.2 (by omega) hrest
    rw [starts, later, onward, List.length_cons, List.range_succ_eq_map, List.map_cons,
      List.map_map]
    congr 1
    · rw [Nat.zero_add, Nat.one_mul]
      omega
    · refine List.map_congr_left fun k _ => ?_
      have : (k.succ + 1) * interval = interval + (k + 1) * interval := by
        rw [Nat.succ_mul, Nat.add_comm]
      simp only [Function.comp, this, Nat.add_assoc]

/-- A wait does not depend on the bound on its listings once the bound reaches the deadline. -/
theorem waitFrom_eq_of_enough {rounds other : Nat} (some_left : 0 < rounds)
    (enough : timeout ≤ now + rounds * interval) (some_other : 0 < other)
    (enough_other : timeout ≤ now + other * interval) :
    waitFrom ns selector timeout interval rounds now =
      waitFrom ns selector timeout interval other now := by
  induction rounds generalizing other now with
  | zero => exact absurd some_left (Nat.lt_irrefl 0)
  | succ rounds ih =>
    obtain ⟨other, rfl⟩ := Nat.exists_eq_add_one.mpr some_other
    rw [waitFrom, waitFrom]
    by_cases deadline : timeout ≤ min (now + interval) timeout
    · simp only [deadline, if_true]
      rfl
    · -- the listing is planned for one interval on, which leaves a round to either bound
      have left_of {n : Nat} (h : timeout ≤ now + (n + 1) * interval) :
          0 < n ∧ timeout ≤ now + interval + n * interval := by
        rw [Nat.succ_mul] at h
        refine ⟨Nat.pos_of_ne_zero ?_, by omega⟩
        rintro rfl
        omega
      obtain ⟨left, within⟩ := left_of enough
      obtain ⟨left', within'⟩ := left_of enough_other
      have onward (took : Nat) :
          waitFrom ns selector timeout interval rounds
              (max now (min (now + interval) timeout) + took) =
            waitFrom ns selector timeout interval other
              (max now (min (now + interval) timeout) + took) :=
        ih left (by omega) left' (by omega)
      simp only [onward]

theorem waitFrom_eq_wait {rounds : Nat} (positive : 0 < interval)
    (h : max 1 (timeout ⌈/⌉ interval) ≤ rounds) :
    waitFrom ns selector timeout interval rounds 0 = wait ns selector timeout interval := by
  have enough : timeout ≤ interval * rounds :=
    (ceilDiv_le_iff_le_mul positive).mp ((Nat.le_max_right _ _).trans h)
  have plenty : timeout + 1 ≤ (timeout + 1) * interval := Nat.le_mul_of_pos_right _ positive
  rw [Nat.mul_comm] at enough
  exact waitFrom_eq_of_enough (by omega) (by omega) (Nat.succ_pos timeout) (by omega)

/-- A wait has an end for every sequence of listings, of which it takes the first ones. -/
theorem exists_runs_waitFrom (fuel now : Nat) (answers : Nat → Listing) :
    ∃ (polls : List Poll) (result : Attempt Unit),
      Runs (waitFrom ns selector timeout interval fuel now)
        (polls.flatMap (Poll.events ns selector)) result ∧
      polls.map Poll.listing = (List.range polls.length).map answers := by
  induction fuel generalizing now answers with
  | zero => exact ⟨[], .error (.notReady ns selector timeout), .done _, rfl⟩
  | succ fuel ih =>
    let poll : Poll := ⟨min (now + interval) timeout - now, answers 0⟩
    have last {result : Attempt Unit}
        (h : Runs (if isReady poll.listing then pure ()
          else if timeout ≤ now + poll.pause then throw (.notReady ns selector timeout)
          else waitFrom ns selector timeout interval fuel (now + poll.time)) [] result) :
        Runs (waitFrom ns selector timeout interval (fuel + 1) now)
          ([poll].flatMap (Poll.events ns selector)) result :=
      runs_waitFrom_succ_iff.mpr ⟨poll, [], rfl, by simp, h⟩
    by_cases shown : isReady poll.listing = true
    · refine ⟨[poll], .ok (), last ?_, rfl⟩
      rw [if_pos shown]
      exact runs_pure_iff.mpr ⟨rfl, rfl⟩
    by_cases deadline : timeout ≤ now + poll.pause
    · refine ⟨[poll], .error (.notReady ns selector timeout), last ?_, rfl⟩
      rw [if_neg shown, if_pos deadline]
      exact runs_throw_iff.mpr ⟨rfl, rfl⟩
    · obtain ⟨polls, result, hruns, hlistings⟩ :=
        ih (now + poll.time) fun k => answers (k + 1)
      refine ⟨poll :: polls, result, runs_waitFrom_succ_iff.mpr ⟨poll, _, rfl, rfl, ?_⟩, ?_⟩
      · rw [if_neg shown, if_neg deadline]
        exact hruns
      · rw [List.map_cons, hlistings, List.length_cons, List.range_succ_eq_map, List.map_cons,
          List.map_map]
        rfl

/-- What polls that make up a wait keep to, whatever their listings are and however long those
take. -/
structure Keeps (ns selector : String) (timeout interval : Nat) (polls : List Poll)
    (result : Attempt Unit) : Prop where
  some_listing : 1 ≤ polls.length
  few : polls.length ≤ max 1 (timeout ⌈/⌉ interval)
  ends : Ends ns selector timeout 0 polls result
  no_sooner : result ≠ .ok () → timeout ≤ elapsed polls
  no_later : ∀ longest, (∀ poll ∈ polls, poll.listing.took ≤ longest) →
    elapsed polls ≤ timeout + 2 * longest
  on_time : (∀ poll ∈ polls, poll.listing.took = 0) →
    starts 0 polls = (List.range polls.length).map fun k => min ((k + 1) * interval) timeout

theorem Waits.keeps (positive : 0 < interval) (h : Waits ns selector timeout 0 polls result)
    (paced : Paced timeout interval 0 polls) : Keeps ns selector timeout interval polls result where
  some_listing := h.length_pos
  few := h.length_le positive paced
  ends := h.ends
  no_sooner := by simpa using h.ends.timeout_le
  no_later := by
    intro longest short
    simpa using h.elapsed_le paced (Nat.zero_le _) short
  on_time := by
    intro instant
    simpa using h.starts_eq paced (Nat.zero_le timeout) instant

/-- That a wait ends in time. -/
structure Scheduled (ns selector : String) (timeout interval : Nat) : Prop where
  /-- It is never the bound on the listings that ends a wait. -/
  unbounded : ∀ rounds, max 1 (timeout ⌈/⌉ interval) ≤ rounds →
    waitFrom ns selector timeout interval rounds 0 = wait ns selector timeout interval
  /-- A wait comes to an end whatever the listings are. -/
  finite : ∀ answers : Nat → Listing, ∃ (polls : List Poll) (result : Attempt Unit),
    Runs (wait ns selector timeout interval) (polls.flatMap (Poll.events ns selector)) result ∧
      polls.map Poll.listing = (List.range polls.length).map answers
  keeps : ∀ events result, Runs (wait ns selector timeout interval) events result →
    ∃ polls, events = polls.flatMap (Poll.events ns selector) ∧
      Keeps ns selector timeout interval polls result

theorem wait_scheduled (positive : 0 < interval) : Scheduled ns selector timeout interval where
  unbounded := fun _ enough => waitFrom_eq_wait positive enough
  finite := exists_runs_waitFrom (timeout + 1) 0
  keeps := by
    intro events result h
    obtain ⟨polls, hevents, waits, paced⟩ := paced_of_runs positive h
    exact ⟨polls, hevents, waits.keeps positive paced⟩

end

/-- A wait for five milliseconds with an interval of two, whose listings take one and show nothing:
the second of them is made at the deadline, and the wait ends after it. -/
theorem wait_scheduled_silent :
    let silent : Listing := ⟨.ok [], 1⟩
    0 < 2 ∧
    Runs (wait "pods" "" 5 2) ([⟨2, silent⟩, ⟨2, silent⟩].flatMap (Poll.events "pods" ""))
      (.error (.notReady "pods" "" 5)) ∧
    Scheduled "pods" "" 5 2 := by
  refine ⟨by decide, ?_, wait_scheduled (by decide)⟩
  exact .ask (.ask (.ask (.ask (.done _))))

end PodNetwork.Readiness
