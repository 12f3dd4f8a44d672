import PodNetwork.Proofs.Procedure.Runs
import PodNetwork.Readiness

/-! How a wait for pods goes.

A wait is a series of polls. It ends with the first listing that shows ready pods and, if none does,
with the first one that is made at the deadline or after it. -/
namespace PodNetwork.Readiness

open Routine
open Procedure (Event)

structure Poll where
  pause : Nat
  listing : Listing

namespace Poll

def events (ns selector : String) (poll : Poll) : List (Event Site) :=
  [⟨.pause poll.pause, ()⟩, ⟨.cluster (.listPods ns selector), poll.listing⟩]

def time (poll : Poll) : Nat := poll.pause + poll.listing.took

end Poll

/-- Polls that make up a wait from a given time on, and how the wait ends. -/
inductive Waits (ns selector : String) (timeout : Nat) : Nat → List Poll → Attempt Unit → Prop where
  | ready {now : Nat} {poll : Poll} (shown : isReady poll.listing = true) :
      Waits ns selector timeout now [poll] (.ok ())
  | late {now : Nat} {poll : Poll} (unready : isReady poll.listing = false)
      (deadline : timeout ≤ now + poll.pause) :
      Waits ns selector timeout now [poll] (.error (.notReady ns selector timeout))
  | again {now : Nat} {poll : Poll} {polls : List Poll} {result : Attempt Unit}
      (unready : isReady poll.listing = false) (early : now + poll.pause < timeout)
      (rest : Waits ns selector timeout (now + poll.time) polls result) :
      Waits ns selector timeout now (poll :: polls) result

/-- Whether polls that begin at a given time keep the pace of a wait: each pause ends after the
interval, but not after the deadline. -/
def Paced (timeout interval : Nat) : Nat → List Poll → Prop
  | _, [] => True
  | now, poll :: polls =>
    poll.pause = min (now + interval) timeout - now ∧
      Paced timeout interval (now + poll.time) polls

section

variable {ns selector : String} {timeout now interval : Nat} {polls : List Poll}
  {events : List (Event Site)} {result : Attempt Unit}

/-- A wait succeeds exactly if some listing shows ready pods. -/
theorem Waits.ok_iff (h : Waits ns selector timeout now polls result) :
    result = .ok () ↔ ∃ poll ∈ polls, isReady poll.listing = true := by
  induction h with
  | ready shown => simp [shown]
  | late unready => simp [unready]
  | again unready _ _ ih => simp [ih, unready]

/-- A wait fails in one way only. -/
theorem Waits.error_eq {e : Error} (h : Waits ns selector timeout now polls (.error e)) :
    e = .notReady ns selector timeout := by
  generalize hresult : (.error e : Attempt Unit) = result at h
  induction h with
  | ready => cases hresult
  | late =>
    cases hresult
    rfl
  | again _ _ _ ih => exact ih hresult

/-- A wait is one poll and, if that does not end it, a wait from the end of the poll on. -/
theorem runs_waitFrom_succ_iff {fuel : Nat} :
    Runs (waitFrom ns selector timeout interval (fuel + 1) now) events result ↔
      ∃ (poll : Poll) (rest : List (Event Site)), poll.pause = min (now + interval) timeout - now ∧
        events = poll.events ns selector ++ rest ∧
        Runs (if isReady poll.listing then pure ()
          else if timeout ≤ now + poll.pause then throw (.notReady ns selector timeout)
          else waitFrom ns selector timeout interval fuel (now + poll.time)) rest result := by
  have reached : max now (min (now + interval) timeout) =
      now + (min (now + interval) timeout - now) := by omega
  have due : timeout ≤ min (now + interval) timeout ↔
      timeout ≤ now + (min (now + interval) timeout - now) := by omega
  rw [waitFrom]
  simp only [reached, due, Nat.add_assoc]
  constructor
  · intro h
    obtain ⟨_, _, rfl, hlist⟩ := runs_question_bind_iff.mp h
    obtain ⟨listing, rest, rfl, hrest⟩ := runs_question_bind_iff.mp hlist
    exact ⟨⟨_, listing⟩, rest, rfl, rfl, hrest⟩
  · rintro ⟨⟨_, listing⟩, rest, rfl, rfl, hrest⟩
    exact runs_question_bind_iff.mpr
      ⟨(), _, rfl, runs_question_bind_iff.mpr ⟨listing, rest, rfl, hrest⟩⟩

/-- As time passes between the listings, there are never too many of them for a wait to go on. -/
theorem waits_of_runs_waitFrom (positive : 0 < interval) {fuel : Nat}
    (enough : timeout < now + fuel) (some_left : 0 < fuel)
    (h : Runs (waitFrom ns selector timeout interval fuel now) events result) :
    ∃ polls, events = polls.flatMap (Poll.events ns selector) ∧
      Waits ns selector timeout now polls result ∧ Paced timeout interval now polls := by
  induction fuel generalizing now events with
  | zero => exact absurd some_left (Nat.lt_irrefl 0)
  | succ fuel ih =>
    obtain ⟨poll, rest, pause, rfl, hrest⟩ := runs_waitFrom_succ_iff.mp h
    split at hrest
    · next shown =>
      obtain ⟨rfl, rfl⟩ := runs_pure_iff.mp hrest
      exact ⟨[poll], by simp, .ready shown, pause, trivial⟩
    · next unready =>
      have hunready : isReady poll.listing = false := Bool.eq_false_iff.mpr unready
      split at hrest
      · next deadline =>
        obtain ⟨rfl, rfl⟩ := runs_throw_iff.mp hrest
        exact ⟨[poll], by simp, .late hunready deadline, pause, trivial⟩
      · next early =>
        have passing : now < now + poll.time := by
          rw [Poll.time]
          omega
        obtain ⟨polls, rfl, waits, paced⟩ := ih (by omega) (by omega) hrest
        exact ⟨poll :: polls, rfl, .again hunready (Nat.lt_of_not_le early) waits, pause, paced⟩

theorem paced_of_runs (positive : 0 < interval)
    (h : Runs (wait ns selector timeout interval) events result) :
    ∃ polls, events = polls.flatMap (Poll.events ns selector) ∧
      Waits ns selector timeout 0 polls result ∧ Paced timeout interval 0 polls :=
  waits_of_runs_waitFrom positive (by omega) (Nat.succ_pos timeout) h

/-- Polls that keep the pace make up a run. -/
theorem runs_waitFrom_of_waits {fuel : Nat} (enough : timeout < now + fuel) (some_left : 0 < fuel)
    (positive : 0 < interval) (h : Waits ns selector timeout now polls result)
    (paced : Paced timeout interval now polls) :
    Runs (waitFrom ns selector timeout interval fuel now) (polls.flatMap (Poll.events ns selector))
      result := by
  induction h generalizing fuel with
  | @ready now poll shown =>
    obtain ⟨fuel, rfl⟩ := Nat.exists_eq_add_of_lt some_left
    rw [Nat.zero_add]
    refine runs_waitFrom_succ_iff.mpr ⟨poll, [], paced.1, rfl, ?_⟩
    rw [if_pos shown]
    exact runs_pure_iff.mpr ⟨rfl, rfl⟩
  | @late now poll unready deadline =>
    obtain ⟨fuel, rfl⟩ := Nat.exists_eq_add_of_lt some_left
    rw [Nat.zero_add]
    refine runs_waitFrom_succ_iff.mpr ⟨poll, [], paced.1, rfl, ?_⟩
    rw [unready, if_neg Bool.false_ne_true, if_pos deadline]
    exact runs_throw_iff.mpr ⟨rfl, rfl⟩
  | @again now poll polls result unready early rest ih =>
    obtain ⟨fuel, rfl⟩ := Nat.exists_eq_add_of_lt some_left
    rw [Nat.zero_add] at enough ⊢
    have pause : poll.pause = min (now + interval) timeout - now := paced.1
    have time : poll.time = poll.pause + poll.listing.took := rfl
    refine runs_waitFrom_succ_iff.mpr ⟨poll, _, pause, rfl, ?_⟩
    rw [unready, if_neg Bool.false_ne_true, if_neg (Nat.not_le_of_lt early)]
    exact ih (by omega) (by omega) paced.2

theorem runs_iff (positive : 0 < interval) :
    Runs (wait ns selector timeout interval) events result ↔
      ∃ polls, events = polls.flatMap (Poll.events ns selector) ∧
        Waits ns selector timeout 0 polls result ∧ Paced timeout interval 0 polls := by
  constructor
  · exact paced_of_runs positive
  · rintro ⟨polls, rfl, waits, paced⟩
    exact runs_waitFrom_of_waits (by omega) (Nat.succ_pos timeout) positive waits paced

theorem waits_of_runs (positive : 0 < interval)
    (h : Runs (wait ns selector timeout interval) events result) :
    ∃ polls, events = polls.flatMap (Poll.events ns selector) ∧
      Waits ns selector timeout 0 polls result := by
  obtain ⟨polls, hevents, waits, -⟩ := paced_of_runs positive h
  exact ⟨polls, hevents, waits⟩

end

end PodNetwork.Readiness
