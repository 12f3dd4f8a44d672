import PodNetwork.Proofs.Procedure.Runs

/-! Two runs of one procedure that are answered alike.

The parties that answer may remember what they were asked. Two histories go together if the next
call is answered in the same way in both, as long as the same has happened before. Calls whose
answers do not count can be left out of the histories, and then the runs still agree in all that is
left, provided the procedure makes no use of the answers left out. -/
namespace PodNetwork.Procedure

variable {I : Interface} {α : Type}

/-- Histories in which, after the same events, the same call gets the same answer. -/
def Alike (events others : List (Event I)) : Prop :=
  ∀ (before after afterOther : List (Event I)) (call : I.Call) (answer other : I.Answer call),
    events = before ++ ⟨call, answer⟩ :: after → others = before ++ ⟨call, other⟩ :: afterOther →
      answer = other

def keep (kept : I.Call → Bool) (events : List (Event I)) : List (Event I) :=
  events.filter fun e => kept e.call

section

variable {kept : I.Call → Bool} {events others shared more moreOthers : List (Event I)}

@[simp] theorem keep_append :
    keep kept (events ++ more) = keep kept events ++ keep kept more :=
  List.filter_append ..

theorem keep_cons_of_kept {e : Event I} (h : kept e.call = true) :
    keep kept (e :: events) = e :: keep kept events := by
  simp [keep, h]

theorem keep_cons_of_dropped {e : Event I} (h : kept e.call = false) :
    keep kept (e :: events) = keep kept events := by
  simp [keep, h]

theorem keep_eq_nil (h : ∀ e ∈ events, kept e.call = false) : keep kept events = [] := by
  have none_kept : ∀ e ∈ events, ¬kept e.call = true := by simpa using h
  exact List.filter_eq_nil_iff.mpr none_kept

/-- What goes on from a shared beginning is answered alike. -/
theorem Alike.drop (h : Alike (shared ++ events) (shared ++ others)) : Alike events others := by
  intro before after afterOther call answer other he ho
  have here : shared ++ events = (shared ++ before) ++ ⟨call, answer⟩ :: after := by simp [he]
  have there : shared ++ others = (shared ++ before) ++ ⟨call, other⟩ :: afterOther := by simp [ho]
  exact h _ _ _ call answer other here there

theorem Alike.tail {e : Event I} (h : Alike (e :: events) (e :: others)) : Alike events others := by
  rw [← List.singleton_append (l := events), ← List.singleton_append (l := others)] at h
  exact h.drop

/-- The first call of both histories, if it is the same, gets the same answer. -/
theorem Alike.head_eq {call : I.Call} {answer other : I.Answer call}
    (h : Alike (⟨call, answer⟩ :: events) (⟨call, other⟩ :: others)) : answer = other :=
  h [] events others call answer other rfl rfl

/-- Answers that depend on the calls alone are given alike. -/
theorem alike_of_answers (answer : (c : I.Call) → I.Answer c)
    (h : ∀ e ∈ events, e.answer = answer e.call) (h' : ∀ e ∈ others, e.answer = answer e.call) :
    Alike events others := by
  rintro before after afterOther call given other rfl rfl
  have here : given = answer call := h ⟨call, given⟩ (by simp)
  have there : other = answer call := h' ⟨call, other⟩ (by simp)
  rw [here, there]

/-- The runs of a procedure agree if the kept calls are answered alike, and the other calls that it
makes can be answered in one way only. -/
theorem Runs.eq_of_alike {p : Procedure I α} {a b : α} (h : Runs p events a)
    (h' : Runs p others b)
    (steady : ∀ e ∈ events, kept e.call = true ∨ Subsingleton (I.Answer e.call))
    (alike : Alike (keep kept events ++ more) (keep kept others ++ moreOthers)) :
    events = others ∧ a = b := by
  induction h generalizing others with
  | done a =>
    obtain ⟨rfl, rfl⟩ := runs_done_iff.mp h'
    exact ⟨rfl, rfl⟩
  | @ask c next answer events a rest ih =>
    obtain ⟨other, others, rfl, rest'⟩ := runs_ask_iff.mp h'
    have later : ∀ e ∈ events, kept e.call = true ∨ Subsingleton (I.Answer e.call) :=
      fun e he => steady e (List.mem_cons_of_mem _ he)
    by_cases hc : kept c = true
    · -- The answer counts, so it is the same on both sides, and so is all that depends on it.
      rw [keep_cons_of_kept hc, keep_cons_of_kept hc] at alike
      obtain rfl : answer = other := alike.head_eq
      have onward : Alike (keep kept events ++ more) (keep kept others ++ moreOthers) :=
        alike.tail
      obtain ⟨rfl, rfl⟩ := ih rest' later onward
      exact ⟨rfl, rfl⟩
    · have dropped : kept c = false := Bool.eq_false_iff.mpr hc
      have one : Subsingleton (I.Answer c) := (steady _ List.mem_cons_self).resolve_left hc
      obtain rfl : answer = other := Subsingleton.elim _ _
      rw [keep_cons_of_dropped dropped, keep_cons_of_dropped dropped] at alike
      obtain ⟨rfl, rfl⟩ := ih rest' later alike
      exact ⟨rfl, rfl⟩

end
end PodNetwork.Procedure
