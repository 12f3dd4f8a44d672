import PodNetwork.Corefile.Patch

/-! Runs of procedures put together from runs of their parts.

A run of a sequence splits into a run of the first part and one of what follows. A routine may end
early with an error, so a run of a sequence of routines is either a failed run of the first part or
a successful one with a run of the rest behind it. -/
namespace PodNetwork

namespace Procedure

variable {I : Interface} {α β : Type} {events : List (Event I)}

theorem runs_done_iff {a b : α} :
    Runs (.done a : Procedure I α) events b ↔ events = [] ∧ b = a := by
  constructor
  · rintro ⟨⟩
    exact ⟨rfl, rfl⟩
  · rintro ⟨rfl, rfl⟩
    exact .done _

theorem runs_ask_iff {c : I.Call} {next : I.Answer c → Procedure I α} {a : α} :
    Runs (.ask c next) events a ↔
      ∃ answer rest, events = ⟨c, answer⟩ :: rest ∧ Runs (next answer) rest a := by
  constructor
  · intro h
    cases h with
    | ask rest => exact ⟨_, _, rfl, rest⟩
  · rintro ⟨answer, rest, rfl, h⟩
    exact .ask h

theorem runs_call_iff {c : I.Call} {a : I.Answer c} :
    Runs (.call c) events a ↔ events = [⟨c, a⟩] := by
  simp only [call, runs_ask_iff, runs_done_iff]
  constructor
  · rintro ⟨answer, rest, rfl, rfl, rfl⟩
    rfl
  · rintro rfl
    exact ⟨a, [], rfl, rfl, rfl⟩

/-- The events of a sequence are those of its first part and then those of the rest. -/
theorem runs_bind_iff {p : Procedure I α} {f : α → Procedure I β} {b : β} :
    Runs (p.bind f) events b ↔
      ∃ before a after, events = before ++ after ∧ Runs p before a ∧ Runs (f a) after b := by
  induction p generalizing events with
  | done a =>
    constructor
    · intro h
      exact ⟨[], a, events, rfl, .done a, h⟩
    · rintro ⟨before, a', after, rfl, h, h'⟩
      obtain ⟨rfl, rfl⟩ := runs_done_iff.mp h
      exact h'
  | ask c next ih =>
    simp only [bind_ask, runs_ask_iff, ih]
    constructor
    · rintro ⟨answer, rest, rfl, before, a, after, rfl, h, h'⟩
      exact ⟨⟨c, answer⟩ :: before, a, after, rfl, ⟨answer, before, rfl, h⟩, h'⟩
    · rintro ⟨before, a, after, rfl, ⟨answer, rest, rfl, h⟩, h'⟩
      exact ⟨answer, rest ++ after, rfl, rest, a, after, rfl, h, h'⟩

/-- A sequence whose first part may fail ends with its failure or goes on from its value. -/
theorem runs_exceptT_bind_iff {ε : Type} {x : ExceptT ε (Procedure I) α}
    {f : α → ExceptT ε (Procedure I) β} {result : Except ε β} :
    Runs (ExceptT.run (x >>= f)) events result ↔
      (∃ e, Runs (ExceptT.run x) events (.error e) ∧ result = .error e) ∨
      ∃ before a after, events = before ++ after ∧ Runs (ExceptT.run x) before (.ok a) ∧
        Runs (ExceptT.run (f a)) after result := by
  refine runs_bind_iff.trans ⟨?_, ?_⟩
  · rintro ⟨before, e | a, after, rfl, h, h'⟩
    · obtain ⟨rfl, rfl⟩ := runs_done_iff.mp h'
      exact .inl ⟨e, by rwa [List.append_nil], rfl⟩
    · exact .inr ⟨before, a, after, rfl, h, h'⟩
  · rintro (⟨e, h, rfl⟩ | ⟨before, a, after, rfl, h, h'⟩)
    · exact ⟨events, .error e, [], by simp, h, .done _⟩
    · exact ⟨before, .ok a, after, rfl, h, h'⟩

/-- A procedure whose calls all belong to a class, whatever the answers are. -/
def Only (allowed : I.Call → Prop) : Procedure I α → Prop
  | .done _ => True
  | .ask c next => allowed c ∧ ∀ answer, (next answer).Only allowed

theorem only_call {allowed : I.Call → Prop} {c : I.Call} (h : allowed c) : (call c).Only allowed :=
  ⟨h, fun _ => trivial⟩

theorem Only.bind {allowed : I.Call → Prop} {p : Procedure I α} {f : α → Procedure I β}
    (hp : p.Only allowed) (hf : ∀ a, (f a).Only allowed) : (p.bind f).Only allowed := by
  induction p with
  | done a => exact hf a
  | ask c next ih => exact ⟨hp.1, fun answer => ih answer (hp.2 answer)⟩

theorem Only.mono {allowed wider : I.Call → Prop} {p : Procedure I α} (h : p.Only allowed)
    (hw : ∀ c, allowed c → wider c) : p.Only wider := by
  induction p with
  | done a => trivial
  | ask c next ih => exact ⟨hw c h.1, fun answer => ih answer (h.2 answer)⟩

theorem Runs.only {allowed : I.Call → Prop} {p : Procedure I α} {a : α} (h : Runs p events a)
    (hp : p.Only allowed) : ∀ e ∈ events, allowed e.call := by
  induction h with
  | done a => simp
  | ask rest ih => simpa using ⟨hp.1, ih (hp.2 _)⟩

/-- The run in which a call is always answered in the same way. -/
def recorded (answer : (c : I.Call) → I.Answer c) : Procedure I α → List (Event I) × α
  | .done a => ([], a)
  | .ask c next =>
    let (events, a) := (next (answer c)).recorded answer
    (⟨c, answer c⟩ :: events, a)

theorem runs_recorded (answer : (c : I.Call) → I.Answer c) (p : Procedure I α) :
    Runs p (p.recorded answer).1 (p.recorded answer).2 := by
  induction p with
  | done a => exact .done a
  | ask c next ih => exact .ask (ih _)

theorem answer_of_mem_recorded {answer : (c : I.Call) → I.Answer c} {p : Procedure I α} :
    ∀ e ∈ (p.recorded answer).1, e.answer = answer e.call := by
  induction p with
  | done a => exact fun _ he => absurd he List.not_mem_nil
  | ask c next ih => exact List.forall_mem_cons.mpr ⟨rfl, ih _⟩

end Procedure

namespace Routine

variable {α β : Type} {events : List (Procedure.Event Site)}

/-- A run of a routine, which ends with a result or an error. -/
abbrev Runs (routine : Routine α) (events : List (Procedure.Event Site)) (result : Attempt α) :
    Prop := Procedure.Runs (ExceptT.run routine) events result

abbrev Only (allowed : SiteCall → Prop) (routine : Routine α) : Prop :=
  Procedure.Only (I := Site) allowed (ExceptT.run routine)

theorem runs_pure_iff {a : α} {result : Attempt α} :
    Runs (pure a) events result ↔ events = [] ∧ result = .ok a := Procedure.runs_done_iff

theorem runs_throw_iff {e : Error} {result : Attempt α} :
    Runs (throw e) events result ↔ events = [] ∧ result = .error e := Procedure.runs_done_iff

theorem runs_bind_iff {x : Routine α} {f : α → Routine β} {result : Attempt β} :
    Runs (x >>= f) events result ↔
      (∃ e, Runs x events (.error e) ∧ result = .error e) ∨
      ∃ before a after, events = before ++ after ∧ Runs x before (.ok a) ∧
        Runs (f a) after result := Procedure.runs_exceptT_bind_iff

/-- The successful runs of a sequence. -/
theorem runs_bind_ok_iff {x : Routine α} {f : α → Routine β} {b : β} :
    Runs (x >>= f) events (.ok b) ↔
      ∃ before a after, events = before ++ after ∧ Runs x before (.ok a) ∧
        Runs (f a) after (.ok b) := by
  simp [runs_bind_iff]

theorem runs_mapError_iff {g : Error → Error} {x : Routine α} {result : Attempt α} :
    Runs (x.mapError g) events result ↔
      ∃ inner, Runs x events inner ∧ result = inner.mapError g := by
  refine Procedure.runs_bind_iff.trans ⟨?_, ?_⟩
  · rintro ⟨before, inner, after, rfl, h, h'⟩
    obtain ⟨rfl, rfl⟩ := Procedure.runs_done_iff.mp h'
    exact ⟨inner, by rwa [List.append_nil], rfl⟩
  · rintro ⟨inner, h, rfl⟩
    exact ⟨events, inner, [], by simp, h, .done _⟩

theorem runs_mapError_ok_iff {g : Error → Error} {x : Routine α} {a : α} :
    Runs (x.mapError g) events (.ok a) ↔ Runs x events (.ok a) := by
  rw [runs_mapError_iff]
  constructor
  · rintro ⟨e | a', h, h'⟩
    · cases h'
    · cases h'
      exact h
  · exact fun h => ⟨.ok a, h, rfl⟩

theorem runs_ask_iff {p : Procedure Site α} {result : Attempt α} :
    Runs (ask p) events result ↔ ∃ a, Procedure.Runs p events a ∧ result = .ok a := by
  refine Procedure.runs_bind_iff.trans ⟨?_, ?_⟩
  · rintro ⟨before, a, after, rfl, h, h'⟩
    obtain ⟨rfl, rfl⟩ := Procedure.runs_done_iff.mp h'
    exact ⟨a, by rwa [List.append_nil], rfl⟩
  · rintro ⟨a, h, rfl⟩
    exact ⟨events, a, [], by simp, h, .done _⟩

/-- A question that cannot fail comes first in a run of a sequence that begins with it. -/
theorem runs_question_bind_iff {c : SiteCall} {f : c.Answer → Routine β} {result : Attempt β} :
    Runs (ask (.call (I := Site) c) >>= f) events result ↔
      ∃ answer after, events = ⟨c, answer⟩ :: after ∧ Runs (f answer) after result :=
  Procedure.runs_ask_iff

theorem runs_outcome_iff {x : Routine α} {result : Attempt (Attempt α)} :
    Runs x.outcome events result ↔ ∃ inner, Runs x events inner ∧ result = .ok inner :=
  runs_ask_iff

/-- A step whose outcome is looked at never ends a sequence. -/
theorem runs_outcome_bind_iff {x : Routine α} {f : Attempt α → Routine β} {result : Attempt β} :
    Runs (x.outcome >>= f) events result ↔
      ∃ before inner after, events = before ++ after ∧ Runs x before inner ∧
        Runs (f inner) after result := by
  rw [runs_bind_iff]
  simp only [runs_outcome_iff]
  constructor
  · rintro (⟨e, ⟨inner, _, he⟩, _⟩ | ⟨before, kept, after, rfl, ⟨inner, h, he⟩, h'⟩)
    · cases he
    · cases he
      exact ⟨before, kept, after, rfl, h, h'⟩
  · rintro ⟨before, inner, after, rfl, h, h'⟩
    exact .inr ⟨before, inner, after, rfl, ⟨inner, h, rfl⟩, h'⟩

theorem runs_discard_outcome_bind_iff {x : Routine α} {f : Unit → Routine β} {result : Attempt β} :
    Runs (discard x.outcome >>= f) events result ↔
      ∃ before inner after, events = before ++ after ∧ Runs x before inner ∧
        Runs (f ()) after result := by
  have same : discard x.outcome = (fun _ => ()) <$> x.outcome := rfl
  rw [same, map_eq_pure_bind, bind_assoc]
  simp only [pure_bind]
  exact runs_outcome_bind_iff

theorem only_pure {allowed : SiteCall → Prop} {a : α} : Only allowed (pure a) := trivial

theorem only_throw {allowed : SiteCall → Prop} {e : Error} :
    Only allowed (throw e : Routine α) := trivial

theorem only_throw_bind {allowed : SiteCall → Prop} {e : Error} {f : α → Routine β} :
    Only allowed ((throw e : Routine α) >>= f) := trivial

theorem only_attempt {allowed : SiteCall → Prop} {p : Procedure Site (Attempt α)}
    (h : p.Only allowed) : Only allowed (attempt p) := h

theorem only_ask {allowed : SiteCall → Prop} {p : Procedure Site α} (h : p.Only allowed) :
    Only allowed (ask p) := Procedure.Only.bind h fun _ => trivial

theorem Only.bind {allowed : SiteCall → Prop} {x : Routine α} {f : α → Routine β}
    (hx : Only allowed x) (hf : ∀ a, Only allowed (f a)) : Only allowed (x >>= f) :=
  Procedure.Only.bind hx fun
    | .ok a => hf a
    | .error _ => trivial

theorem Only.mapError {allowed : SiteCall → Prop} {x : Routine α} (hx : Only allowed x)
    (g : Error → Error) : Only allowed (x.mapError g) := Procedure.Only.bind hx fun _ => trivial

theorem Only.outcome {allowed : SiteCall → Prop} {x : Routine α} (hx : Only allowed x) :
    Only allowed x.outcome := Procedure.Only.bind hx fun _ => trivial

theorem Only.map {allowed : SiteCall → Prop} {x : Routine α} (hx : Only allowed x)
    (g : α → β) : Only allowed (g <$> x) := by
  rw [map_eq_pure_bind]
  exact hx.bind fun _ => only_pure

theorem only_forM {allowed : SiteCall → Prop} {f : α → Routine PUnit} {items : List α}
    (hf : ∀ a ∈ items, Only allowed (f a)) : Only allowed (items.forM f) := by
  induction items with
  | nil => exact only_pure
  | cons a rest ih =>
    exact (hf a List.mem_cons_self).bind fun _ => ih fun b hb => hf b (List.mem_cons_of_mem _ hb)

theorem only_foldlM {allowed : SiteCall → Prop} {f : β → α → Routine β} {items : List α}
    (hf : ∀ b, ∀ a ∈ items, Only allowed (f b a)) (b : β) : Only allowed (items.foldlM f b) := by
  induction items generalizing b with
  | nil => exact only_pure
  | cons a rest ih =>
    rw [List.foldlM_cons]
    exact (hf b a List.mem_cons_self).bind fun b' =>
      ih (fun b a ha => hf b a (List.mem_cons_of_mem _ ha)) b'

/-- A routine whose runs all have a property of their events. -/
def Every (P : List (Procedure.Event Site) → Prop) (routine : Routine α) : Prop :=
  ∀ events result, Runs routine events result → P events

theorem Only.every {allowed : SiteCall → Prop} {P : List (Procedure.Event Site) → Prop}
    {x : Routine α} (hx : Only allowed x) (hP : ∀ events : List (Procedure.Event Site),
      (∀ e ∈ events, allowed e.call) → P events) : Every P x :=
  fun events _ h => hP events (h.only hx)

/-- A property that carries over to longer lists of events carries over to sequences. -/
theorem Every.bind {P : List (Procedure.Event Site) → Prop}
    (append : ∀ before after, P before → P after → P (before ++ after)) {x : Routine α}
    {f : α → Routine β} (hx : Every P x) (hf : ∀ a, Every P (f a)) : Every P (x >>= f) := by
  intro events result h
  rcases runs_bind_iff.mp h with ⟨e, h, _⟩ | ⟨before, a, after, rfl, h, h'⟩
  · exact hx _ _ h
  · exact append _ _ (hx _ _ h) (hf a _ _ h')

theorem every_forM {P : List (Procedure.Event Site) → Prop} (nil : P [])
    (append : ∀ before after, P before → P after → P (before ++ after))
    {f : α → Routine PUnit} {items : List α} (hf : ∀ a ∈ items, Every P (f a)) :
    Every P (items.forM f) := by
  induction items with
  | nil =>
    intro events result h
    obtain ⟨rfl, _⟩ := runs_pure_iff.mp h
    exact nil
  | cons a rest ih =>
    refine Every.bind append (hf a List.mem_cons_self) fun _ => ?_
    exact ih fun b hb => hf b (List.mem_cons_of_mem _ hb)

end Routine

/-- The calls that do not concern the cluster. -/
def SiteCall.IsLocal (c : SiteCall) : Prop := ∀ call, c ≠ .cluster call

namespace Site

def clusterCalls (events : List (Procedure.Event Site)) : List ClusterCall :=
  events.filterMap fun e => match e.call with
    | .cluster call => some call
    | _ => none

@[simp] theorem clusterCalls_nil : clusterCalls [] = [] := rfl

@[simp] theorem clusterCalls_append (events later : List (Procedure.Event Site)) :
    clusterCalls (events ++ later) = clusterCalls events ++ clusterCalls later :=
  List.filterMap_append

theorem clusterCalls_eq_nil {events : List (Procedure.Event Site)}
    (h : ∀ e ∈ events, SiteCall.IsLocal e.call) : clusterCalls events = [] := by
  refine List.filterMap_eq_nil_iff.mpr fun e he => ?_
  have hc := h e he
  split
  · next call heq => exact absurd heq (hc call)
  · rfl

theorem mem_clusterCalls_of_mem {events : List (Procedure.Event Site)}
    {e : Procedure.Event Site} {call : ClusterCall} (h : e ∈ events) (hc : e.call = .cluster call) :
    call ∈ clusterCalls events :=
  List.mem_filterMap.mpr ⟨e, h, by rw [hc]⟩

/-- The answers of a site at which every step succeeds and the pods are ready at once. -/
def obliging : (c : SiteCall) → c.Answer
  | .cluster (.getConfigMap ..) => .ok [(Corefile.key, ".:53 \x7b\n    forward . 10.0.0.1\n\x7d\n")]
  | .cluster (.listPods ..) => ⟨.ok [⟨"ovnkube-node", true⟩], 0⟩
  | .cluster .getNodes => .ok []
  | .cluster .invalidateDiscovery => ()
  | .cluster (.applyManifest _) | .cluster (.applyManifestFromUrl _)
  | .cluster (.updateConfigMap ..) | .cluster (.labelNode ..) | .cluster (.removeNodeTaint ..)
  | .cluster (.deleteDaemonset ..) | .cluster (.deletePodsByLabel ..)
  | .cluster (.rolloutRestart ..) => .ok ()
  | .host (.execute ..) | .host (.executeWithin ..) => .ok {}
  | .host (.run ..) | .host (.runIn ..) | .host (.writeFile ..) | .host (.removeAll _) => .ok ()
  | .host (.fileExists _) => true
  | .host (.readFile _) => .ok []
  | .host .hostInfo => .ok ⟨"fedora", "41", [], .x86_64⟩
  | .host .describe => "localhost"
  | .engine (.imageExists _) => true
  | .engine (.build _) | .engine (.tag ..) | .engine (.push ..) => .ok ()
  | .pause _ => ()
  | .userCache => none
  | .makeDirectories _ => .ok ()

end Site
end PodNetwork
