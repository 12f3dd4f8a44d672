import PodNetwork.Proofs.Procedure.Passages
import PodNetwork.Rehearsal.Stage
import PodNetwork.SourceTree

/-! What making sure of a source tree does to the files of a host.

Commands may do anything to the files, and each may fail. Whatever they do, a tree with its marker
is left alone, nothing but the tree is removed, and nothing is cloned over what is there. -/
namespace PodNetwork

open Routine
open Procedure (Event Moment)

namespace SiteCall

def isLook : SiteCall → Bool
  | .host (.fileExists _) => true
  | _ => false

def isSubmodule : SiteCall → Bool
  | .host (.runIn _ program args) => program = "git" ∧ args.head? = some "submodule"
  | _ => false

def isClone : SiteCall → Bool
  | .host (.runIn _ program args) => program = "git" ∧ args.head? = some "clone"
  | _ => false

def isRemoval : SiteCall → Bool
  | .host (.removeAll _) => true
  | _ => false

end SiteCall

/-- The files of a host: whether there is something at a path, and what a call may do to them. Of
the commands nothing is known. -/
structure Disk (σ : Type) where
  has : σ → String → Bool
  moves : σ → Event Site → σ → Prop
  /-- A look tells what is there and changes nothing. -/
  seen : ∀ {s s' : σ} {path : String} {there : Bool},
    moves s ⟨.host (.fileExists path), there⟩ s' → there = has s path ∧ s' = s
  /-- A removal that succeeds leaves nothing. -/
  gone : ∀ {s s' : σ} {path : String},
    moves s ⟨.host (.removeAll path), .ok ()⟩ s' → has s' path = false

namespace SourceTree

def markerPath (tree : SourceTree) : String := Path.join tree.path marker

def removal (tree : SourceTree) (answer : Attempt Unit) : Event Site :=
  ⟨.host (.removeAll tree.path), answer⟩

def cloning (tree : SourceTree) (answer : Attempt Unit) : Event Site :=
  ⟨.host (.runIn tree.projectRoot "git"
    ["clone", "--branch", tree.branch, tree.repository, tree.path]), answer⟩

/-- The calls by which a tree is provided. -/
inductive Makes (tree : SourceTree) : SiteCall → Prop where
  | lookFor (path : String) : Makes tree (.host (.fileExists path))
  | init : Makes tree (.host (.runIn tree.projectRoot "git" ["submodule", "init", tree.dirName]))
  | update : Makes tree
    (.host (.runIn tree.projectRoot "git" ["submodule", "update", "--init", tree.dirName]))
  | remove : Makes tree (.host (.removeAll tree.path))
  | clone : Makes tree (.host (.runIn tree.projectRoot "git"
    ["clone", "--branch", tree.branch, tree.repository, tree.path]))

variable {σ : Type} {disk : Disk σ} {tree : SourceTree} {s mid s' : σ}
  {log more : List (Moment Site σ)}

def times (kind : SiteCall → Bool) (log : List (Moment Site σ)) : Nat :=
  log.countP fun m => kind m.event.call

@[simp] theorem times_append {kind : SiteCall → Bool} :
    times kind (log ++ more) = times kind log + times kind more := List.countP_append

/-- Events that look for paths or fetch the submodule. -/
def Gentle (tree : SourceTree) (log : List (Moment Site σ)) : Prop :=
  ∀ m ∈ log, tree.Makes m.event.call ∧
    SiteCall.isClone m.event.call = false ∧ SiteCall.isRemoval m.event.call = false

theorem gentle_append : tree.Gentle (log ++ more) ↔ tree.Gentle log ∧ tree.Gentle more :=
  List.forall_mem_append

theorem gentle_look {path : String} {there : Bool} :
    tree.Gentle [⟨s, ⟨.host (.fileExists path), there⟩⟩] :=
  List.forall_mem_singleton.mpr ⟨.lookFor path, rfl, rfl⟩

theorem Gentle.times_isClone (h : tree.Gentle log) : times SiteCall.isClone log = 0 :=
  List.countP_eq_zero.mpr fun m hm => by simp [(h m hm).2.1]

theorem Gentle.times_isRemoval (h : tree.Gentle log) : times SiteCall.isRemoval log = 0 :=
  List.countP_eq_zero.mpr fun m hm => by simp [(h m hm).2.2]

def Attempted (log : List (Moment Site σ)) : Prop :=
  ∃ m ∈ log, SiteCall.isSubmodule m.event.call = true

/-- The submodule is fetched: there is an attempt, whatever comes of it. -/
theorem gentle_of_fetchSubmodule {result : Attempt Unit}
    (h : Passes disk.moves tree.fetchSubmodule s log s' result) :
    tree.Gentle log ∧ Attempted log := by
  rcases passes_bind_iff.mp h with ⟨e, hi, rfl⟩ | ⟨before, _, mid, after, rfl, hi, hu⟩
  · obtain ⟨rfl, -⟩ := Procedure.passes_call_iff.mp hi
    exact ⟨List.forall_mem_singleton.mpr ⟨.init, rfl, rfl⟩, _, List.mem_singleton_self _, rfl⟩
  · obtain ⟨rfl, -⟩ := Procedure.passes_call_iff.mp hi
    obtain ⟨rfl, -⟩ := Procedure.passes_call_iff.mp hu
    refine ⟨gentle_append.mpr ⟨?_, ?_⟩, _, List.mem_cons_self, rfl⟩
    · exact List.forall_mem_singleton.mpr ⟨.init, rfl, rfl⟩
    · exact List.forall_mem_singleton.mpr ⟨.update, rfl, rfl⟩

/-- The ways in which a tree is provided without a clone: with `true` it is there, and with `false`
nothing is. -/
inductive Providing (disk : Disk σ) (tree : SourceTree) (s : σ) :
    List (Moment Site σ) → σ → Attempt Bool → Prop where
  | found {log : List (Moment Site σ)} (marked : disk.has s tree.markerPath = true)
      (looks : ∀ m ∈ log, SiteCall.isLook m.event.call = true) (gentle : tree.Gentle log) :
      Providing disk tree s log s (.ok true)
  | absent {log : List (Moment Site σ)} (absent : disk.has s tree.path = false)
      (gentle : tree.Gentle log) : Providing disk tree s log s (.ok false)
  | fetched {log : List (Moment Site σ)} {s' : σ} (unmarked : disk.has s tree.markerPath = false)
      (gentle : tree.Gentle log) (marked : disk.has s' tree.markerPath = true) :
      Providing disk tree s log s' (.ok true)
  | removed {log : List (Moment Site σ)} {mid s' : σ}
      (unmarked : disk.has s tree.markerPath = false) (gentle : tree.Gentle log)
      (attempted : Attempted log) (gone : disk.has s' tree.path = false) :
      Providing disk tree s (log ++ [⟨mid, tree.removal (.ok ())⟩]) s' (.ok false)
  | stuck {log : List (Moment Site σ)} {mid s' : σ} {e : Error}
      (unmarked : disk.has s tree.markerPath = false) (gentle : tree.Gentle log)
      (attempted : Attempted log) :
      Providing disk tree s (log ++ [⟨mid, tree.removal (.error e)⟩]) s' (.error e)

/-- The submodule of a tree without its marker is dealt with, some looks behind. -/
theorem providing_of_submoduleOrRemoved {looks : List (Moment Site σ)} {result : Attempt Bool}
    (unmarked : disk.has s tree.markerPath = false) (gentle : tree.Gentle looks)
    (h : Passes disk.moves tree.submoduleOrRemoved s log s' result) :
    Providing disk tree s (looks ++ log) s' result := by
  have removing {before log : List (Moment Site σ)} {mid s' : σ} {result : Attempt Bool}
      (gentle : tree.Gentle before) (attempted : Attempted before)
      (h : Passes disk.moves (Site.removeAll tree.path >>= fun _ => pure false) mid log s' result) :
      Providing disk tree s (before ++ log) s' result := by
    rcases passes_bind_iff.mp h with ⟨e, hr, rfl⟩ | ⟨removal, _, _, _, rfl, hr, hd⟩
    · obtain ⟨rfl, -⟩ := Procedure.passes_call_iff.mp hr
      exact .stuck unmarked gentle attempted
    · obtain ⟨rfl, hmoves⟩ := Procedure.passes_call_iff.mp hr
      obtain ⟨rfl, rfl, rfl⟩ := passes_pure_iff.mp hd
      rw [List.append_nil]
      exact .removed unmarked gentle attempted (disk.gone hmoves)
  obtain ⟨fetches, outcome, mid, after, rfl, hf, ha⟩ := passes_outcome_bind_iff.mp h
  obtain ⟨hfetches, m, hm, hattempt⟩ := gentle_of_fetchSubmodule hf
  have fetched : tree.Gentle (looks ++ fetches) := gentle_append.mpr ⟨gentle, hfetches⟩
  rw [← List.append_assoc]
  cases outcome with
  | error e => exact removing fetched ⟨m, List.mem_append_right _ hm, hattempt⟩ ha
  | ok =>
    obtain ⟨marked, _, rest, rfl, hmoves, ha⟩ := passes_question_bind_iff.mp ha
    obtain ⟨rfl, rfl⟩ := disk.seen hmoves
    rw [List.append_cons]
    split at ha
    · next hmarked =>
      obtain ⟨rfl, rfl, rfl⟩ := passes_pure_iff.mp ha
      rw [List.append_nil]
      exact .fetched unmarked (gentle_append.mpr ⟨fetched, gentle_look⟩) hmarked
    · exact removing (gentle_append.mpr ⟨fetched, gentle_look⟩)
        ⟨m, List.mem_append_left _ (List.mem_append_right _ hm), hattempt⟩ ha

/-- The ways in which a clone of the repository is made. -/
inductive Cloning (disk : Disk σ) (tree : SourceTree) (s : σ) :
    List (Moment Site σ) → σ → Attempt String → Prop where
  | refused {s' : σ} {e : Error} {message : String} :
      Cloning disk tree s [⟨s, tree.cloning (.error e)⟩] s'
        (.error (.sourceUnavailable tree.path message))
  | cloned {s' : σ} (marked : disk.has s' tree.markerPath = true) :
      Cloning disk tree s [⟨s, tree.cloning (.ok ())⟩,
        ⟨s', ⟨.host (.fileExists tree.markerPath), true⟩⟩] s' (.ok tree.path)
  | empty {s' : σ} {message : String} :
      Cloning disk tree s [⟨s, tree.cloning (.ok ())⟩,
        ⟨s', ⟨.host (.fileExists tree.markerPath), false⟩⟩] s'
        (.error (.sourceUnavailable tree.path message))

theorem cloning_of_passes {result : Attempt String}
    (h : Passes disk.moves tree.cloneChecked s log s' result) :
    Cloning disk tree s log s' result := by
  rcases passes_bind_iff.mp h with ⟨e, hc, rfl⟩ | ⟨before, _, mid, after, rfl, hc, hm⟩
  · obtain ⟨inner, hc, he⟩ := passes_mapError_iff.mp hc
    obtain ⟨rfl, -⟩ := Procedure.passes_call_iff.mp hc
    cases inner with
    | ok => cases he
    | error inner =>
      cases he
      exact .refused
  · obtain ⟨inner, hc, he⟩ := passes_mapError_iff.mp hc
    obtain ⟨rfl, -⟩ := Procedure.passes_call_iff.mp hc
    cases inner with
    | error inner => cases he
    | ok =>
      obtain ⟨marked, _, rest, rfl, hmoves, he⟩ := passes_question_bind_iff.mp hm
      obtain ⟨hseen, rfl⟩ := disk.seen hmoves
      cases marked with
      | true =>
        obtain ⟨rfl, rfl, rfl⟩ := passes_pure_iff.mp he
        exact .cloned hseen.symm
      | false =>
        obtain ⟨rfl, rfl, rfl⟩ := passes_throw_iff.mp he
        exact .empty

/-- The ways in which a tree is made sure of. -/
inductive Ensuring (disk : Disk σ) (tree : SourceTree) (s : σ) :
    List (Moment Site σ) → σ → Attempt String → Prop where
  | provided {log : List (Moment Site σ)} {s' : σ}
      (providing : Providing disk tree s log s' (.ok true)) :
      Ensuring disk tree s log s' (.ok tree.path)
  | stuck {log : List (Moment Site σ)} {s' : σ} {e : Error}
      (providing : Providing disk tree s log s' (.error e)) :
      Ensuring disk tree s log s' (.error e)
  | cloned {log clones : List (Moment Site σ)} {mid s' : σ} {result : Attempt String}
      (providing : Providing disk tree s log mid (.ok false))
      (cloning : Cloning disk tree mid clones s' result) :
      Ensuring disk tree s (log ++ clones) s' result

theorem ensuring_of_passes
    (below : ∀ s, disk.has s tree.markerPath = true → disk.has s tree.path = true)
    {result : Attempt String} (h : Passes disk.moves tree.ensure s log s' result) :
    Ensuring disk tree s log s' result := by
  have fetching {looks log : List (Moment Site σ)} (unmarked : disk.has s tree.markerPath = false)
      (gentle : tree.Gentle looks) (h : Passes disk.moves (do
        if ← tree.submoduleOrRemoved then return tree.path
        tree.cloneChecked) s log s' result) :
      Ensuring disk tree s (looks ++ log) s' result := by
    rcases passes_bind_iff.mp h with ⟨e, hf, rfl⟩ | ⟨fetches, done, mid, rest, rfl, hf, hc⟩
    · exact .stuck (providing_of_submoduleOrRemoved unmarked gentle hf)
    · have providing := providing_of_submoduleOrRemoved unmarked gentle hf
      rw [← List.append_assoc]
      cases done with
      | true =>
        obtain ⟨rfl, rfl, rfl⟩ := passes_pure_iff.mp hc
        rw [List.append_nil]
        exact .provided providing
      | false => exact .cloned providing (cloning_of_passes hc)
  have two_looks {path other : String} {t t' : σ} {there otherThere : Bool} :
      tree.Gentle [⟨t, ⟨.host (.fileExists path), there⟩⟩,
        ⟨t', ⟨.host (.fileExists other), otherThere⟩⟩] :=
    List.forall_mem_cons.mpr ⟨gentle_look _ (List.mem_singleton_self _), gentle_look⟩
  have unmarked_of_absent (absent : disk.has s tree.path = false) :
      disk.has s tree.markerPath = false :=
    Bool.eq_false_iff.mpr fun marked => Bool.false_ne_true (absent.symm.trans (below s marked))
  obtain ⟨there, _, _, rfl, hmoves, hthere⟩ := passes_question_bind_iff.mp h
  obtain ⟨hseen, rfl⟩ := disk.seen hmoves
  cases there with
  | true =>
    obtain ⟨marked, _, _, rfl, hmoves, hmarked⟩ := passes_question_bind_iff.mp hthere
    obtain ⟨hseen, rfl⟩ := disk.seen hmoves
    cases marked with
    | true =>
      obtain ⟨rfl, rfl, rfl⟩ := passes_pure_iff.mp hmarked
      exact .provided (.found hseen.symm (by simp [SiteCall.isLook]) two_looks)
    | false => exact fetching hseen.symm two_looks hmarked
  | false =>
    obtain ⟨versioned, _, _, rfl, hmoves, hversioned⟩ := passes_question_bind_iff.mp hthere
    obtain ⟨-, rfl⟩ := disk.seen hmoves
    cases versioned with
    | true => exact fetching (unmarked_of_absent hseen.symm) two_looks hversioned
    | false => exact .cloned (.absent hseen.symm two_looks) (cloning_of_passes hversioned)

/-- Events without a removal have none that fails. -/
theorem removal_notMem_of_times (h : times SiteCall.isRemoval log = 0) (answer : Attempt Unit) :
    tree.removal answer ∉ log.map Moment.event := by
  intro hmem
  obtain ⟨m, hm, heq⟩ := List.mem_map.mp hmem
  refine List.countP_eq_zero.mp h m hm ?_
  rw [heq]
  rfl

namespace Providing

variable {result : Attempt Bool}

theorem makes (h : Providing disk tree s log s' result) :
    ∀ m ∈ log, tree.Makes m.event.call := by
  cases h with
  | found _ _ gentle | absent _ gentle | fetched _ gentle => exact fun m hm => (gentle m hm).1
  | removed _ gentle | stuck _ gentle =>
    exact List.forall_mem_append.mpr
      ⟨fun m hm => (gentle m hm).1, List.forall_mem_singleton.mpr .remove⟩

theorem times_isClone (h : Providing disk tree s log s' result) :
    times SiteCall.isClone log = 0 := by
  cases h with
  | found _ _ gentle | absent _ gentle | fetched _ gentle => exact gentle.times_isClone
  | removed _ gentle | stuck _ gentle =>
    rw [times_append, gentle.times_isClone]
    rfl

theorem times_isRemoval_le (h : Providing disk tree s log s' result) :
    times SiteCall.isRemoval log ≤ 1 := by
  cases h with
  | found _ _ gentle | absent _ gentle | fetched _ gentle => simp [gentle.times_isRemoval]
  | removed _ gentle | stuck _ gentle =>
    rw [times_append, gentle.times_isRemoval]
    exact Nat.le_refl 1

/-- A tree is removed only without its marker and after an attempt at its submodule. -/
theorem attempted (h : Providing disk tree s log s' result) {m : Moment Site σ} (hm : m ∈ log)
    (hremoval : SiteCall.isRemoval m.event.call = true) :
    m.event.call = .host (.removeAll tree.path) ∧ disk.has s tree.markerPath = false ∧
      ∃ before after, log = before ++ m :: after ∧ Attempted before := by
  cases h with
  | found _ _ gentle | absent _ gentle | fetched _ gentle =>
    simp [(gentle m hm).2.2] at hremoval
  | removed unmarked gentle attempted | stuck unmarked gentle attempted =>
    rcases List.mem_append.mp hm with hm | hm
    · simp [(gentle m hm).2.2] at hremoval
    · obtain rfl := List.mem_singleton.mp hm
      exact ⟨rfl, unmarked, _, [], rfl, attempted⟩

theorem result_of_removal (h : Providing disk tree s log s' result) {e : Error}
    (hmem : tree.removal (.error e) ∈ log.map Moment.event) : result = .error e := by
  cases h with
  | found _ _ gentle | absent _ gentle | fetched _ gentle =>
    exact absurd hmem (removal_notMem_of_times gentle.times_isRemoval _)
  | removed _ gentle | stuck _ gentle =>
    rw [List.map_append, List.mem_append] at hmem
    rcases hmem with hmem | hmem
    · exact absurd hmem (removal_notMem_of_times gentle.times_isRemoval _)
    · cases List.mem_singleton.mp hmem <;> rfl

theorem removal_mem {e : Error} (h : Providing disk tree s log s' (.error e)) :
    tree.removal (.error e) ∈ log.map Moment.event := by
  cases h with
  | stuck => simp

theorem marked (h : Providing disk tree s log s' (.ok true)) :
    disk.has s' tree.markerPath = true := by
  cases h with
  | found marked | fetched _ _ marked => exact marked

theorem gone (h : Providing disk tree s log s' (.ok false)) : disk.has s' tree.path = false := by
  cases h with
  | absent gone | removed _ _ _ gone => exact gone

/-- A tree with its marker is found, and nothing happens to it. -/
theorem idle (h : Providing disk tree s log s' result)
    (below : disk.has s tree.markerPath = true → disk.has s tree.path = true)
    (marked : disk.has s tree.markerPath = true) :
    result = .ok true ∧ s' = s ∧ ∀ m ∈ log, SiteCall.isLook m.event.call = true := by
  cases h with
  | found _ looks => exact ⟨rfl, rfl, looks⟩
  | absent absent => exact absurd (absent.symm.trans (below marked)) Bool.false_ne_true
  | fetched unmarked | removed unmarked | stuck unmarked =>
    exact absurd (unmarked.symm.trans marked) Bool.false_ne_true

end Providing

namespace Cloning

variable {result : Attempt String}

theorem makes (h : Cloning disk tree s log s' result) : ∀ m ∈ log, tree.Makes m.event.call := by
  cases h with
  | refused => exact List.forall_mem_singleton.mpr .clone
  | cloned | empty =>
    exact List.forall_mem_cons.mpr ⟨.clone, List.forall_mem_singleton.mpr (.lookFor _)⟩

theorem times_isClone (h : Cloning disk tree s log s' result) :
    times SiteCall.isClone log = 1 := by
  cases h <;> rfl

theorem times_isRemoval (h : Cloning disk tree s log s' result) :
    times SiteCall.isRemoval log = 0 := by
  cases h <;> rfl

/-- A clone is made in the state in which the cloning begins. -/
theorem state_eq (h : Cloning disk tree s log s' result) {m : Moment Site σ} (hm : m ∈ log)
    (hclone : SiteCall.isClone m.event.call = true) : m.state = s := by
  cases h with
  | refused =>
    obtain rfl := List.mem_singleton.mp hm
    rfl
  | cloned | empty =>
    rcases List.mem_cons.mp hm with rfl | hm
    · rfl
    · obtain rfl := List.mem_singleton.mp hm
      cases hclone

theorem success {path : String} (h : Cloning disk tree s log s' (.ok path)) :
    path = tree.path ∧ disk.has s' tree.markerPath = true := by
  cases h with
  | cloned marked => exact ⟨rfl, marked⟩

theorem unavailable {e : Error} (h : Cloning disk tree s log s' (.error e)) :
    ∃ message, e = .sourceUnavailable tree.path message := by
  cases h <;> exact ⟨_, rfl⟩

end Cloning

namespace Ensuring

variable {result : Attempt String}

theorem makes (h : Ensuring disk tree s log s' result) : ∀ m ∈ log, tree.Makes m.event.call := by
  cases h with
  | provided providing | stuck providing => exact providing.makes
  | cloned providing cloning => exact List.forall_mem_append.mpr ⟨providing.makes, cloning.makes⟩

theorem success {path : String} (h : Ensuring disk tree s log s' (.ok path)) :
    path = tree.path ∧ disk.has s' tree.markerPath = true := by
  cases h with
  | provided providing => exact ⟨rfl, providing.marked⟩
  | cloned _ cloning => exact cloning.success

theorem idle (h : Ensuring disk tree s log s' result)
    (below : disk.has s tree.markerPath = true → disk.has s tree.path = true)
    (marked : disk.has s tree.markerPath = true) :
    result = .ok tree.path ∧ s' = s ∧ ∀ m ∈ log, SiteCall.isLook m.event.call = true := by
  cases h with
  | provided providing => exact ⟨rfl, (providing.idle below marked).2⟩
  | stuck providing => cases (providing.idle below marked).1
  | cloned providing => cases (providing.idle below marked).1

theorem clones (h : Ensuring disk tree s log s' result) :
    times SiteCall.isClone log ≤ 1 ∧
      ∀ m ∈ log, SiteCall.isClone m.event.call = true → disk.has m.state tree.path = false := by
  have none {log : List (Moment Site σ)} (h : times SiteCall.isClone log = 0) (m : Moment Site σ)
      (hm : m ∈ log) (hclone : SiteCall.isClone m.event.call = true) :
      disk.has m.state tree.path = false :=
    absurd hclone (List.countP_eq_zero.mp h m hm)
  cases h with
  | provided providing | stuck providing =>
    exact ⟨by rw [providing.times_isClone]; exact Nat.zero_le 1, none providing.times_isClone⟩
  | cloned providing cloning =>
    refine ⟨by simp [providing.times_isClone, cloning.times_isClone], fun m hm hclone => ?_⟩
    rcases List.mem_append.mp hm with hm | hm
    · exact none providing.times_isClone m hm hclone
    · rw [cloning.state_eq hm hclone]
      exact providing.gone

theorem removals (h : Ensuring disk tree s log s' result) :
    times SiteCall.isRemoval log ≤ 1 ∧
      ∀ m ∈ log, SiteCall.isRemoval m.event.call = true →
        m.event.call = .host (.removeAll tree.path) ∧ disk.has s tree.markerPath = false ∧
        ∃ before after, log = before ++ m :: after ∧ Attempted before := by
  cases h with
  | provided providing | stuck providing =>
    exact ⟨providing.times_isRemoval_le, fun m hm => providing.attempted hm⟩
  | cloned providing cloning =>
    constructor
    · rw [times_append, cloning.times_isRemoval]
      exact providing.times_isRemoval_le
    · intro m hm hremoval
      rcases List.mem_append.mp hm with hm | hm
      · obtain ⟨hcall, unmarked, before, after, rfl, attempted⟩ := providing.attempted hm hremoval
        exact ⟨hcall, unmarked, before, _, List.append_assoc .., attempted⟩
      · exact absurd hremoval (List.countP_eq_zero.mp cloning.times_isRemoval m hm)

theorem unremoved (h : Ensuring disk tree s log s' result) {e : Error}
    (hmem : tree.removal (.error e) ∈ log.map Moment.event) : result = .error e := by
  cases h with
  | provided providing => cases providing.result_of_removal hmem
  | stuck providing =>
    cases providing.result_of_removal hmem
    rfl
  | cloned providing cloning =>
    rw [List.map_append, List.mem_append] at hmem
    rcases hmem with hmem | hmem
    · cases providing.result_of_removal hmem
    · exact absurd hmem (removal_notMem_of_times cloning.times_isRemoval _)

theorem unavailable {e : Error} (h : Ensuring disk tree s log s' (.error e))
    (hmem : tree.removal (.error e) ∉ log.map Moment.event) :
    ∃ message, e = .sourceUnavailable tree.path message := by
  cases h with
  | stuck providing => exact absurd providing.removal_mem hmem
  | cloned _ cloning => exact cloning.unavailable

end Ensuring

/-- What making sure of a tree does, whatever the commands do to the files. -/
structure Careful (disk : Disk σ) (tree : SourceTree) (s : σ) (log : List (Moment Site σ)) (s' : σ)
    (result : Attempt String) : Prop where
  /-- Nothing is done but to look, to fetch the submodule, to remove the tree and to clone. -/
  makes : ∀ m ∈ log, tree.Makes m.event.call
  /-- A path that is given is that of the tree, and the tree has its marker. -/
  success : ∀ path, result = .ok path → path = tree.path ∧ disk.has s' tree.markerPath = true
  /-- A tree that has its marker is used as it is. -/
  idle : disk.has s tree.markerPath = true →
    result = .ok tree.path ∧ s' = s ∧ ∀ m ∈ log, SiteCall.isLook m.event.call = true
  /-- The repository is cloned once at most, and not over anything that is there. -/
  clones : times SiteCall.isClone log ≤ 1 ∧
    ∀ m ∈ log, SiteCall.isClone m.event.call = true → disk.has m.state tree.path = false
  /-- There is one removal at most. It is that of a tree that had no marker to begin with, and comes
  after an attempt at its submodule. -/
  removals : times SiteCall.isRemoval log ≤ 1 ∧
    ∀ m ∈ log, SiteCall.isRemoval m.event.call = true →
      m.event.call = .host (.removeAll tree.path) ∧ disk.has s tree.markerPath = false ∧
      ∃ before after, log = before ++ m :: after ∧ Attempted before
  /-- The error of a removal is passed on as it is. -/
  unremoved : ∀ e, tree.removal (.error e) ∈ log.map Moment.event → result = .error e
  /-- In every other failed run the tree is reported as unavailable. -/
  unavailable : ∀ e, result = .error e → tree.removal (.error e) ∉ log.map Moment.event →
    ∃ message, e = .sourceUnavailable tree.path message
  /-- After a success the tree may be made sure of again, and nothing happens. -/
  again : ∀ path later s'' result', result = .ok path →
    Passes disk.moves tree.ensure s' later s'' result' →
    result' = .ok path ∧ s'' = s' ∧ ∀ m ∈ later, SiteCall.isLook m.event.call = true

/-- A tree is made sure of with care, from every state of the files, whatever the commands do. -/
theorem ensure_careful {disk : Disk σ} {tree : SourceTree} {s s' : σ} {log : List (Moment Site σ)}
    {result : Attempt String}
    (below : ∀ s, disk.has s tree.markerPath = true → disk.has s tree.path = true)
    (h : Passes disk.moves tree.ensure s log s' result) : Careful disk tree s log s' result := by
  have ensuring := ensuring_of_passes below h
  refine
    { makes := ensuring.makes
      success := ?_
      idle := ensuring.idle (below s)
      clones := ensuring.clones
      removals := ensuring.removals
      unremoved := fun _ => ensuring.unremoved
      unavailable := ?_
      again := ?_ }
  · rintro path rfl
    exact ensuring.success
  · rintro e rfl
    exact ensuring.unavailable
  · rintro path later s'' result' rfl hlater
    obtain ⟨rfl, marked⟩ := ensuring.success
    exact (ensuring_of_passes below hlater).idle (below s') marked

/-- The files of a scripted host. -/
def rehearsed : Disk Rehearsal.Stage where
  has stage path := stage.host.tree.has path
  moves stage e stage' := Rehearsal.Stage.respond e.call stage = (e.answer, stage')
  seen := by
    rintro s s' path there h
    cases h
    exact ⟨rfl, rfl⟩
  gone := by
    intro s s' path h
    have none_left (tree : Rehearsal.Tree) : (tree.remove path).has path = false := by
      simp [Rehearsal.Tree.has, Rehearsal.Tree.remove]
    simp only [Rehearsal.Stage.respond, Rehearsal.HostScript.answer,
      Rehearsal.HostScript.access] at h
    split at h
    · cases (Prod.mk.inj h).1
    · rw [← (Prod.mk.inj h).2]
      exact none_left _

/-- A tree whose submodule brings no marker, and whose clone does. -/
def outdated : SourceTree := ⟨"/work", "ovn-kubernetes", "https://git.example/ovn.git", "master"⟩

def outdatedStage : Rehearsal.Stage where
  host :=
    { tree := ⟨[("/work/.git/config", [])], []⟩
      rules :=
        [⟨{ start := "git submodule update", creates := [("/work/ovn-kubernetes/go.mod", [])] },
          none⟩,
        ⟨{ start := "git clone", creates := [(outdated.markerPath, [])] }, none⟩] }

theorem outdated_below (stage : Rehearsal.Stage)
    (h : rehearsed.has stage outdated.markerPath = true) :
    rehearsed.has stage outdated.path = true := by
  have within {path : String} (h : Path.isWithin path outdated.markerPath = true) :
      Path.isWithin path outdated.path = true := by
    have above : Path.components outdated.path <+: Path.components outdated.markerPath := by
      decide +kernel
    exact List.isPrefixOf_iff_prefix.mpr (above.trans (List.isPrefixOf_iff_prefix.mp h))
  simp only [rehearsed, Rehearsal.Tree.has, Bool.or_eq_true, List.any_eq_true] at h ⊢
  exact h.imp (fun ⟨f, hf, hw⟩ => ⟨f, hf, within hw⟩) fun ⟨d, hd, hw⟩ => ⟨d, hd, within hw⟩

theorem ensure_careful_outdated :
    let run := Procedure.passage (I := Site) Rehearsal.Stage.respond outdated.ensure.run
      outdatedStage
    (run.2.2.toOption = some outdated.path ∧ times SiteCall.isRemoval run.1 = 1) ∧
      Careful rehearsed outdated outdatedStage run.1 run.2.1 run.2.2 :=
  ⟨by decide +kernel, ensure_careful outdated_below
    (Procedure.passes_passage (I := Site) Rehearsal.Stage.respond _ _)⟩

end SourceTree
end PodNetwork
