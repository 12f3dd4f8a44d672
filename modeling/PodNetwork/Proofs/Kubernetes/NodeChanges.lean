import Mathlib.Data.List.Forall2
import PodNetwork.Proofs.Kubernetes.Patching
import PodNetwork.Proofs.Text.Times

/-! Changes of the labels and the taints of a node.

Labels are set one by one, but taints can only be changed as a whole list. So a patch that is to
remove some of them writes all the others anew. -/
namespace PodNetwork.Kubernetes

def labelsPath : List String := ["metadata", "labels"]

def taintsPath : List String := ["spec", "taints"]

def isMarked (marks : List (String × String)) (taint : Json) : Bool :=
  marks.contains ((Taint.ofJson taint).key, (Taint.ofJson taint).effect)

def rewritten (taint : Json) : Json := (Taint.ofJson taint).json

/-- A taint that stays. It may be written anew, which changes nothing of a taint that is written in
this way already. -/
structure Stays (before after : Json) : Prop where
  key : (Taint.ofJson after).key = (Taint.ofJson before).key
  effect : (Taint.ofJson after).effect = (Taint.ofJson before).effect
  value : (Taint.ofJson after).value = (Taint.ofJson before).value
  /-- The time is kept to the second. One whose year does not have four digits in universal time is
  written, but cannot be read again. -/
  timeAdded : (∀ text ∈ (Taint.ofJson before).timeAdded, (Timestamp.parse? text).isSome = true) →
    (Taint.ofJson after).timeAdded = (Taint.ofJson before).timeAdded
  whole : rewritten before = before → after = before

namespace Stays

variable {a b c : Json}

theorem refl (a : Json) : Stays a a := ⟨rfl, rfl, rfl, fun _ => rfl, fun _ => rfl⟩

theorem trans (h : Stays a b) (h' : Stays b c) : Stays a c where
  key := h'.key.trans h.key
  effect := h'.effect.trans h.effect
  value := h'.value.trans h.value
  timeAdded ha := by
    have first := h.timeAdded ha
    exact (h'.timeAdded (first ▸ ha)).trans first
  whole ha := by
    obtain rfl := h.whole ha
    exact h'.whole ha

theorem isMarked_eq (h : Stays a b) (marks : List (String × String)) :
    isMarked marks b = isMarked marks a := by
  rw [isMarked, isMarked, h.key, h.effect]

end Stays

/-- The time of a taint is written as it is read. -/
theorem timeAdded_rewritten {taint : Json}
    (readable : ∀ text ∈ (Taint.ofJson taint).timeAdded, (Timestamp.parse? text).isSome = true)
    (written : text? (rewritten taint) ["timeAdded"] = (Taint.ofJson taint).timeAdded) :
    (Taint.ofJson (rewritten taint)).timeAdded = (Taint.ofJson taint).timeAdded := by
  have again : (Taint.ofJson (rewritten taint)).timeAdded =
      ((text? (rewritten taint) ["timeAdded"]).bind Timestamp.parse?).map Timestamp.text := rfl
  rw [again, written]
  cases known : (Taint.ofJson taint).timeAdded with
  | none => rfl
  | some text =>
    obtain ⟨time, read, rfl⟩ := Option.map_eq_some_iff.mp known
    obtain ⟨source, -, parsed⟩ := Option.bind_eq_some_iff.mp read
    obtain ⟨time', reread⟩ := Option.isSome_iff_exists.mp (readable _ known)
    obtain rfl := Timestamp.eq_of_parse?_text (Timestamp.sound_of_parse? parsed) reread
    rw [Option.bind_some, reread, Option.map_some]

theorem stays_rewritten (taint : Json) : Stays taint (rewritten taint) := by
  have read (t : Taint) : text? t.json ["key"] = some t.key ∧
      text? t.json ["effect"] = some t.effect ∧ text? t.json ["value"] = t.value ∧
      text? t.json ["timeAdded"] = t.timeAdded := by
    have empty (key : String) : (Json.object []).get? key = none := rfl
    obtain ⟨key, effect, value, timeAdded⟩ := t
    cases value <;> cases timeAdded <;>
      simp [Taint.json, Json.ofMembers, text?, Json.path?, Json.get?_put, Json.string?, empty]
  obtain ⟨hkey, heffect, hvalue, htime⟩ := read (Taint.ofJson taint)
  refine ⟨?_, ?_, hvalue, fun readable => timeAdded_rewritten readable htime, id⟩
  · rw [rewritten, Taint.ofJson, hkey, Option.getD_some]
  · rw [rewritten, Taint.ofJson, heffect, Option.getD_some]

/-- Two lists whose elements are related through those of a third list. -/
theorem forall₂_comp {α β γ : Type} {R : α → β → Prop} {S : β → γ → Prop} {T : α → γ → Prop}
    (h : ∀ a b c, R a b → S b c → T a c) {as : List α} {bs : List β} {cs : List γ}
    (hr : List.Forall₂ R as bs) (hs : List.Forall₂ S bs cs) : List.Forall₂ T as cs := by
  induction hr generalizing cs with
  | nil =>
    cases hs
    exact .nil
  | cons hab _ ih =>
    cases hs with
    | cons hbc hrest => exact .cons (h _ _ _ hab hbc) (ih hrest)

theorem isMarked_append (marks others : List (String × String)) (taint : Json) :
    isMarked (marks ++ others) taint = (isMarked marks taint || isMarked others taint) := by
  simp [isMarked]

/-- The taints of a node after those with some marks are removed. -/
def StaysBut (marks : List (String × String)) (before after : List Json) : Prop :=
  List.Forall₂ Stays (before.filter fun taint => !isMarked marks taint) after

namespace StaysBut

variable {marks others : List (String × String)} {a b c : List Json}

/-- Where there are no such taints, nothing is removed. -/
theorem refl (h : ∀ taint ∈ a, isMarked marks taint = false) : StaysBut marks a a := by
  rw [StaysBut, List.filter_eq_self.mpr fun taint ht => by simp [h taint ht]]
  exact List.forall₂_same.mpr fun taint _ => .refl taint

theorem of_rewritten (marks : List (String × String)) (a : List Json) :
    StaysBut marks a ((a.filter fun taint => !isMarked marks taint).map rewritten) := by
  rw [StaysBut, List.forall₂_map_right_iff]
  exact List.forall₂_same.mpr fun taint _ => stays_rewritten taint

theorem trans (h : StaysBut marks a b) (h' : StaysBut others b c) :
    StaysBut (marks ++ others) a c := by
  have kept : List.Forall₂ Stays
      ((a.filter fun taint => !isMarked marks taint).filter fun taint => !isMarked others taint)
      (b.filter fun taint => !isMarked others taint) :=
    List.rel_filter (fun t t' ht => by simp only [ht.isMarked_eq]) h
  have whole : (a.filter fun taint => !isMarked (marks ++ others) taint) =
      (a.filter fun taint => !isMarked marks taint).filter fun taint => !isMarked others taint := by
    rw [List.filter_filter]
    refine List.filter_congr fun taint _ => ?_
    rw [isMarked_append, Bool.not_or, Bool.and_comm]
  rw [StaysBut, whole]
  exact forall₂_comp (fun _ _ _ hs hs' => hs.trans hs') kept h'

/-- Where all taints are written in the one way, those that stay are not changed at all. -/
theorem eq_filter (h : StaysBut marks a b) (written : ∀ taint ∈ a, rewritten taint = taint) :
    b = a.filter fun taint => !isMarked marks taint := by
  have kept := (List.forall₂_and_left _ b).mpr
    ⟨fun taint ht => written taint (List.mem_filter.mp ht).1, h⟩
  have same : List.Forall₂ Eq (a.filter fun taint => !isMarked marks taint) b :=
    kept.imp fun _ _ ht => (ht.2.whole ht.1).symm
  rw [List.forall₂_eq_eq_eq] at same
  exact same.symm

end StaysBut

/-- Whether neither of two paths goes on where the other one ends. -/
def Apart (path other : List String) : Prop := ¬path <+: other ∧ ¬other <+: path

theorem apart_labels (key : String) : Apart (labelsPath ++ [key]) taintsPath := by
  constructor <;> simp [labelsPath, taintsPath, List.cons_prefix_cons]

theorem apart_taints : Apart taintsPath labelsPath := by
  constructor <;> simp [labelsPath, taintsPath, List.cons_prefix_cons]

/-- A change of a node: some labels are set, and the taints with some marks are removed. All the
rest of it stays. -/
structure Changed (labels : Labels) (marks : List (String × String)) (before after : Json) :
    Prop where
  labels : ∀ key, after.path? (labelsPath ++ [key]) =
    ((labels.get? key).map Json.string).or (before.path? (labelsPath ++ [key]))
  taints : StaysBut marks (itemsAt before taintsPath) (itemsAt after taintsPath)
  rest : ∀ path, Apart path labelsPath → Apart path taintsPath →
    after.path? path = before.path? path

theorem get?_append (more labels : Labels) (key : String) :
    Labels.get? (more ++ labels) key = (more.get? key).or (labels.get? key) := by
  rw [Labels.get?, List.find?_append, Option.map_or]
  rfl

namespace Changed

variable {labels more : Labels} {marks others : List (String × String)} {a b c : Json}

/-- A node that has none of the taints stays as it is. -/
theorem refl (h : ∀ taint ∈ itemsAt a taintsPath, isMarked marks taint = false) :
    Changed [] marks a a := ⟨fun _ => rfl, .refl h, fun _ _ _ => rfl⟩

theorem trans (h : Changed labels marks a b) (h' : Changed more others b c) :
    Changed (more ++ labels) (marks ++ others) a c where
  labels key := by
    rw [h'.labels, h.labels, get?_append, Option.map_or, Option.or_assoc]
  taints := h.taints.trans h'.taints
  rest path hl ht := by rw [h'.rest path hl ht, h.rest path hl ht]

/-- Making the same change a second time changes nothing more. -/
theorem twice (h : Changed labels marks a b) (h' : Changed labels marks b c) :
    Changed labels marks a c where
  labels key := by
    rw [(h.trans h').labels, get?_append]
    cases labels.get? key <;> rfl
  taints := by
    have whole : (isMarked (marks ++ marks)) = isMarked marks := by
      funext taint
      rw [isMarked_append, Bool.or_self]
    have taints := (h.trans h').taints
    rwa [StaysBut, whole] at taints
  rest := (h.trans h').rest

end Changed

def labelsPatch (labels : Labels) : Json := Client.nested labelsPath (Client.labelsJson labels)

/-- The patch that leaves a node the taints that have none of some marks. -/
def taintsPatch (marks : List (String × String)) (node : Json) : Json :=
  Client.nested taintsPath
    (.array (((itemsAt node taintsPath).filter fun t => !isMarked marks t).map rewritten))

/-- A patch sets all the texts that it has. -/
theorem get?_mergeMembers {labels : Labels} (distinct : (labels.map Prod.fst).Nodup)
    (members : List (String × Json)) (key : String) :
    (Json.object (Json.mergeMembers members (labels.map fun (k, v) => (k, .string v)))).get? key =
      ((labels.get? key).map Json.string).or ((Json.object members).get? key) := by
  induction labels generalizing members with
  | nil => rfl
  | cons label labels ih =>
    obtain ⟨k, v⟩ := label
    obtain ⟨hk, hdistinct⟩ := List.nodup_cons.mp distinct
    have hv : Json.string v ≠ .null := nofun
    have hlast : Json.mergeMembers members (((k, v) :: labels).map fun (k, v) => (k, .string v)) =
        Json.mergeMembers (Json.put k (.string v) members)
          (labels.map fun (k, v) => (k, .string v)) := Json.mergeMembers_cons hv ..
    rw [hlast, ih hdistinct, Json.get?_put]
    by_cases h : key = k
    · subst h
      have absent : Labels.get? labels key = none := by
        rw [Labels.get?, List.find?_eq_none.mpr, Option.map_none]
        rintro ⟨name, value⟩ hm hname
        exact hk (List.mem_map.mpr ⟨_, hm, by simpa using hname⟩)
      have first : Labels.get? ((key, v) :: labels) key = some v := by simp [Labels.get?]
      rw [absent, first, if_pos rfl]
      rfl
    · have passed : Labels.get? ((k, v) :: labels) key = Labels.get? labels key := by
        simp [Labels.get?, Ne.symm h]
      rw [if_neg h, passed]

theorem changed_labels {labels : Labels} (distinct : (labels.map Prod.fst).Nodup) (node : Json) :
    Changed labels [] node (node.mergePatch (labelsPatch labels)) where
  labels key := by
    have hlabels : Client.labelsJson labels ≠ .null := nofun
    rw [Json.path?_append, Json.path?_append, labelsPatch, Json.path?_mergePatch_nested hlabels,
      Option.bind_some]
    have own (v : Json) : v.path? [key] = v.get? key := by
      rw [Json.path?]
      cases v.get? key <;> rfl
    rw [own, Client.labelsJson, Json.mergePatch, get?_mergeMembers distinct,
      Json.get?_object_members]
    cases node.path? labelsPath with
    | none => rfl
    | some old => rw [Option.getD_some, Option.bind_some, own]
  taints := by
    have same : itemsAt (node.mergePatch (labelsPatch labels)) taintsPath =
        itemsAt node taintsPath := by
      have hlabels : Client.labelsJson labels ≠ .null := nofun
      rw [itemsAt, labelsPatch,
        Json.path?_mergePatch_of_apart hlabels apart_taints.1 apart_taints.2]
      rfl
    rw [same]
    exact .refl fun _ _ => rfl
  rest path hl _ := Json.path?_mergePatch_of_apart nofun hl.1 hl.2

theorem changed_taints (marks : List (String × String)) (node : Json) :
    Changed [] marks node (node.mergePatch (taintsPatch marks node)) where
  labels key := Json.path?_mergePatch_of_apart nofun (apart_labels key).1 (apart_labels key).2
  taints := by
    have hkept (items : List Json) : Json.array items ≠ .null := nofun
    have taken : itemsAt (node.mergePatch (taintsPatch marks node)) taintsPath =
        ((itemsAt node taintsPath).filter fun t => !isMarked marks t).map rewritten := by
      rw [itemsAt, taintsPatch, Json.path?_mergePatch_nested (hkept _)]
      rfl
    rw [taken]
    exact .of_rewritten marks _
  rest path _ ht := Json.path?_mergePatch_of_apart nofun ht.1 ht.2

/-- All taints that are read are chosen exactly if none has the mark. -/
theorem length_filter_eq_iff (items : List Json) (key effect : String) :
    ((items.map Taint.ofJson).filter fun t => !(t.key = key ∧ t.effect = effect)).length =
        (items.map Taint.ofJson).length ↔
      ∀ taint ∈ items, isMarked [(key, effect)] taint = false := by
  rw [List.length_filter_eq_length_iff, List.forall_mem_map]
  simp [isMarked, ← not_and_or]

/-- Taints that are read, chosen from, and written again. -/
theorem map_json_filter (items : List Json) (key effect : String) :
    ((items.map Taint.ofJson).filter fun t => !(t.key = key ∧ t.effect = effect)).map Taint.json =
      (items.filter fun taint => !isMarked [(key, effect)] taint).map rewritten := by
  rw [List.filter_map, List.map_map]
  refine congrArg (List.map rewritten) (List.filter_congr fun taint _ => ?_)
  simp [isMarked]

end PodNetwork.Kubernetes
