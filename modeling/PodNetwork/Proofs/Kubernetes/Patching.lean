import PodNetwork.Kubernetes.Client

/-! What a merge patch does along a path.

A patch with a single member at the end of a path changes the value there. Along a path that leaves
this one, everything stays as it is. -/
namespace PodNetwork.Json

open Kubernetes.Client (nested)

variable {v value : Json} {key other : String} {path keys : List String}

theorem get?_object_members (v : Json) (key : String) :
    (Json.object v.members).get? key = v.get? key := by
  cases v <;> rfl

theorem get?_put (key other : String) (value : Json) (ms : List (String × Json)) :
    (Json.object (put key value ms)).get? other =
      if other = key then some value else (Json.object ms).get? other := by
  induction ms with
  | nil => by_cases h : key = other <;> simp [put, get?, h, eq_comm]
  | cons m ms ih =>
    obtain ⟨k, old⟩ := m
    simp only [get?] at ih ⊢
    unfold put
    split
    · next hk =>
      subst hk
      by_cases h : key = other <;> simp [h, eq_comm]
    · next hk =>
      split
      · by_cases h : key = other <;> simp [h, eq_comm]
      · by_cases h : k = other
        · subst h
          simp [Ne.symm hk]
        · simpa [h] using ih

theorem mergeMembers_cons (h : value ≠ .null) (ms rest : List (String × Json)) :
    mergeMembers ms ((key, value) :: rest) = mergeMembers
      (put key ((((Json.object ms).get? key).getD .null).mergePatch value) ms) rest := by
  cases value with
  | null => exact absurd rfl h
  | _ => rfl

/-- The members of a value after a patch with one member. -/
theorem get?_mergePatch (h : value ≠ .null) :
    (v.mergePatch (.object [(key, value)])).get? other =
      if other = key then some (((v.get? key).getD .null).mergePatch value) else v.get? other := by
  rw [mergePatch, mergeMembers_cons h, mergeMembers, get?_put, get?_object_members,
    get?_object_members]

/-- Through null nothing is reached. -/
theorem path?_getD_null (found : Option Json) (key : String) (keys : List String) :
    (found.getD .null).path? (key :: keys) = found.bind (path? (key :: keys)) := by
  cases found <;> rfl

theorem nested_ne_null (h : value ≠ .null) : nested keys value ≠ .null := by
  cases keys with
  | nil => exact h
  | cons key keys => exact nofun

/-- The value at the end of the path that a patch follows. -/
theorem path?_mergePatch_nested (h : value ≠ .null) :
    (v.mergePatch (nested keys value)).path? keys =
      some (((v.path? keys).getD .null).mergePatch value) := by
  induction keys generalizing v with
  | nil => rfl
  | cons key keys ih =>
    rw [path?, nested, get?_mergePatch (nested_ne_null h), if_pos rfl, Option.bind_some, ih, path?]
    cases v.get? key with
    | some member => rfl
    | none => cases keys <;> rfl

/-- The values along a path that leaves the one that a patch follows. -/
theorem path?_mergePatch_of_apart (h : value ≠ .null) (hshort : ¬path <+: keys)
    (hlong : ¬keys <+: path) : (v.mergePatch (nested keys value)).path? path = v.path? path := by
  induction keys generalizing v path with
  | nil => exact absurd List.nil_prefix hlong
  | cons key keys ih =>
    cases path with
    | nil => exact absurd List.nil_prefix hshort
    | cons name path =>
      rw [path?, path?, nested, get?_mergePatch (nested_ne_null h)]
      by_cases hname : name = key
      · subst hname
        rw [if_pos rfl, Option.bind_some]
        have hshort' : ¬path <+: keys := fun hp => hshort ((List.prefix_cons_inj _).mpr hp)
        rw [ih hshort' fun hp => hlong ((List.prefix_cons_inj _).mpr hp)]
        cases path with
        | nil => exact absurd List.nil_prefix hshort'
        | cons => exact path?_getD_null ..
      · rw [if_neg hname]

/-- A path that goes on behind another one. -/
theorem path?_append (v : Json) (keys path : List String) :
    v.path? (keys ++ path) = (v.path? keys).bind (path? path) := by
  induction keys generalizing v with
  | nil => rfl
  | cons key keys ih =>
    rw [List.cons_append, path?, path?, Option.bind_assoc]
    exact congrArg _ (funext fun member => ih member)

end PodNetwork.Json
