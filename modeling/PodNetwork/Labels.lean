/-! Sorted maps from text to text: labels of nodes, data of config maps, arguments of builds.

A map is a list of entries whose keys are in increasing order, so equal maps are equal lists. -/
namespace PodNetwork

/-- Entries in key order. -/
abbrev Labels := List (String × String)

namespace Labels

def put (key value : String) : Labels → Labels
  | [] => [(key, value)]
  | (k, v) :: rest =>
    if key = k then (key, value) :: rest
    else if key < k then (key, value) :: (k, v) :: rest
    else (k, v) :: put key value rest

/-- The map of the given entries, the last of equal keys winning. -/
def ofEntries (entries : List (String × String)) : Labels :=
  entries.foldl (fun labels (k, v) => put k v labels) []

def get? (labels : Labels) (key : String) : Option String :=
  (labels.find? fun entry => entry.1 = key).map Prod.snd

def has (labels : Labels) (key : String) : Bool := labels.any fun entry => entry.1 = key

def merge (labels changes : Labels) : Labels :=
  changes.foldl (fun labels (k, v) => put k v labels) labels

@[simp] theorem get?_put_self (labels : Labels) (key value : String) :
    (put key value labels).get? key = some value := by
  induction labels with
  | nil => simp [put, get?]
  | cons entry rest ih =>
    obtain ⟨k, v⟩ := entry
    unfold put
    split
    · simp [get?]
    · split
      · simp [get?]
      · next hne _ =>
        have hk : ¬k = key := fun h => hne h.symm
        simpa [get?, List.find?_cons, hk] using ih

theorem get?_put_of_ne (labels : Labels) {key other : String} (value : String) (h : other ≠ key) :
    (put key value labels).get? other = labels.get? other := by
  induction labels with
  | nil => simp [put, get?, Ne.symm h]
  | cons entry rest ih =>
    obtain ⟨k, v⟩ := entry
    unfold put
    split
    · next hk =>
      subst hk
      simp [get?, Ne.symm h]
    · split
      · simp [get?, Ne.symm h]
      · by_cases hk : k = other
        · simp [get?, hk]
        · simpa [get?, List.find?_cons, hk] using ih

end Labels
end PodNetwork
