import PodNetwork.Decimal.Binary64

/-! JSON values: their members, and the merge patch.

Objects are lists of members. The objects built here keep their keys sorted and distinct, a later
member taking the place of an earlier one of the same key. -/
namespace PodNetwork

inductive Number where
  | whole (value : Int)
  | float (value : Binary64)
  deriving DecidableEq, Repr, Inhabited

inductive Json where
  | null
  | bool (value : Bool)
  | number (value : Number)
  | string (value : String)
  | array (items : List Json)
  | object (members : List (String × Json))
  deriving Repr, Inhabited

namespace Json

mutual

/-- Structural equality of values. -/
def beq : Json → Json → Bool
  | .null, .null => true
  | .bool a, .bool b => a == b
  | .number a, .number b => decide (a = b)
  | .string a, .string b => a == b
  | .array a, .array b => beqItems a b
  | .object a, .object b => beqMembers a b
  | _, _ => false

def beqItems : List Json → List Json → Bool
  | [], [] => true
  | a :: as, b :: bs => beq a b && beqItems as bs
  | _, _ => false

def beqMembers : List (String × Json) → List (String × Json) → Bool
  | [], [] => true
  | (k, a) :: as, (l, b) :: bs => k == l && beq a b && beqMembers as bs
  | _, _ => false

end

instance : BEq Json := ⟨beq⟩

def ofInt (n : Int) : Json := .number (.whole n)

def ofNat (n : Nat) : Json := ofInt n

/-- Puts a member into sorted members, replacing one of the same key. -/
def put (key : String) (value : Json) : List (String × Json) → List (String × Json)
  | [] => [(key, value)]
  | (k, v) :: rest =>
    if key = k then (key, value) :: rest
    else if key < k then (key, value) :: (k, v) :: rest
    else (k, v) :: put key value rest

/-- The object of the given members, sorted, the last of equal keys winning. -/
def ofMembers (members : List (String × Json)) : Json :=
  .object (members.foldl (fun acc (k, v) => put k v acc) [])

def get? (key : String) : Json → Option Json
  | .object members => (members.find? fun m => m.1 = key).map Prod.snd
  | _ => none

def path? : List String → Json → Option Json
  | [], v => some v
  | key :: keys, v => (v.get? key).bind (path? keys)

def string? : Json → Option String
  | .string s => some s
  | _ => none

def keysSorted (members : List (String × Json)) : Prop :=
  (members.map Prod.fst).Pairwise (· < ·)

mutual

def depth : Json → Nat
  | .array items => depthItems items + 1
  | .object members => depthMembers members + 1
  | _ => 0

def depthItems : List Json → Nat
  | [] => 0
  | v :: vs => max (depth v) (depthItems vs)

def depthMembers : List (String × Json) → Nat
  | [] => 0
  | (_, v) :: vs => max (depth v) (depthMembers vs)

end

def members : Json → List (String × Json)
  | .object ms => ms
  | _ => []

def erase (key : String) (ms : List (String × Json)) : List (String × Json) :=
  ms.filter fun m => m.1 ≠ key

mutual

/-- The merge patch: a patch that is an object changes the members it names, removing those it
sets to null, and any other patch replaces the value. -/
def mergePatch (target : Json) : Json → Json
  | .object patch => .object (mergeMembers target.members patch)
  | value => value

def mergeMembers (target : List (String × Json)) :
    List (String × Json) → List (String × Json)
  | [] => target
  | (key, .null) :: rest => mergeMembers (erase key target) rest
  | (key, value) :: rest =>
    let old := ((target.find? fun m => m.1 = key).map Prod.snd).getD .null
    mergeMembers (put key (mergePatch old value) target) rest

end

end Json
end PodNetwork
