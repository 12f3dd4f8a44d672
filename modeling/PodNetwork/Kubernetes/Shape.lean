import PodNetwork.Json.Value
import PodNetwork.Text.Timestamp

/-! What the JSON of an object has to look like to be an object of a known type.

Nothing has to be given, and what is not known is passed over; but a member that is given has to
have the right type, unless it is null. -/
namespace PodNetwork.Kubernetes

inductive Shape where
  | any
  | text
  | truth
  /-- A whole number of some bits, with a sign. -/
  | whole (bits : Nat)
  | timestamp
  /-- Bytes written with 64 letters. -/
  | base64
  | wholeOrText
  | list (item : Shape)
  | map (value : Shape)
  | record (members : List (String × Shape))
  /-- A record that may say of which kind and API version it is. -/
  | named (kind apiVersion : String) (members : List (String × Shape))
  deriving Repr, Inhabited

namespace Shape

def letter64? (c : Char) : Option Nat :=
  if 'A' ≤ c && c ≤ 'Z' then some (c.toNat - 65)
  else if 'a' ≤ c && c ≤ 'z' then some (c.toNat - 71)
  else if '0' ≤ c && c ≤ '9' then some (c.toNat + 4)
  else if c = '+' then some 62
  else if c = '/' then some 63
  else none

/-- Whether a text stands for bytes: groups of four letters, the last one filled up, and no bits
beyond the last byte. -/
def isBase64 : List Char → Bool
  | [] => true
  | [a, b, '=', '='] => (letter64? a).isSome && (letter64? b).any fun n => n % 16 = 0
  | [a, b, c, '='] =>
    (letter64? a).isSome && (letter64? b).isSome && (letter64? c).any fun n => n % 4 = 0
  | a :: b :: c :: d :: r => [a, b, c, d].all (fun x => (letter64? x).isSome) && isBase64 r
  | _ => false

def fits (bits : Nat) (n : Int) : Bool :=
  let bound := Int.ofNat (Nat.pow 2 (bits - 1))
  n < bound && -bound ≤ n

def saysOnly (members : List (String × Json)) (key value : String) : Bool :=
  members.all fun m => m.1 ≠ key || m.2 == .string value

mutual

/-- Whether a value has a shape. -/
def accepts : Shape → Json → Bool
  | .any, _ => true
  | .text, .string _ => true
  | .truth, .bool _ => true
  | .whole bits, .number (.whole n) => fits bits n
  | .timestamp, .string s => (Timestamp.parse? s).isSome
  | .base64, .string s => isBase64 s.toList
  | .wholeOrText, .string _ => true
  | .wholeOrText, .number (.whole n) => fits 32 n
  | .list item, .array items => items.all (accepts item)
  | .map value, .object ms => ms.all fun m => accepts value m.2
  | .record members, .object ms => acceptsMembers members ms
  | .named kind apiVersion members, .object ms =>
    saysOnly ms "kind" kind && saysOnly ms "apiVersion" apiVersion && acceptsMembers members ms
  | _, _ => false

def acceptsMembers : List (String × Shape) → List (String × Json) → Bool
  | [], _ => true
  | (name, shape) :: rest, ms =>
    ms.all (fun m => m.1 ≠ name || m.2 == .null || accepts shape m.2) && acceptsMembers rest ms

end

end Shape
end PodNetwork.Kubernetes
