import PodNetwork.Json.Value
import PodNetwork.Labels
import PodNetwork.Text.Utf8

/-! Reading the members of a JSON object whose form is known. A member that is null counts as
left out. -/
namespace PodNetwork.Json.Member

def asString : Json → Option String
  | .string s => some s
  | _ => none

def asBool : Json → Option Bool
  | .bool b => some b
  | _ => none

def asNat : Json → Option Nat
  | .number (.whole n) => if n < 0 then none else some n.toNat
  | _ => none

def asList : Json → Option (List Json)
  | .array items => some items
  | _ => none

def asMembers : Json → Option (List (String × Json))
  | .object ms => some ms
  | _ => none

def optional {α : Type} (read : Json → Option α) : Json → Option (Option α)
  | .null => some none
  | j => (read j).map some

def withDefault {α : Type} (value : α) (read : Json → Option α) : Json → Option α
  | .null => some value
  | j => read j

def field (j : Json) (key : String) : Option Json := j.get? key

def fieldD (j : Json) (key : String) : Json := (j.get? key).getD .null

def str (j : Json) (key : String) : Option String := field j key >>= asString

def strD (j : Json) (key value : String) : Option String :=
  withDefault value asString (fieldD j key)

def str? (j : Json) (key : String) : Option (Option String) := optional asString (fieldD j key)

def nat (j : Json) (key : String) : Option Nat := field j key >>= asNat

def natD (j : Json) (key : String) (value : Nat) : Option Nat :=
  withDefault value asNat (fieldD j key)

def nat? (j : Json) (key : String) : Option (Option Nat) := optional asNat (fieldD j key)

def boolD (j : Json) (key : String) (value : Bool) : Option Bool :=
  withDefault value asBool (fieldD j key)

def list (j : Json) (key : String) : Option (List Json) := withDefault [] asList (fieldD j key)

def strings (j : Json) (key : String) : Option (List String) := list j key >>= (·.mapM asString)

def entries (j : Json) (key : String) : Option (List (String × Json)) :=
  withDefault [] asMembers (fieldD j key)

def asLabels (j : Json) : Option Labels := do
  let ms ← asMembers j
  return Labels.ofEntries (← ms.mapM fun (k, v) => do return (k, ← asString v))

def digit (c : Char) : Nat :=
  if c.isDigit then c.toNat - 48 else if 97 ≤ c.toNat then c.toNat - 87 else c.toNat - 55

def ofHex : List Char → Bytes
  | a :: b :: r => UInt8.ofNat (16 * digit a + digit b) :: ofHex r
  | _ => []

/-- Bytes, given as a text, in hexadecimal digits, or as a text that is repeated. -/
def asBytes : Json → Option Bytes
  | .string s => some (Bytes.ofString s)
  | j => match j.get? "hex", j.get? "repeat" with
    | some (.string h), _ => some (ofHex h.toList)
    | _, some (.array [.string s, n]) => do
      return (List.replicate (← asNat n) (Bytes.ofString s)).flatten
    | _, _ => none

def bytes (j : Json) (key : String) : Option Bytes := field j key >>= asBytes

def files (j : Json) (key : String) : Option (List (String × Option Bytes)) := do
  (← entries j key).mapM fun (path, content) => do return (path, ← optional asBytes content)

end PodNetwork.Json.Member
