import PodNetwork.Json.Value
import PodNetwork.Decimal.Shortest

/-! The JSON text of a value, without spaces.

A text is quoted with the two-character escapes where JSON has them and with four hexadecimal
digits for the other control characters. Numbers that are not finite are written as null. -/
namespace PodNetwork.Json

def hex4 (n : Nat) : List Char :=
  (List.range 4).map fun i => Nat.digitChar (n / Nat.pow 16 (3 - i) % 16)

/-- The written form of one character of a quoted text. -/
def escape (c : Char) : List Char :=
  match c with
  | '"' => ['\\', '"']
  | '\\' => ['\\', '\\']
  | '\x08' => ['\\', 'b']
  | '\x0c' => ['\\', 'f']
  | '\n' => ['\\', 'n']
  | '\r' => ['\\', 'r']
  | '\t' => ['\\', 't']
  | c => if c.toNat < 0x20 then '\\' :: 'u' :: hex4 c.toNat else [c]

def quote (s : String) : List Char := '"' :: s.toList.flatMap escape ++ ['"']

def numberText : Number → List Char
  | .whole n => (toString n).toList
  | .float x => x.text?.getD "null".toList

mutual

def render : Json → List Char
  | .null => "null".toList
  | .bool b => (if b then "true" else "false").toList
  | .number n => numberText n
  | .string s => quote s
  | .array items => '[' :: renderItems items ++ [']']
  | .object members => '\x7b' :: renderMembers members ++ ['\x7d']

def renderItems : List Json → List Char
  | [] => []
  | [v] => render v
  | v :: vs => render v ++ ',' :: renderItems vs

def renderMembers : List (String × Json) → List Char
  | [] => []
  | [(k, v)] => quote k ++ ':' :: render v
  | (k, v) :: ms => quote k ++ ':' :: render v ++ ',' :: renderMembers ms

end

def text (v : Json) : String := .ofList (render v)

end PodNetwork.Json
