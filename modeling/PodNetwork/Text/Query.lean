import PodNetwork.Text.Blank
import PodNetwork.Text.Utf8

/-! The part of a request's target that follows the path: pairs of names and values. -/
namespace PodNetwork.Text.Query

def hexDigit? (c : Char) : Option Nat :=
  if '0' ≤ c && c ≤ '9' then some (c.toNat - 48)
  else if 'a' ≤ c && c ≤ 'f' then some (c.toNat - 87)
  else if 'A' ≤ c && c ≤ 'F' then some (c.toNat - 55)
  else none

/-- Reads a name or a value: a plus sign stands for a space, and a percent sign with two
hexadecimal digits for a byte. -/
def decodeBytes : List Char → Bytes
  | [] => []
  | '+' :: r => 0x20 :: decodeBytes r
  | '%' :: a :: b :: r =>
    match hexDigit? a, hexDigit? b with
    | some x, some y => UInt8.ofNat (16 * x + y) :: decodeBytes r
    | _, _ => 0x25 :: decodeBytes (a :: b :: r)
  | c :: r => Bytes.ofString (.singleton c) ++ decodeBytes r

def decode (cs : List Char) : String := Bytes.decodeLossy (decodeBytes cs)

def pair (cs : List Char) : String × String :=
  match cutAt? '=' cs with
  | some (name, value) => (decode name, decode value)
  | none => (decode cs, "")

def pairs (cs : List Char) : List (String × String) :=
  ((segments (· == '&') cs).filter (!·.isEmpty)).map pair

def encodeByte (b : UInt8) : List Char :=
  let n := b.toNat
  if (Char.ofNat n).isAlphanum then [Char.ofNat n]
  else ['%', Nat.digitChar (n / 16), Nat.digitChar (n % 16)]

def encode (s : String) : List Char := (Bytes.ofString s).flatMap encodeByte

def ofPairs (ps : List (String × String)) : List Char :=
  joinWith ['&'] (ps.map fun (k, v) => encode k ++ '=' :: encode v)

end PodNetwork.Text.Query
