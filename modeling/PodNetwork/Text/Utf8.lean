/-! Bytes and text. Reading is either strict, refusing what is not UTF-8, or lossy, putting one
replacement character for each longest run of bytes that starts a character and cannot be
completed. -/
namespace PodNetwork

abbrev Bytes := List UInt8

namespace Bytes

def ofString (s : String) : Bytes := s.toUTF8.data.toList

def decode? (bs : Bytes) : Option String := String.fromUTF8? ⟨bs.toArray⟩

theorem decode?_ofString (s : String) : (ofString s).decode? = some s := by
  have same : (⟨(ofString s).toArray⟩ : ByteArray) = s.toByteArray := by simp [ofString]
  rw [decode?, same, String.fromUTF8?, dif_pos s.isValidUTF8]
  rfl

/-- How many bytes follow a first byte, and the range of the first of these. -/
def lead (b : UInt8) : Option (Nat × UInt8 × UInt8) :=
  if b ≥ 0xC2 && b ≤ 0xDF then some (1, 0x80, 0xBF)
  else if b == 0xE0 then some (2, 0xA0, 0xBF)
  else if b == 0xED then some (2, 0x80, 0x9F)
  else if b ≥ 0xE1 && b ≤ 0xEF then some (2, 0x80, 0xBF)
  else if b == 0xF0 then some (3, 0x90, 0xBF)
  else if b ≥ 0xF1 && b ≤ 0xF3 then some (3, 0x80, 0xBF)
  else if b == 0xF4 then some (3, 0x80, 0x8F)
  else none

def replacement : Char := '\uFFFD'

/-- A character under way: how many bytes are owed, the range of the next one, and the value of
the bytes read. -/
structure Pending where
  owed : Nat
  low : UInt8
  high : UInt8
  value : Nat

def start (b : UInt8) : List Char × Option Pending :=
  if b < 0x80 then ([Char.ofNat b.toNat], none)
  else match lead b with
    | none => ([replacement], none)
    | some (n, low, high) => ([], some ⟨n, low, high, b.toNat % Nat.pow 2 (6 - n)⟩)

/-- Lossy reading, from a character under way. -/
def decodeFrom : Option Pending → Bytes → List Char
  | none, [] => []
  | some _, [] => [replacement]
  | none, b :: r =>
    let (out, pending) := start b
    out ++ decodeFrom pending r
  | some p, b :: r =>
    if p.low ≤ b && b ≤ p.high then
      let value := p.value * 64 + b.toNat % 64
      if p.owed ≤ 1 then Char.ofNat value :: decodeFrom none r
      else decodeFrom (some ⟨p.owed - 1, 0x80, 0xBF, value⟩) r
    else
      let (out, pending) := start b
      replacement :: out ++ decodeFrom pending r

def decodeLossy (bs : Bytes) : String := .ofList (decodeFrom none bs)

end Bytes

end PodNetwork
