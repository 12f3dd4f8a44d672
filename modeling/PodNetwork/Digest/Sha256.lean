import PodNetwork.Text.Utf8

/-! SHA-256 and the truncated hexadecimal digests that serve as content keys. -/
namespace PodNetwork.Sha256

/-- The first 32 bits of the fractional parts of the cube roots of the first 64 primes. -/
def roundConstants : Array UInt32 := #[
  0x428a2f98, 0x71374491, 0xb5c0fbcf, 0xe9b5dba5, 0x3956c25b, 0x59f111f1, 0x923f82a4, 0xab1c5ed5,
  0xd807aa98, 0x12835b01, 0x243185be, 0x550c7dc3, 0x72be5d74, 0x80deb1fe, 0x9bdc06a7, 0xc19bf174,
  0xe49b69c1, 0xefbe4786, 0x0fc19dc6, 0x240ca1cc, 0x2de92c6f, 0x4a7484aa, 0x5cb0a9dc, 0x76f988da,
  0x983e5152, 0xa831c66d, 0xb00327c8, 0xbf597fc7, 0xc6e00bf3, 0xd5a79147, 0x06ca6351, 0x14292967,
  0x27b70a85, 0x2e1b2138, 0x4d2c6dfc, 0x53380d13, 0x650a7354, 0x766a0abb, 0x81c2c92e, 0x92722c85,
  0xa2bfe8a1, 0xa81a664b, 0xc24b8b70, 0xc76c51a3, 0xd192e819, 0xd6990624, 0xf40e3585, 0x106aa070,
  0x19a4c116, 0x1e376c08, 0x2748774c, 0x34b0bcb5, 0x391c0cb3, 0x4ed8aa4a, 0x5b9cca4f, 0x682e6ff3,
  0x748f82ee, 0x78a5636f, 0x84c87814, 0x8cc70208, 0x90befffa, 0xa4506ceb, 0xbef9a3f7, 0xc67178f2]

/-- The eight working words. -/
structure State where
  a : UInt32
  b : UInt32
  c : UInt32
  d : UInt32
  e : UInt32
  f : UInt32
  g : UInt32
  h : UInt32

/-- The first 32 bits of the fractional parts of the square roots of the first eight primes. -/
def State.initial : State :=
  ⟨0x6a09e667, 0xbb67ae85, 0x3c6ef372, 0xa54ff53a, 0x510e527f, 0x9b05688c, 0x1f83d9ab, 0x5be0cd19⟩

def State.words (s : State) : List UInt32 := [s.a, s.b, s.c, s.d, s.e, s.f, s.g, s.h]

def State.add (s t : State) : State :=
  ⟨s.a + t.a, s.b + t.b, s.c + t.c, s.d + t.d, s.e + t.e, s.f + t.f, s.g + t.g, s.h + t.h⟩

def rotateRight (x : UInt32) (n : UInt32) : UInt32 := (x >>> n) ||| (x <<< (32 - n))

/-- Extends a schedule, newest word first, by the word sixteen places after its oldest needed. -/
def extendSchedule (w : List UInt32) : List UInt32 :=
  let x2 := w.getD 1 0
  let x7 := w.getD 6 0
  let x15 := w.getD 14 0
  let x16 := w.getD 15 0
  let s0 := rotateRight x15 7 ^^^ rotateRight x15 18 ^^^ (x15 >>> 3)
  let s1 := rotateRight x2 17 ^^^ rotateRight x2 19 ^^^ (x2 >>> 10)
  (x16 + s0 + x7 + s1) :: w

def schedule (block : List UInt32) : List UInt32 :=
  ((List.range 48).foldl (fun w _ => extendSchedule w) block.reverse).reverse

def round (s : State) (kw : UInt32 × UInt32) : State :=
  let s1 := rotateRight s.e 6 ^^^ rotateRight s.e 11 ^^^ rotateRight s.e 25
  let ch := (s.e &&& s.f) ^^^ ((~~~ s.e) &&& s.g)
  let t1 := s.h + s1 + ch + kw.1 + kw.2
  let s0 := rotateRight s.a 2 ^^^ rotateRight s.a 13 ^^^ rotateRight s.a 22
  let maj := (s.a &&& s.b) ^^^ (s.a &&& s.c) ^^^ (s.b &&& s.c)
  ⟨t1 + (s0 + maj), s.a, s.b, s.c, s.d + t1, s.e, s.f, s.g⟩

def compress (s : State) (block : List UInt32) : State :=
  s.add ((roundConstants.toList.zip (schedule block)).foldl round s)

/-- The message with the closing bit, the filling zeros and its length in bits. -/
def padded (bs : Bytes) : Bytes :=
  let n := bs.length
  let zeros := (119 - n % 64) % 64
  let bits := 8 * n
  bs ++ 0x80 :: List.replicate zeros 0 ++
    (List.range 8).map fun i => UInt8.ofNat (bits / Nat.pow 256 (7 - i))

def wordsOf : Bytes → List UInt32
  | a :: b :: c :: d :: r =>
    ((a.toUInt32 <<< 24) ||| (b.toUInt32 <<< 16) ||| (c.toUInt32 <<< 8) ||| d.toUInt32) :: wordsOf r
  | _ => []

def blocksOf : List UInt32 → List (List UInt32)
  | [] => []
  | w :: ws => (w :: ws.take 15) :: blocksOf (ws.drop 15)
termination_by ws => ws.length
decreasing_by
  simp only [List.length_drop, List.length_cons]
  omega

def digest (bs : Bytes) : List UInt32 :=
  ((blocksOf (wordsOf (padded bs))).foldl compress .initial).words

def wordHex (w : UInt32) : List Char :=
  (List.range 8).map fun i => Nat.digitChar (w.toNat / Nat.pow 16 (7 - i) % 16)

/-- The digest in lowercase hexadecimal, cut to at most the given length. -/
def hexPrefix (bs : Bytes) (length : Nat) : String :=
  .ofList (((digest bs).flatMap wordHex).take length)

def shortLength : Nat := 16

def short (bs : Bytes) : String := hexPrefix bs shortLength

end PodNetwork.Sha256
