import PodNetwork.Decimal.Binary64

/-! The shortest decimal text of a binary floating-point number.

Of all decimals that read back as the number, the one with the fewest digits is taken, and of
those the nearest to its exact value. The text is positional while the point falls within sixteen
digits or within five zeros, and scientific outside. -/
namespace PodNetwork.Binary64

def quotient (mantissa : Nat) (exponent : Int) : Nat × Nat :=
  if 0 ≤ exponent then (mantissa * Nat.pow 2 exponent.toNat, 1)
  else (mantissa, Nat.pow 2 (-exponent).toNat)

/-- The position of the decimal point of a positive quotient: the least `k` with value below
`10 ^ k`, found by counting from an estimate below it. -/
def pointPosition (num den : Nat) : Int :=
  let below (k : Int) : Bool :=
    if 0 ≤ k then num < den * Nat.pow 10 k.toNat else num * Nat.pow 10 (-k).toNat < den
  let estimate : Int := ((num.log2 : Int) - den.log2 - 1) * 30103 / 100000 - 1
  ((List.range 6).map fun (i : Nat) => estimate + i).find? below |>.getD (estimate + 6)

/-- The digits on the grid of `n` digits that read back as the number, the nearer neighbour
first, the even one at a tie. -/
def onGrid? (mantissa : Nat) (exponent : Int) (n : Nat) : Option (Nat × Int) :=
  let (num, den) := quotient mantissa exponent
  let step := pointPosition num den - n
  let (num', den') := if 0 ≤ step then (num, den * Nat.pow 10 step.toNat)
    else (num * Nat.pow 10 (-step).toNat, den)
  let low := num' / den'
  let nearest := roundQuotient num' den'
  let other := if nearest = low then low + 1 else low
  [nearest, other].find? (fun d => ofDecimal false d step = finite false mantissa exponent)
    |>.map fun d => (d, step)

/-- The shortest digits of a positive finite number, and their power of ten. -/
def shortestDigits (mantissa : Nat) (exponent : Int) : Nat × Int :=
  ((List.range 17).map (· + 1)).findSome? (onGrid? mantissa exponent) |>.getD (0, 0)

def dropZeros : Nat → Nat × Int → Nat × Int
  | 0, d => d
  | fuel + 1, (d, k) => if d ≠ 0 && d % 10 = 0 then dropZeros fuel (d / 10, k + 1) else (d, k)

/-- The text of digits with a power of ten. -/
def decimalText (digits : Nat) (power : Int) : List Char :=
  let ds := Nat.toDigits 10 digits
  let point : Int := ds.length + power
  if 0 ≤ power && point ≤ 16 then ds ++ List.replicate power.toNat '0' ++ ['.', '0']
  else if 0 < point && point ≤ 16 then ds.take point.toNat ++ '.' :: ds.drop point.toNat
  else if -5 < point && point ≤ 0 then '0' :: '.' :: List.replicate (-point).toNat '0' ++ ds
  else
    let exponent := (toString (point - 1)).toList
    match ds with
    | [d] => d :: 'e' :: exponent
    | d :: rest => d :: '.' :: rest ++ 'e' :: exponent
    | [] => []

/-- The text of a finite number; there is none for infinities and for what is not a number. -/
def text? : Binary64 → Option (List Char)
  | finite negative mantissa exponent =>
    let body :=
      if mantissa = 0 then ['0', '.', '0']
      else
        let (d, k) := dropZeros 20 (shortestDigits mantissa exponent)
        decimalText d k
    some (if negative then '-' :: body else body)
  | _ => none

end PodNetwork.Binary64
