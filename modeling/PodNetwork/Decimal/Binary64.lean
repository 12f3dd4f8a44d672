/-! Binary floating-point numbers of double width, read from decimal text.

A finite number is `mantissa * 2 ^ exponent`; the mantissa has at most 53 bits, and exactly 53
unless the exponent is the least one. Reading rounds to the nearest number, ties to the even
mantissa, in exact arithmetic on natural numbers. -/
namespace PodNetwork

inductive Binary64 where
  | finite (negative : Bool) (mantissa : Nat) (exponent : Int)
  | infinite (negative : Bool)
  | nan
  deriving DecidableEq, Repr, Inhabited

namespace Binary64

def leastExponent : Int := -1074
def greatestExponent : Int := 971

/-- A quotient rounded to the nearest natural number, halves to the even one. -/
def roundQuotient (num den : Nat) : Nat :=
  let q := num / den
  let twice := 2 * (num % den)
  if twice < den then q
  else if den < twice then q + 1
  else if q % 2 = 0 then q else q + 1

def scaled (num den : Nat) (exponent : Int) : Nat :=
  if 0 ≤ exponent then roundQuotient num (den * Nat.pow 2 exponent.toNat)
  else roundQuotient (num * Nat.pow 2 (-exponent).toNat) den

/-- The number nearest to a positive quotient. -/
def ofQuotient (negative : Bool) (num den : Nat) : Binary64 :=
  let guess : Int := (num.log2 : Int) - den.log2 - 53
  let fit (e : Int) : Option (Nat × Int) :=
    let e := max e leastExponent
    let m := scaled num den e
    if m < Nat.pow 2 53 then some (m, e)
    else if m = Nat.pow 2 53 then some (Nat.pow 2 52, e + 1)
    else none
  match (fit guess).orElse fun _ => (fit (guess + 1)).orElse fun _ => fit (guess + 2) with
  | some (m, e) => if e ≤ greatestExponent then finite negative m e else infinite negative
  | none => infinite negative

/-- The number nearest to `digits * 10 ^ exponent`. The magnitude decides first, so that no power
is formed for exponents far outside the range. -/
def ofDecimal (negative : Bool) (digits : Nat) (exponent : Int) : Binary64 :=
  if digits = 0 then finite negative 0 leastExponent
  else
    let width : Int := (Nat.toDigits 10 digits).length
    if width + exponent > 310 then infinite negative
    else if width + exponent < -330 then finite negative 0 leastExponent
    else if 0 ≤ exponent then ofQuotient negative (digits * Nat.pow 10 exponent.toNat) 1
    else ofQuotient negative digits (Nat.pow 10 (-exponent).toNat)

def isFinite : Binary64 → Bool
  | finite .. => true
  | _ => false

/-- The parts of a decimal numeral: its digits read as one number, and the power of ten. A numeral
has digits before or behind an optional point and an optional exponent. -/
def numeral? (cs : List Char) : Option (Nat × Int) :=
  let natOf (ds : List Char) : Nat := ds.foldl (fun n d => 10 * n + (d.toNat - 48)) 0
  let whole := cs.takeWhile Char.isDigit
  let rest := cs.dropWhile Char.isDigit
  let (fraction, rest) := match rest with
    | '.' :: r => (r.takeWhile Char.isDigit, r.dropWhile Char.isDigit)
    | r => ([], r)
  if whole.isEmpty && fraction.isEmpty then none
  else
    let digits := natOf (whole ++ fraction)
    let places : Int := fraction.length
    match rest with
    | [] => some (digits, -places)
    | c :: r =>
      if c ≠ 'e' && c ≠ 'E' then none
      else
        let (sign, ds) := match r with
          | '-' :: ds => ((-1 : Int), ds)
          | '+' :: ds => (1, ds)
          | ds => (1, ds)
        if ds.isEmpty || !ds.all Char.isDigit then none
        else some (digits, sign * (natOf ds : Int) - places)

def ofText? (cs : List Char) : Option Binary64 :=
  let (negative, body) := match cs with
    | '-' :: r => (true, r)
    | '+' :: r => (false, r)
    | r => (false, r)
  (numeral? body).map fun (digits, exponent) => ofDecimal negative digits exponent

end Binary64
end PodNetwork
