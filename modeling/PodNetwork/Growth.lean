import PodNetwork.Decimal.Binary64

/-! Factors by which delays grow. They are read as floating-point numbers, but as far as they are
finite they are exact. -/
namespace PodNetwork

/-- A factor. One that is infinite, or no number at all, leads straight to the longest delay. -/
inductive Growth where
  | factor (value : Rat)
  | infinite (negative : Bool)
  | undefined
  deriving DecidableEq, Repr, Inhabited

namespace Growth

/-- The factor that a floating-point number stands for. -/
def ofBinary64 : Binary64 → Growth
  | .finite negative mantissa exponent =>
    let magnitude : Rat :=
      if 0 ≤ exponent then ((mantissa * Nat.pow 2 exponent.toNat : Nat) : Rat)
      else (mantissa : Rat) / ((Nat.pow 2 (-exponent).toNat : Nat) : Rat)
    .factor (if negative then -magnitude else magnitude)
  | .infinite negative => .infinite negative
  | .nan => .undefined

/-- Reads a factor, regardless of case where it is no finite number. -/
def ofText? (s : String) : Option Growth :=
  match s.toLower with
  | "nan" | "-nan" | "+nan" => some .undefined
  | "inf" | "+inf" | "infinity" | "+infinity" => some (.infinite false)
  | "-inf" | "-infinity" => some (.infinite true)
  | _ => (Binary64.ofText? s.toList).map ofBinary64

def text : Growth → String
  | .factor value => if value.den = 1 then toString value.num else toString value
  | .infinite negative => if negative then "-inf" else "inf"
  | .undefined => "NaN"

end Growth
end PodNetwork
