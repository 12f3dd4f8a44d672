import PodNetwork.Json.Value

/-! What a plain scalar stands for: nothing, a truth value, a number, or its own text. -/
namespace PodNetwork.Yaml.Plain

def isNull (cs : List Char) : Bool :=
  ["null", "Null", "NULL", "~"].any fun s => s.toList = cs

def bool? (cs : List Char) : Option Bool :=
  if ["true", "True", "TRUE"].any fun s => s.toList = cs then some true
  else if ["false", "False", "FALSE"].any fun s => s.toList = cs then some false
  else none

/-- Digits with a needless zero in front, which are a text and not a number. -/
def hasLeadingZero (cs : List Char) : Bool :=
  let body := match cs with
    | '-' :: r => r
    | '+' :: r => r
    | r => r
  match body with
  | '0' :: d :: ds => (d :: ds).all Char.isDigit
  | _ => false

def digit? (radix : Nat) (c : Char) : Option Nat :=
  let value :=
    if '0' ≤ c && c ≤ '9' then some (c.toNat - 48)
    else if 'a' ≤ c && c ≤ 'f' then some (c.toNat - 87)
    else if 'A' ≤ c && c ≤ 'F' then some (c.toNat - 55)
    else none
  value.bind fun v => if v < radix then some v else none

def natural? (radix : Nat) (ds : List Char) : Option Nat :=
  if ds.isEmpty then none else ds.foldlM (fun n d => (digit? radix d).map (radix * n + ·)) 0

def radix? : List Char → Option (Nat × List Char)
  | '0' :: 'x' :: ds => some (16, ds)
  | '0' :: 'o' :: ds => some (8, ds)
  | '0' :: 'b' :: ds => some (2, ds)
  | _ => none

def magnitude? (cs : List Char) : Option Nat :=
  match (radix? cs).bind fun (radix, ds) => natural? radix ds with
  | some n => some n
  | none => natural? 10 cs

def integer? (cs : List Char) : Option Int :=
  if hasLeadingZero cs then none
  else match cs with
    | '-' :: r => (magnitude? r).map fun n => -(n : Int)
    | '+' :: r => (magnitude? r).map fun n => (n : Int)
    | r => (magnitude? r).map fun n => (n : Int)

/-- Whether a whole number fits 64 bits, without a sign if it is not negative. -/
def fits64 (n : Int) : Bool := -Int.ofNat (Nat.pow 2 63) ≤ n && n < Int.ofNat (Nat.pow 2 64)

def fits128 (n : Int) : Bool := -Int.ofNat (Nat.pow 2 127) ≤ n && n < Int.ofNat (Nat.pow 2 128)

/-- A number that is not whole, or an infinite one, or none at all. -/
def float? (cs : List Char) : Option Binary64 :=
  let among (ss : List String) (cs : List Char) : Bool := ss.any fun s => s.toList = cs
  let unsigned := match cs with
    | '+' :: r => r
    | r => r
  if cs.head? = some '+' && (unsigned.head? = some '+' || unsigned.head? = some '-') then none
  else if among [".inf", ".Inf", ".INF"] unsigned then some (.infinite false)
  else if among ["-.inf", "-.Inf", "-.INF"] cs then some (.infinite true)
  else if among [".nan", ".NaN", ".NAN"] cs then some .nan
  else (Binary64.ofText? unsigned).bind fun x => if x.isFinite then some x else none

/-- The value of a whole number, which may be too large for any. -/
def integerValue? (n : Int) : Option (Option Json) :=
  if fits64 n then some (some (.number (.whole n)))
  else if fits128 n then some none
  else none

/-- The value of a plain scalar. There is none for whole numbers beyond 64 bits, unless they are
so large that they are read as other numbers. -/
def value? (cs : List Char) : Option Json :=
  if cs.isEmpty || isNull cs then some .null
  else match bool? cs with
    | some b => some (.bool b)
    | none =>
      match (integer? cs).bind integerValue? with
      | some value => value
      | none =>
        match if hasLeadingZero cs then none else float? cs with
        | some x => some (.number (.float x))
        | none => some (.string (.ofList cs))

end PodNetwork.Yaml.Plain
