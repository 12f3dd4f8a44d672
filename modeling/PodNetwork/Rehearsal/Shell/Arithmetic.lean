import PodNetwork.Rehearsal.Shell.Reader

/-! Expressions over whole numbers of 64 bits. -/
namespace PodNetwork.Rehearsal.Shell

namespace Arithmetic

/-- The number of 64 bits that agrees with a number in its last bits. -/
def wrap (n : Int) : Int := n.bmod (Nat.pow 2 64)

def flag (b : Bool) : Int := if b then 1 else 0

inductive Token where
  | number (value : Int)
  | mark (text : String)
  deriving DecidableEq, Repr, Inhabited

/-- The operators, those first that begin with another one. -/
def operators : List String :=
  ["<<", ">>", "<=", ">=", "==", "!=", "&&", "||", "<", ">", "+", "-", "*", "/", "%", "&", "^",
    "|", "!", "~", "(", ")"]

/-- How closely an operator binds, and what it does with two numbers. -/
def binary? (operator : String) : Option (Nat × (Int → Int → Option Int)) :=
  let total (f : Int → Int → Int) (a b : Int) : Option Int := some (wrap (f a b))
  let bits (f : BitVec 64 → BitVec 64 → BitVec 64) (a b : Int) : Option Int :=
    some (f (.ofInt 64 a) (.ofInt 64 b)).toInt
  match operator with
  | "||" => some (1, total fun a b => flag (a ≠ 0 ∨ b ≠ 0))
  | "&&" => some (2, total fun a b => flag (a ≠ 0 ∧ b ≠ 0))
  | "|" => some (3, bits fun a b => a ||| b)
  | "^" => some (4, bits fun a b => a ^^^ b)
  | "&" => some (5, bits fun a b => a &&& b)
  | "==" => some (6, total fun a b => flag (a = b))
  | "!=" => some (6, total fun a b => flag (a ≠ b))
  | "<" => some (7, total fun a b => flag (a < b))
  | "<=" => some (7, total fun a b => flag (a ≤ b))
  | ">" => some (7, total fun a b => flag (b < a))
  | ">=" => some (7, total fun a b => flag (b ≤ a))
  | "<<" => some (8, bits fun a b => a <<< (b.toNat % 64))
  | ">>" => some (8, bits fun a b => a.sshiftRight (b.toNat % 64))
  | "+" => some (9, total fun a b => a + b)
  | "-" => some (9, total fun a b => a - b)
  | "*" => some (10, total fun a b => a * b)
  | "/" => some (10, fun a b => if b = 0 then none else some (wrap (a.tdiv b)))
  | "%" => some (10, fun a b => if b = 0 then none else some (wrap (a.tmod b)))
  | _ => none

/-- The value of digits in a base, if they are digits of it. -/
def ofDigits? (base : Nat) (cs : List Char) : Option Nat :=
  if cs.isEmpty then none
  else cs.foldlM (fun value c =>
    let digit :=
      if c.isDigit then c.toNat - 48
      else if 'a' ≤ c ∧ c ≤ 'f' then c.toNat - 87
      else if 'A' ≤ c ∧ c ≤ 'F' then c.toNat - 55
      else base
    if digit < base then some (value * base + digit) else none) 0

/-- A number written in base ten, or in base sixteen or eight after `0x` or `0`. -/
def natural? : List Char → Option Nat
  | '0' :: 'x' :: cs | '0' :: 'X' :: cs => ofDigits? 16 cs
  | '0' :: c :: cs => ofDigits? 8 (c :: cs)
  | cs => ofDigits? 10 cs

def whole? (s : String) : Option Int :=
  match Text.trim s.toList with
  | '-' :: cs => (natural? cs).map fun n => -(n : Int)
  | '+' :: cs => (natural? cs).map Int.ofNat
  | cs => (natural? cs).map Int.ofNat

/-- Cuts an expression into tokens. A variable stands for its value; one that is not set, or
empty, for zero. -/
def readTokens (lookUp : String → String) : Nat → List Char → Option (List Token)
  | 0, _ => none
  | _, [] => some []
  | fuel + 1, c :: rest =>
    let cs := c :: rest
    if Text.isBlank c then readTokens lookUp fuel rest
    else if c = '$' then readTokens lookUp fuel rest
    else if c.isDigit then do
      let digits := cs.takeWhile Char.isAlphanum
      return .number (← natural? digits) :: (← readTokens lookUp fuel (cs.drop digits.length))
    else if Reader.isNameStart c then do
      let name := cs.takeWhile Reader.isNameChar
      let value := lookUp (.ofList name)
      let number ← if value.isEmpty then some 0 else whole? value
      return .number number :: (← readTokens lookUp fuel (cs.drop name.length))
    else do
      let operator ← operators.find? fun o => o.toList.isPrefixOf cs
      return .mark operator :: (← readTokens lookUp fuel (cs.drop operator.length))

mutual

/-- Reads an operand and the operators after it that bind as closely as asked for. -/
def readSum : Nat → Nat → List Token → Option (Int × List Token)
  | 0, _, _ => none
  | fuel + 1, least, tokens => do
    let (first, rest) ← readOperand fuel tokens
    readMore fuel least first rest

def readMore : Nat → Nat → Int → List Token → Option (Int × List Token)
  | 0, _, _, _ => none
  | fuel + 1, least, first, tokens =>
    match tokens with
    | .mark operator :: rest =>
      match binary? operator with
      | some (binding, apply) =>
        if binding < least then some (first, tokens)
        else do
          let (second, rest) ← readSum fuel (binding + 1) rest
          readMore fuel least (← apply first second) rest
      | none => some (first, tokens)
    | _ => some (first, tokens)

def readOperand : Nat → List Token → Option (Int × List Token)
  | 0, _ => none
  | fuel + 1, tokens =>
    match tokens with
    | .number value :: rest => some (wrap value, rest)
    | .mark "-" :: rest => (readOperand fuel rest).map fun (v, rest) => (wrap (-v), rest)
    | .mark "+" :: rest => readOperand fuel rest
    | .mark "!" :: rest => (readOperand fuel rest).map fun (v, rest) => (flag (v = 0), rest)
    | .mark "~" :: rest => (readOperand fuel rest).map fun (v, rest) => (wrap (-v - 1), rest)
    | .mark "(" :: rest => do
      let (value, rest) ← readSum fuel 0 rest
      match rest with
      | .mark ")" :: rest => return (value, rest)
      | _ => none
    | _ => none

end

def evaluate (lookUp : String → String) (expression : String) : Option Int := do
  let cs := expression.toList
  let tokens ← readTokens lookUp (cs.length + 1) cs
  if tokens.isEmpty then return 0
  match ← readSum (4 * tokens.length + 4) 0 tokens with
  | (value, []) => return value
  | _ => none

end Arithmetic
end PodNetwork.Rehearsal.Shell
