import PodNetwork.Json.Value

/-! Reading JSON text.

Members keep the order of the text, repeated keys included; `Json.sorted` gives the value in
which the last of equal keys counts. Whole numbers that fit 64 bits stay whole, all other numbers
are rounded to floating point. -/
namespace PodNetwork.Json

def isSpace (c : Char) : Bool := c == ' ' || c == '\t' || c == '\n' || c == '\r'

def skipSpace (cs : List Char) : List Char := cs.dropWhile isSpace

def hexDigit? (c : Char) : Option Nat :=
  if '0' ≤ c && c ≤ '9' then some (c.toNat - 48)
  else if 'a' ≤ c && c ≤ 'f' then some (c.toNat - 87)
  else if 'A' ≤ c && c ≤ 'F' then some (c.toNat - 55)
  else none

/-- Reads four hexadecimal digits. -/
def hex4? : List Char → Option (Nat × List Char)
  | a :: b :: c :: d :: r => do
    let a ← hexDigit? a
    let b ← hexDigit? b
    let c ← hexDigit? c
    let d ← hexDigit? d
    some (((a * 16 + b) * 16 + c) * 16 + d, r)
  | _ => none

/-- Reads what follows a backslash and the letter u: one unit, or a high and a low surrogate. -/
def unicode? (cs : List Char) : Option (Char × List Char) := do
  let (n, r) ← hex4? cs
  if 0xD800 ≤ n && n < 0xDC00 then
    match r with
    | '\\' :: 'u' :: r' =>
      let (m, rest) ← hex4? r'
      if 0xDC00 ≤ m && m < 0xE000 then
        some (Char.ofNat (0x10000 + (n - 0xD800) * 0x400 + (m - 0xDC00)), rest)
      else none
    | _ => none
  else if 0xDC00 ≤ n && n < 0xE000 then none
  else some (Char.ofNat n, r)

/-- Reads a text up to its closing quotation mark. -/
def unquote : Nat → List Char → Option (List Char × List Char)
  | 0, _ => none
  | fuel + 1, cs =>
    match cs with
    | [] => none
    | '"' :: r => some ([], r)
    | '\\' :: e :: r =>
      let simple (c : Char) : Option (List Char × List Char) :=
        (unquote fuel r).map fun (s, rest) => (c :: s, rest)
      match e with
      | '"' => simple '"'
      | '\\' => simple '\\'
      | '/' => simple '/'
      | 'b' => simple '\x08'
      | 'f' => simple '\x0c'
      | 'n' => simple '\n'
      | 'r' => simple '\r'
      | 't' => simple '\t'
      | 'u' => do
        let (c, r') ← unicode? r
        let (s, rest) ← unquote fuel r'
        some (c :: s, rest)
      | _ => none
    | c :: r =>
      if c == '\\' || c.toNat < 0x20 then none
      else (unquote fuel r).map fun (s, rest) => (c :: s, rest)

/-- Whether the digits before the point are there and have no needless zero in front, and the
point, if any, has a digit behind it. -/
def isPlain (body : List Char) : Bool :=
  let whole := body.takeWhile Char.isDigit
  (whole == ['0'] || whole.head?.any (· != '0')) &&
    match body.dropWhile Char.isDigit with
    | ['.'] => false
    | '.' :: d :: _ => d.isDigit
    | _ => true

/-- The value of a numeral: whole if it has neither point nor exponent and fits 64 bits. -/
def numberOf? (cs : List Char) : Option Number :=
  let (negative, body) := match cs with
    | '-' :: r => (true, r)
    | r => (false, r)
  let float := (Binary64.ofText? cs).bind fun x => if x.isFinite then some (.float x) else none
  if !isPlain body then none
  else if body.all Char.isDigit then
    let n : Nat := body.foldl (fun n d => 10 * n + (d.toNat - 48)) 0
    if negative then
      if n = 0 || n > Nat.pow 2 63 then float else some (.whole (-n))
    else if n < Nat.pow 2 64 then some (.whole n)
    else float
  else float

def isNumeral (c : Char) : Bool :=
  c.isDigit || c == '-' || c == '+' || c == '.' || c == 'e' || c == 'E'

mutual

def readValue : Nat → List Char → Option (Json × List Char)
  | 0, _ => none
  | fuel + 1, cs =>
    match skipSpace cs with
    | 'n' :: 'u' :: 'l' :: 'l' :: r => some (.null, r)
    | 't' :: 'r' :: 'u' :: 'e' :: r => some (.bool true, r)
    | 'f' :: 'a' :: 'l' :: 's' :: 'e' :: r => some (.bool false, r)
    | '"' :: r => (unquote (r.length + 1) r).map fun (s, rest) => (.string (.ofList s), rest)
    | '[' :: r =>
      match skipSpace r with
      | ']' :: rest => some (.array [], rest)
      | r' => (readItems fuel r').map fun (vs, rest) => (.array vs, rest)
    | '\x7b' :: r =>
      match skipSpace r with
      | '\x7d' :: rest => some (.object [], rest)
      | r' => (readMembers fuel r').map fun (ms, rest) => (.object ms, rest)
    | c :: r =>
      if c == '-' || c.isDigit then
        (numberOf? (c :: r.takeWhile isNumeral)).map fun n =>
          (.number n, r.dropWhile isNumeral)
      else none
    | [] => none

def readItems : Nat → List Char → Option (List Json × List Char)
  | 0, _ => none
  | fuel + 1, cs => do
    let (v, r) ← readValue fuel cs
    match skipSpace r with
    | ',' :: r' =>
      let (vs, rest) ← readItems fuel r'
      some (v :: vs, rest)
    | ']' :: rest => some ([v], rest)
    | _ => none

def readMembers : Nat → List Char → Option (List (String × Json) × List Char)
  | 0, _ => none
  | fuel + 1, cs => do
    match skipSpace cs with
    | '"' :: r =>
      let (k, r) ← unquote (r.length + 1) r
      match skipSpace r with
      | ':' :: r =>
        let (v, r) ← readValue fuel r
        match skipSpace r with
        | ',' :: r' =>
          let (ms, rest) ← readMembers fuel r'
          some ((String.ofList k, v) :: ms, rest)
        | '\x7d' :: rest => some ([(String.ofList k, v)], rest)
        | _ => none
      | _ => none
    | _ => none

end

/-- Reads a whole text, with the members of objects in the order of the text. -/
def parseRaw? (s : String) : Option Json :=
  let cs := s.toList
  match readValue (2 * cs.length + 2) cs with
  | some (v, rest) => if (skipSpace rest).isEmpty then some v else none
  | none => none

mutual

/-- The value with the members of every object sorted, the last of equal keys counting. -/
def sorted : Json → Json
  | .array items => .array (sortedItems items)
  | .object members => ofMembers (sortedMembers members)
  | v => v

def sortedItems : List Json → List Json
  | [] => []
  | v :: vs => sorted v :: sortedItems vs

def sortedMembers : List (String × Json) → List (String × Json)
  | [] => []
  | (k, v) :: ms => (k, sorted v) :: sortedMembers ms

end

/-- Reads a whole text as a value with sorted, distinct keys. -/
def parse? (s : String) : Option Json := (parseRaw? s).map sorted

end PodNetwork.Json
