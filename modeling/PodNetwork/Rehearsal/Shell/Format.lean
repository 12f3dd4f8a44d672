import PodNetwork.Rehearsal.Shell.Arithmetic
import PodNetwork.Text.Utf8

/-! What a shell's own commands write: text with escapes, and arguments put into a format. -/
namespace PodNetwork.Rehearsal.Shell

/-- Text written for a format. -/
structure Written where
  output : Bytes := []
  /-- The arguments that are not used yet. -/
  rest : List String := []
  /-- The arguments that are no numbers, although the format takes them for some. -/
  refused : List String := []
  /-- Whether nothing more is to be written. -/
  stopped : Bool := false
  deriving DecidableEq, Repr, Inhabited

namespace Format

def ofChars (cs : List Char) : Bytes := Bytes.ofString (.ofList cs)

def octal (most : Nat) (cs : List Char) : UInt8 × List Char :=
  let digits := (cs.take most).takeWhile fun c => '0' ≤ c ∧ c ≤ '7'
  (UInt8.ofNat (digits.foldl (fun n c => 8 * n + (c.toNat - 48)) 0), cs.drop digits.length)

/-- The byte that a letter stands for after a backslash. -/
def letter? : Char → Option UInt8
  | 'a' => some 7
  | 'b' => some 8
  | 'f' => some 12
  | 'n' => some 10
  | 'r' => some 13
  | 't' => some 9
  | 'v' => some 11
  | '\\' => some 92
  | _ => none

/-- What a backslash and the characters after it stand for. -/
def escape (cs : List Char) : Bytes × List Char :=
  match cs with
  | c :: rest =>
    match letter? c with
    | some b => ([b], rest)
    | none =>
      if '0' ≤ c ∧ c ≤ '7' then
        let (b, rest) := octal 3 cs
        ([b], rest)
      else ([92], cs)
  | [] => ([92], [])

/-- A text with its escapes replaced, and whether one of them says to stop. -/
def unescape : Nat → List Char → Bytes × Bool
  | 0, _ => ([], false)
  | _, [] => ([], false)
  | _, '\\' :: 'c' :: _ => ([], true)
  | fuel + 1, '\\' :: '0' :: rest =>
    let (b, rest) := octal 3 rest
    let (output, stopped) := unescape fuel rest
    (b :: output, stopped)
  | fuel + 1, '\\' :: rest =>
    let (bs, rest) := escape rest
    let (output, stopped) := unescape fuel rest
    (bs ++ output, stopped)
  | fuel + 1, c :: rest =>
    let (output, stopped) := unescape fuel rest
    (ofChars [c] ++ output, stopped)

structure Shape where
  left : Bool := false
  zeros : Bool := false
  plus : Bool := false
  width : Nat := 0
  precision : Option Nat := none
  deriving DecidableEq, Repr, Inhabited

def Shape.pad (shape : Shape) (bs : Bytes) : Bytes :=
  let fill := List.replicate (shape.width - bs.length) (32 : UInt8)
  if shape.left then bs ++ fill else fill ++ bs

def Shape.digits (shape : Shape) (negative : Bool) (digits : List Char) : Bytes :=
  let sign := if negative then "-" else if shape.plus then "+" else ""
  let least := match shape.precision with
    | some p => p
    | none => if shape.zeros && !shape.left then shape.width - sign.length else 0
  let zeros := List.replicate (least - digits.length) '0'
  shape.pad (ofChars (sign.toList ++ zeros ++ digits))

def readFlags (shape : Shape) : List Char → Shape × List Char
  | '-' :: rest => readFlags { shape with left := true } rest
  | '0' :: rest => readFlags { shape with zeros := true } rest
  | '+' :: rest => readFlags { shape with plus := true } rest
  | rest => (shape, rest)

def readNumber (cs : List Char) : Nat × List Char :=
  let digits := cs.takeWhile Char.isDigit
  ((String.ofList digits).toNat?.getD 0, cs.drop digits.length)

/-- Reads all of a conversion but its letter. -/
def readShape (cs : List Char) : Shape × List Char :=
  let (shape, rest) := readFlags {} cs
  let (width, rest) := readNumber rest
  let shape := { shape with width }
  match rest with
  | '.' :: rest =>
    let (precision, rest) := readNumber rest
    ({ shape with precision := some precision }, rest)
  | rest => (shape, rest)

/-- The number that an argument gives; none gives zero. -/
def numberOf : Option String → Int × List String
  | none => (0, [])
  | some "" => (0, [])
  | some s =>
    match s.toList with
    | '\'' :: c :: _ | '"' :: c :: _ => (c.toNat, [])
    | _ =>
      match Arithmetic.whole? s with
      | some n => (n, [])
      | none => (0, [s])

/-- An argument put into the form that a letter asks for. -/
def convert (shape : Shape) (letter : Char) (arg : Option String) : Option Written :=
  let text := arg.getD ""
  let cut (bs : Bytes) : Bytes := shape.precision.elim bs bs.take
  let number (base : Nat) (upper : Bool) : Written :=
    let (n, refused) := numberOf arg
    let value : Nat := if base = 10 then n.natAbs else (n.emod (Int.ofNat (Nat.pow 2 64))).toNat
    let digits := Nat.toDigits base value
    let digits := if upper then digits.map Char.toUpper else digits
    { output := shape.digits (base = 10 && n < 0) digits, refused }
  match letter with
  | 's' => some { output := shape.pad (cut (Bytes.ofString text)) }
  | 'b' =>
    let (bs, stopped) := unescape (text.length + 1) text.toList
    some { output := shape.pad (cut bs), stopped }
  | 'c' => some { output := shape.pad ((Bytes.ofString text).take 1) }
  | 'd' | 'i' | 'u' => some (number 10 false)
  | 'o' => some (number 8 false)
  | 'x' => some (number 16 false)
  | 'X' => some (number 16 true)
  | _ => none

/-- Goes once through a format. -/
def once : Nat → List Char → Written → Written
  | 0, _, w => w
  | _, [], w => w
  | fuel + 1, '%' :: '%' :: cs, w => once fuel cs { w with output := w.output ++ [37] }
  | fuel + 1, '%' :: cs, w =>
    match readShape cs with
    | (shape, letter :: cs) =>
      match convert shape letter w.rest.head? with
      | some new =>
        let w := { output := w.output ++ new.output, rest := w.rest.drop 1,
                   refused := w.refused ++ new.refused, stopped := new.stopped }
        if w.stopped then w else once fuel cs w
      | none => { w with stopped := true }
    | _ => { w with stopped := true }
  | fuel + 1, '\\' :: cs, w =>
    let (bs, cs) := escape cs
    once fuel cs { w with output := w.output ++ bs }
  | fuel + 1, c :: cs, w => once fuel cs { w with output := w.output ++ ofChars [c] }

/-- Goes through a format until all arguments are used, and at least once. -/
def fill (format : List Char) : Nat → Written → Written
  | 0, w => w
  | fuel + 1, w =>
    let next := once (format.length + 1) format w
    if next.stopped || next.rest.isEmpty || next.rest.length = w.rest.length then next
    else fill format fuel next

def format (form : String) (args : List String) : Written :=
  fill form.toList (args.length + 1) { rest := args }

def echo (args : List String) : Bytes :=
  let (newline, args) := match args with
    | "-n" :: args => (false, args)
    | args => (true, args)
  let text := Text.joinStrings " " args
  let (bs, stopped) := unescape (text.length + 1) text.toList
  if newline && !stopped then bs ++ [10] else bs

end Format
end PodNetwork.Rehearsal.Shell
