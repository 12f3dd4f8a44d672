/-! Places in a YAML text, and the classes of characters.

Line breaks are made uniform before reading: carriage returns and next-line characters become
newlines, and the two Unicode separators stay as they are. Every line break is then one
character. -/
namespace PodNetwork.Yaml

def isAllowed (c : Char) : Bool :=
  let n := c.toNat
  n == 0x09 || n == 0x0A || n == 0x0D || (0x20 ≤ n && n ≤ 0x7E) || n == 0x85 ||
    (0xA0 ≤ n && n ≤ 0xD7FF) || (0xE000 ≤ n && n ≤ 0xFFFD) || 0x10000 ≤ n

def byteOrderMark : Char := '\uFEFF'

def uniform : List Char → List Char
  | [] => []
  | '\r' :: '\n' :: r => '\n' :: uniform r
  | c :: r => (if c == '\r' || c == '\x85' then '\n' else c) :: uniform r

def isBreak (c : Char) : Bool := c == '\n' || c == '\u2028' || c == '\u2029'

def isBlank (c : Char) : Bool := c == ' ' || c == '\t'

def isNameChar (c : Char) : Bool := c.isAlphanum || c == '_' || c == '-'

/-- A place in a text: what lies ahead, and where the place is. -/
structure Cursor where
  rest : List Char
  line : Nat := 0
  column : Nat := 0
  index : Nat := 0
  deriving DecidableEq, Repr, Inhabited

namespace Cursor

def head? (c : Cursor) : Option Char := c.rest.head?

def sees (c : Cursor) (x : Char) : Bool := c.rest.head? == some x

/-- Whether nothing, a blank or a line break lies ahead, some characters on. -/
def spaceAt (c : Cursor) (n : Nat) : Bool :=
  match c.rest.drop n with
  | [] => true
  | x :: _ => isBlank x || isBreak x

def lineEnds (c : Cursor) : Bool :=
  match c.rest with
  | [] => true
  | x :: _ => isBreak x

def next (c : Cursor) : Cursor :=
  match c.rest with
  | [] => c
  | x :: r =>
    if isBreak x then ⟨r, c.line + 1, 0, c.index + 1⟩
    else ⟨r, c.line, c.column + 1, c.index + 1⟩

def advance (c : Cursor) (n : Nat) : Cursor := (List.range n).foldl (fun c _ => c.next) c

def span (c : Cursor) (p : Char → Bool) : List Char × Cursor :=
  let taken := c.rest.takeWhile p
  let n := taken.length
  (taken, ⟨c.rest.dropWhile p, c.line, c.column + n, c.index + n⟩)

def skip (c : Cursor) (p : Char → Bool) : Cursor := (c.span p).2

def skipComment (c : Cursor) : Cursor :=
  if c.sees '#' then c.skip (!isBreak ·) else c

def atDocumentMark (c : Cursor) : Bool :=
  c.column == 0 && (c.rest.take 3 == ['-', '-', '-'] || c.rest.take 3 == ['.', '.', '.']) &&
    c.spaceAt 3

end Cursor
end PodNetwork.Yaml
