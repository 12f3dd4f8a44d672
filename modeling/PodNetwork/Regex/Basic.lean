import PodNetwork.Regex.CharSet

/-! Regular expressions with captures, and the order of their matches.

`outcomes` lists every way an expression can match from a cursor, the preferred one first: the
first branch of an alternation before the second, more repetitions before fewer, or the other way
round when the repetition is lazy. A search tries the places of a text from left to right and
takes the first outcome of the first place that has one. -/
namespace PodNetwork

/-- A condition on a place between characters. -/
inductive Regex.Anchor where
  | textStart
  | textEnd
  | lineStart
  | lineEnd
  | boundary (w : Regex.CharSet)
  | notBoundary (w : Regex.CharSet)
  | wordStart (w : Regex.CharSet)
  | wordEnd (w : Regex.CharSet)
  | halfStart (w : Regex.CharSet)
  | halfEnd (w : Regex.CharSet)
  deriving DecidableEq, Repr, Inhabited

inductive Regex where
  | empty
  | set (s : Regex.CharSet)
  | anchor (a : Regex.Anchor)
  | cat (a b : Regex)
  | alt (a b : Regex)
  /-- At most one repetition. -/
  | optional (greedy : Bool) (r : Regex)
  /-- One or more repetitions. -/
  | plus (greedy : Bool) (r : Regex)
  | group (index : Nat) (r : Regex)
  deriving DecidableEq, Repr, Inhabited

namespace Regex

structure Span where
  start : Nat
  stop : Nat
  deriving DecidableEq, Repr, Inhabited

/-- A place in a text: the characters before it, nearest first, the characters after it, and the
groups captured on the way, latest first. -/
structure Cursor where
  before : List Char
  after : List Char
  groups : List (Nat × Span)
  deriving DecidableEq, Repr, Inhabited

namespace Cursor

def ofText (cs : List Char) : Cursor := ⟨[], cs, []⟩

def offset (c : Cursor) : Nat := c.before.length

def text (c : Cursor) : List Char := c.before.reverse ++ c.after

def capture (c : Cursor) (index start : Nat) : Cursor :=
  { c with groups := (index, ⟨start, c.offset⟩) :: c.groups }

/-- The span of a group that took part in the match. -/
def group? (c : Cursor) (index : Nat) : Option Span :=
  (c.groups.find? fun g => g.1 = index).map Prod.snd

/-- Whether more of the text lies behind the second place than behind the first. -/
def progressed (c d : Cursor) : Bool := d.after.length < c.after.length

end Cursor

/-- Whether the neighbour of a place belongs to a set; the ends of the text do not. -/
def neighbour (s : CharSet) : List Char → Bool
  | [] => false
  | c :: _ => s.mem c

def Anchor.holds (a : Anchor) (c : Cursor) : Bool :=
  match a with
  | .textStart => c.before.isEmpty
  | .textEnd => c.after.isEmpty
  | .lineStart => c.before.isEmpty || neighbour .newline c.before
  | .lineEnd => c.after.isEmpty || neighbour .newline c.after
  | .boundary w => neighbour w c.before != neighbour w c.after
  | .notBoundary w => neighbour w c.before == neighbour w c.after
  | .wordStart w => !neighbour w c.before && neighbour w c.after
  | .wordEnd w => neighbour w c.before && !neighbour w c.after
  | .halfStart w => !neighbour w c.before
  | .halfEnd w => !neighbour w c.after

/-- The places after any further number of repetitions, with the places seen so far. A repetition
that consumes nothing is not taken, and a place seen before gives nothing new, for what follows
depends on the place alone. The first argument bounds the number of repetitions. -/
def again (step : Cursor → List Cursor) (greedy : Bool) :
    Nat → List Nat → Cursor → List Nat × List Cursor
  | 0, seen, c => (seen, [c])
  | fuel + 1, seen, c =>
    if seen.contains c.offset then (seen, [])
    else
      let (seen, more) := ((step c).filter c.progressed).foldl
        (fun (seen, out) d =>
          let (seen, new) := again step greedy fuel seen d
          (seen, out ++ new))
        (c.offset :: seen, [])
      (seen, if greedy then more ++ [c] else c :: more)

/-- The places after one or more repetitions from a cursor. A first repetition that consumes
nothing is taken, and ends there. -/
def repetitions (step : Cursor → List Cursor) (greedy : Bool) (c : Cursor) : List Cursor :=
  ((step c).foldl
    (fun (seen, out) d =>
      if c.progressed d then
        let (seen, new) := again step greedy (d.after.length + 1) seen d
        (seen, out ++ new)
      else (seen, out ++ [d]))
    (([] : List Nat), [])).2

/-- All ways to match from a cursor, the preferred one first. -/
def outcomes : Regex → Cursor → List Cursor
  | .empty, c => [c]
  | .set s, c =>
    match c.after with
    | [] => []
    | x :: rest => if s.mem x then [{ c with before := x :: c.before, after := rest }] else []
  | .anchor a, c => if a.holds c then [c] else []
  | .cat a b, c => (outcomes a c).flatMap (outcomes b)
  | .alt a b, c => outcomes a c ++ outcomes b c
  | .optional greedy r, c => if greedy then outcomes r c ++ [c] else c :: outcomes r c
  | .plus greedy r, c => repetitions (outcomes r) greedy c
  | .group index r, c => (outcomes r c).map fun d => d.capture index c.offset

theorem mem_outcomes_cat {a b : Regex} {c d : Cursor} :
    d ∈ outcomes (.cat a b) c ↔ ∃ m ∈ outcomes a c, d ∈ outcomes b m := by
  simp [outcomes]

theorem mem_outcomes_alt {a b : Regex} {c d : Cursor} :
    d ∈ outcomes (.alt a b) c ↔ d ∈ outcomes a c ∨ d ∈ outcomes b c := List.mem_append

def star (greedy : Bool) (r : Regex) : Regex := .optional greedy (.plus greedy r)

def catOf : List Regex → Regex
  | [] => .empty
  | [r] => r
  | r :: rs => .cat r (catOf rs)

def power (r : Regex) (n : Nat) : Regex := catOf (List.replicate n r)

def upTo (greedy : Bool) (r : Regex) : Nat → Regex
  | 0 => .empty
  | n + 1 => .optional greedy (match n with
    | 0 => r
    | _ => .cat r (upTo greedy r n))

/-- Between `least` and `most` repetitions; no upper bound when `most` is missing. -/
def times (greedy : Bool) (r : Regex) (least : Nat) (most : Option Nat) : Regex :=
  match most with
  | some m =>
    if least = m then r.power m
    else if least = 0 then upTo greedy r m
    else .cat (r.power least) (upTo greedy r (m - least))
  | none =>
    match least with
    | 0 => star greedy r
    | n + 1 => .cat (r.power n) (.plus greedy r)

/-- The characters of a literal text, as expressions to be put one after the other. -/
def letters (s : String) : List Regex := s.toList.map fun c => .set (.single c)

/-- One more than the greatest index of a group, the whole match counting as group zero. -/
def groupCount : Regex → Nat
  | .group index r => max (index + 1) r.groupCount
  | .cat a b | .alt a b => max a.groupCount b.groupCount
  | .optional _ r | .plus _ r => r.groupCount
  | _ => 1

def size : Regex → Nat
  | .cat a b | .alt a b => a.size + b.size + 1
  | .optional _ r | .plus _ r | .group _ r => r.size + 1
  | _ => 1

def searchFrom (r : Regex) : List Char → List Char → Option Cursor
  | before, [] => (outcomes r ⟨before, [], []⟩).head?
  | before, c :: rest =>
    match (outcomes r ⟨before, c :: rest, []⟩).head? with
    | some d => some d
    | none => searchFrom r (c :: before) rest

/-- The leftmost match in a text, as the cursor at its end. -/
def search (r : Regex) (cs : List Char) : Option Cursor := searchFrom r [] cs

end Regex
end PodNetwork
