import PodNetwork.Yaml.Cursor
import PodNetwork.Json.Reader

/-! Reading scalars: plain, quoted and block ones.

A line break inside a plain or quoted scalar is folded: a single one stands for a space, and of
several the first one goes. Reading fails where the text is malformed; what is wrong is not told. -/
namespace PodNetwork.Yaml.Scalar

/-- What separates two words of a scalar: blanks on one line, or line breaks with the blanks
around them. -/
structure Gap where
  broken : Bool := false
  blanks : List Char := []
  /-- The first line break. -/
  first : List Char := []
  /-- The further line breaks. -/
  more : List Char := []

def Gap.text (gap : Gap) : List Char :=
  if !gap.broken then gap.blanks
  else if gap.first = ['\n'] then (if gap.more.isEmpty then [' '] else gap.more)
  else gap.first ++ gap.more

/-- Reads a gap. A tab may not take the place of indentation that is required behind a line
break. -/
def readGap (indent : Nat) : Nat → Gap → Cursor → Option (Gap × Cursor)
  | 0, _, _ => none
  | fuel + 1, gap, c =>
    match c.head? with
    | none => some (gap, c)
    | some x =>
      if isBlank x then
        if gap.broken then
          if x == '\t' && c.column < indent then none else readGap indent fuel gap c.next
        else readGap indent fuel { gap with blanks := gap.blanks ++ [x] } c.next
      else if isBreak x then
        if gap.broken then readGap indent fuel { gap with more := gap.more ++ [x] } c.next
        else readGap indent fuel { gap with broken := true, first := [x] } c.next
      else some (gap, c)

/-- The characters that end a word of a plain scalar in a flow collection. -/
def isFlowIndicator (c : Char) : Bool :=
  c == ',' || c == '[' || c == ']' || c == '\x7b' || c == '\x7d'

/-- Reads a word of a plain scalar, which a colon before a space ends. -/
def readWord (inFlow : Bool) : Nat → Cursor → Option (List Char × Cursor)
  | 0, _ => none
  | fuel + 1, c =>
    if c.spaceAt 0 then some ([], c)
    else match c.head? with
      | none => some ([], c)
      | some x =>
        let behind := (c.rest.drop 1).head?
        if inFlow && x == ':' && behind.any (fun y => isFlowIndicator y || y == '?') then none
        else if (x == ':' && c.spaceAt 1) || (inFlow && isFlowIndicator x) then some ([], c)
        else (readWord inFlow fuel c.next).map fun (word, c) => (x :: word, c)

/-- Reads the words of a plain scalar. The flag of the result tells whether the scalar ended with
a line break. -/
def readPlainFrom (inFlow : Bool) (indent : Nat) :
    Nat → List Char → Gap → Cursor → Option (List Char × Bool × Cursor)
  | 0, _, _, _ => none
  | fuel + 1, text, gap, c =>
    if c.atDocumentMark || c.sees '#' then some (text, gap.broken, c)
    else do
      let (word, after) ← readWord inFlow (c.rest.length + 1) c
      let text := if word.isEmpty then text else text ++ gap.text ++ word
      let gap := if word.isEmpty then gap else {}
      if after.spaceAt 0 && !after.rest.isEmpty then
        let (gap, after) ← readGap indent (after.rest.length + 1) gap after
        if !inFlow && after.column < indent then some (text, gap.broken, after)
        else readPlainFrom inFlow indent fuel text gap after
      else some (text, gap.broken, after)

def readPlain (inFlow : Bool) (indent : Nat) (c : Cursor) :
    Option (List Char × Bool × Cursor) :=
  readPlainFrom inFlow indent (c.rest.length + 1) [] {} c

/-- The character that a backslash and a letter stand for. -/
def simpleEscape? (c : Char) : Option Char :=
  match c with
  | '0' => some '\x00'
  | 'a' => some '\x07'
  | 'b' => some '\x08'
  | 't' | '\t' => some '\t'
  | 'n' => some '\n'
  | 'v' => some '\x0b'
  | 'f' => some '\x0c'
  | 'r' => some '\r'
  | 'e' => some '\x1b'
  | ' ' => some ' '
  | '"' => some '"'
  | '/' => some '/'
  | '\\' => some '\\'
  | 'N' => some '\x85'
  | '_' => some '\xa0'
  | 'L' => some '\u2028'
  | 'P' => some '\u2029'
  | _ => none

/-- The number of hexadecimal digits behind a backslash and a letter. -/
def hexLength? (c : Char) : Option Nat :=
  match c with
  | 'x' => some 2
  | 'u' => some 4
  | 'U' => some 8
  | _ => none

def hexValue? (ds : List Char) : Option Nat :=
  ds.foldlM (fun n d => (Json.hexDigit? d).map (16 * n + ·)) 0

/-- Reads what follows a backslash. -/
def readEscape (c : Cursor) : Option (Char × Cursor) := do
  let x ← c.head?
  match simpleEscape? x with
  | some y => some (y, c.next)
  | none =>
    let n ← hexLength? x
    let ds := (c.rest.drop 1).take n
    if ds.length < n then none
    else
      let value ← hexValue? ds
      if value.isValidChar then some (Char.ofNat value, c.advance (n + 1)) else none

/-- Reads a word of a quoted scalar, up to a space or the closing quote. An escaped line break
ends the word too, and is part of no gap; the flag of the result tells of it. -/
def readQuotedWord (single : Bool) : Nat → Cursor → Option (List Char × Bool × Cursor)
  | 0, _ => none
  | fuel + 1, c =>
    let more (x : Char) (c : Cursor) : Option (List Char × Bool × Cursor) :=
      (readQuotedWord single fuel c).map fun (word, escaped, c) => (x :: word, escaped, c)
    if c.spaceAt 0 then some ([], false, c)
    else match c.rest, single with
      | '\'' :: '\'' :: _, true => more '\'' (c.advance 2)
      | '\'' :: _, true => some ([], false, c)
      | '"' :: _, false => some ([], false, c)
      | '\\' :: y :: _, false =>
        if isBreak y then some ([], true, c.advance 2)
        else do
          let (x, c) ← readEscape c.next
          more x c
      | ['\\'], false => none
      | x :: _, _ => more x c.next
      | [], _ => none

/-- Reads a quoted scalar from behind its opening quote to behind its closing one. -/
def readQuotedFrom (single : Bool) : Nat → List Char → Cursor → Option (List Char × Cursor)
  | 0, _, _ => none
  | fuel + 1, text, c =>
    if c.atDocumentMark || c.rest.isEmpty then none
    else do
      let (word, escaped, c) ← readQuotedWord single (c.rest.length + 1) c
      let text := text ++ word
      if !escaped && c.sees (if single then '\'' else '"') then some (text, c.next)
      else
        let (gap, c) ← readGap 0 (c.rest.length + 1) { broken := escaped } c
        readQuotedFrom single fuel (text ++ gap.text) c

def readQuoted (single : Bool) (c : Cursor) : Option (List Char × Cursor) :=
  readQuotedFrom single (c.rest.length + 1) [] c

/-- What becomes of the line breaks at the end of a block scalar. -/
inductive Chomping where
  | strip
  | clip
  | keep
  deriving DecidableEq, Repr

structure Header where
  chomping : Chomping := .clip
  increment : Option Nat := none

def readIncrement (c : Cursor) : Option (Option Nat × Cursor) :=
  match c.head? with
  | some x =>
    if x.isDigit then (if x == '0' then none else some (some (x.toNat - 48), c.next))
    else some (none, c)
  | none => some (none, c)

def readChomping (c : Cursor) : Option Chomping × Cursor :=
  match c.head? with
  | some '+' => (some .keep, c.next)
  | some '-' => (some .strip, c.next)
  | _ => (none, c)

/-- Reads the header of a block scalar, the two indicators of which come in any order. -/
def readHeader (c : Cursor) : Option (Header × Cursor) := do
  let (chomping, c) := readChomping c
  let (increment, c) ← readIncrement c
  let (chomping, c) :=
    if chomping.isNone && increment.isSome then readChomping c else (chomping, c)
  let c := (c.skip isBlank).skipComment
  if c.lineEnds then some (⟨chomping.getD .clip, increment⟩, c.next) else none

/-- Reads the indentation and the empty lines before a line of a block scalar: the line breaks and
the greatest column that was reached. No column is the limit while the indentation is not
known. -/
def readEmptyLines (indent : Option Nat) :
    Nat → List Char → Nat → Cursor → Option (List Char × Nat × Cursor)
  | 0, _, _, _ => none
  | fuel + 1, breaks, reached, c =>
    let within := indent.all (c.column < ·)
    match c.head? with
    | some ' ' =>
      if within then readEmptyLines indent fuel breaks (max reached (c.column + 1)) c.next
      else some (breaks, reached, c)
    | some '\t' => if within then none else some (breaks, reached, c)
    | some x =>
      if isBreak x then readEmptyLines indent fuel (breaks ++ [x]) reached c.next
      else some (breaks, reached, c)
    | none => some (breaks, reached, c)

/-- Reads the lines of a block scalar. Folding joins two lines with a space, unless one of them
starts with a blank. -/
def readBlockLines (literal : Bool) (indent : Nat) :
    Nat → List Char → List Char → List Char → Bool → Cursor →
      Option (List Char × List Char × List Char × Cursor)
  | 0, _, _, _, _, _ => none
  | fuel + 1, text, first, more, afterBlank, c =>
    if c.column ≠ indent || c.rest.isEmpty then some (text, first, more, c)
    else do
      let blank := c.head?.any isBlank
      let joint :=
        if !literal && first == ['\n'] && !afterBlank && !blank then
          (if more.isEmpty then [' '] else [])
        else first
      let (line, c) := c.span (!isBreak ·)
      let first := (c.rest.take 1)
      let (more', _, c) ← readEmptyLines (some indent) (c.rest.length + 1) [] 0 c.next
      readBlockLines literal indent fuel (text ++ joint ++ more ++ line) first more' blank c

/-- Reads a block scalar from behind its indicator. The indentation around it is that of the
enclosing collection, or none at the top. -/
def readBlock (literal : Bool) (outer : Int) (c : Cursor) : Option (List Char × Cursor) := do
  let (header, c) ← readHeader c
  let given := header.increment.map fun n => (max outer 0).toNat + n
  let (more, reached, c) ← readEmptyLines given (c.rest.length + 1) [] 0 c
  let indent := given.getD (max (max reached (outer + 1).toNat) 1)
  let (text, first, more, c) ←
    readBlockLines literal indent (c.rest.length + 1) [] [] more false c
  let ending := match header.chomping with
    | .strip => []
    | .clip => first
    | .keep => first ++ more
  some (text ++ ending, c)

end PodNetwork.Yaml.Scalar
