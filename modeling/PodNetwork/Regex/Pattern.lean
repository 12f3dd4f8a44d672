import PodNetwork.Regex.Basic

/-! Reading the text of a pattern.

A pattern that cannot be read has no expression; what is wrong with it is not told. There is
neither look-around nor a way to refer back to a group. -/
namespace PodNetwork.Regex.Pattern

/-- The flags in force at a place of a pattern. -/
structure Flags where
  ignoreCase : Bool := false
  multiLine : Bool := false
  dotAll : Bool := false
  swapGreed : Bool := false
  unicode : Bool := true
  verbose : Bool := false
  crlf : Bool := false

/-- What is left to read, the flags in force, the number of the next group, and the names given
to groups so far. -/
structure State where
  rest : List Char
  flags : Flags := {}
  next : Nat := 1
  names : List (List Char) := []

namespace State

/-- In verbose patterns, drops white space and comments. -/
def skip (st : State) : State :=
  if st.flags.verbose then { st with rest := dropIgnored (st.rest.length + 1) st.rest } else st
where
  dropIgnored : Nat → List Char → List Char
    | 0, cs => cs
    | fuel + 1, cs =>
      match cs.dropWhile Text.isBlank with
      | '#' :: r => dropIgnored fuel (r.dropWhile (· != '\n'))
      | r => r

def advance (st : State) (rest : List Char) : State := { st with rest }

def cased (st : State) (s : CharSet) : CharSet := if st.flags.ignoreCase then .folded s else s

def wordSet (st : State) : CharSet := if st.flags.unicode then .word else .asciiWord

end State

def natOf (ds : List Char) : Nat := ds.foldl (fun n d => 10 * n + (d.toNat - 48)) 0

def hexOf? (ds : List Char) : Option Nat :=
  if ds.isEmpty then none
  else ds.foldlM (fun n d =>
    if d.isDigit then some (16 * n + (d.toNat - 48))
    else if 'a' ≤ d && d ≤ 'f' then some (16 * n + (d.toNat - 87))
    else if 'A' ≤ d && d ≤ 'F' then some (16 * n + (d.toNat - 55))
    else none) 0

def charOf? (n : Nat) : Option Char := if n.isValidChar then some (Char.ofNat n) else none

/-- Reads what follows `x`, `u` or `U` behind a backslash: that many digits, or any number of
them between braces. -/
def hexEscape? (width : Nat) : List Char → Option (Char × List Char)
  | '\x7b' :: r => do
    let ds := r.takeWhile (· != '\x7d')
    let c ← (hexOf? ds).bind charOf?
    match r.drop ds.length with
    | '\x7d' :: rest => some (c, rest)
    | _ => none
  | r => do
    let ds := r.take width
    if ds.length < width then none
    else
      let c ← (hexOf? ds).bind charOf?
      some (c, r.drop width)

inductive Escape where
  | char (c : Char)
  | set (s : CharSet)
  | anchor (a : Anchor)

def anchorName? (w : CharSet) : List Char → Option Anchor
  | ['s', 't', 'a', 'r', 't'] => some (.wordStart w)
  | ['e', 'n', 'd'] => some (.wordEnd w)
  | ['s', 't', 'a', 'r', 't', '-', 'h', 'a', 'l', 'f'] => some (.halfStart w)
  | ['e', 'n', 'd', '-', 'h', 'a', 'l', 'f'] => some (.halfEnd w)
  | _ => none

/-- Reads what follows a backslash. -/
def escape? (st : State) : List Char → Option (Escape × List Char)
  | [] => none
  | c :: r =>
    let unicode := st.flags.unicode
    let negated (s : CharSet) : Option (Escape × List Char) :=
      if unicode then some (.set (.negated s), r) else none
    match c with
    | 'x' => (hexEscape? 2 r).map fun (c, r) => (.char c, r)
    | 'u' => (hexEscape? 4 r).map fun (c, r) => (.char c, r)
    | 'U' => (hexEscape? 8 r).map fun (c, r) => (.char c, r)
    | 'd' => some (.set (if unicode then .digit else .asciiDigit), r)
    | 's' => some (.set (if unicode then .blank else .asciiBlank), r)
    | 'w' => some (.set st.wordSet, r)
    | 'D' => negated .digit
    | 'S' => negated .blank
    | 'W' => negated .word
    | 'a' => some (.char '\x07', r)
    | 'f' => some (.char '\x0c', r)
    | 't' => some (.char '\t', r)
    | 'r' => some (.char '\r', r)
    | 'n' => some (.char '\n', r)
    | 'v' => some (.char '\x0b', r)
    | 'A' => some (.anchor .textStart, r)
    | 'z' => some (.anchor .textEnd, r)
    | 'B' => if unicode then some (.anchor (.notBoundary st.wordSet), r) else none
    | '<' => some (.anchor (.wordStart st.wordSet), r)
    | '>' => some (.anchor (.wordEnd st.wordSet), r)
    | 'b' =>
      match r with
      | '\x7b' :: n :: r' =>
        if n.isAlpha || n == '-' then do
          let name := (n :: r').takeWhile (· != '\x7d')
          let a ← anchorName? st.wordSet name
          match (n :: r').drop name.length with
          | '\x7d' :: rest => some (.anchor a, rest)
          | _ => none
        else some (.anchor (.boundary st.wordSet), r)
      | _ => some (.anchor (.boundary st.wordSet), r)
    | c => if c.toNat < 0x80 && !c.isAlphanum then some (.char c, r) else none

/-- Reads a class named between `[:` and `:]`. -/
def namedClass? : List Char → Option (CharSet × List Char)
  | '[' :: ':' :: r =>
    let (negated, r) := match r with
      | '^' :: r' => (true, r')
      | r' => (false, r')
    let name := r.takeWhile Char.isAlpha
    match r.drop name.length with
    | ':' :: ']' :: rest =>
      (CharSet.named? (.ofList name)).map fun s => (if negated then .negated s else s, rest)
    | _ => none
  | _ => none

/-- One member of a class: a character that may start a range, or a set. -/
def classItem? (st : State) : List Char → Option (Escape × List Char)
  | '\\' :: r => do
    let (e, rest) ← escape? st r
    match e with
    | .anchor _ => none
    | e => some (e, rest)
  | c :: r => some (.char c, r)
  | [] => none

inductive Combine where
  | inter
  | minus
  | differ

def Combine.apply : Combine → CharSet → CharSet → CharSet
  | .inter => .inter
  | .minus => .minus
  | .differ => .differ

def operator? : List Char → Option (Combine × List Char)
  | '&' :: '&' :: r => some (.inter, r)
  | '-' :: '-' :: r => some (.minus, r)
  | '~' :: '~' :: r => some (.differ, r)
  | _ => none

abbrev Left := Option (CharSet × Combine)

def Left.close (left : Left) (s : CharSet) : CharSet :=
  match left with
  | none => s
  | some (l, op) => op.apply l s

mutual

/-- Reads a class after its opening bracket. -/
def classBody? : Nat → State → List Char → Option (CharSet × List Char)
  | 0, _, _ => none
  | fuel + 1, st, cs =>
    let cs := (st.advance cs).skip.rest
    let (negated, cs) := match cs with
      | '^' :: r => (true, (st.advance r).skip.rest)
      | r => (false, r)
    let dashes := cs.takeWhile (· == '-')
    let cs := cs.drop dashes.length
    let start : List CharSet := dashes.map .single
    let (start, cs) := match start, cs with
      | [], ']' :: r => ([CharSet.single ']'], r)
      | s, r => (s, r)
    (classItems? fuel st none start cs).map fun (s, rest) =>
      (if negated then .negated s else s, rest)

/-- Reads members up to the closing bracket, with the operand on the left and the members read
so far. -/
def classItems? : Nat → State → Left → List CharSet → List Char → Option (CharSet × List Char)
  | 0, _, _, _, _ => none
  | fuel + 1, st, left, items, cs =>
    let cs := (st.advance cs).skip.rest
    let current := st.cased (.unionOf items.reverse)
    match operator? cs with
    | some (op, r) => classItems? fuel st (some (Left.close left current, op)) [] r
    | none =>
      match cs with
      | [] => none
      | ']' :: r => some (Left.close left current, r)
      | '[' :: r =>
        match namedClass? cs with
        | some (s, rest) => classItems? fuel st left (s :: items) rest
        | none => do
          let (s, rest) ← classBody? fuel st r
          classItems? fuel st left (s :: items) rest
      | _ => do
        let (low, r) ← classItem? st cs
        let r := (st.advance r).skip.rest
        let plain (s : CharSet) := classItems? fuel st left (s :: items) r
        match low, r with
        | .set s, '-' :: n :: _ => if n == ']' || n == '-' then plain s else none
        | .set s, _ => plain s
        | .anchor _, _ => none
        | .char _, ['-'] => none
        | .char a, '-' :: r' =>
          match (st.advance r').skip.rest with
          | n :: r'' =>
            if n == ']' || n == '-' then plain (.single a)
            else do
              let (high, rest) ← classItem? st (n :: r'')
              match high with
              | .char b =>
                if a.toNat ≤ b.toNat then
                  classItems? fuel st left (.range a.toNat b.toNat :: items) rest
                else none
              | _ => none
          | [] => none
        | .char a, _ => plain (.single a)

end

/-- Reads the bounds of a counted repetition after its opening brace. -/
def bounds? (cs : List Char) : Option (Nat × Option Nat × List Char) := do
  let number? (cs : List Char) : Option (Nat × List Char) :=
    let cs := cs.dropWhile Text.isBlank
    let ds := cs.takeWhile Char.isDigit
    if ds.isEmpty || natOf ds ≥ Nat.pow 2 32 then none
    else some (natOf ds, (cs.drop ds.length).dropWhile Text.isBlank)
  let (least, r) ← number? cs
  match r with
  | '\x7d' :: rest => some (least, some least, rest)
  | ',' :: '\x7d' :: rest => some (least, none, rest)
  | ',' :: r' =>
    let (most, r'') ← number? r'
    match r'' with
    | '\x7d' :: rest => if least ≤ most then some (least, some most, rest) else none
    | _ => none
  | _ => none

/-- Reads flags up to a colon or a closing parenthesis, which is left unread. -/
def flags? (flags : Flags) : Bool → List Char → List Char → Option (Flags × List Char)
  | _, _, [] => none
  | off, seen, c :: r =>
    if c == ':' || c == ')' then
      if seen.head? = some '-' then none else some (flags, c :: r)
    else if seen.contains c then none
    else
      let on := !off
      match c with
      | '-' => flags? flags true ('-' :: seen) r
      | 'i' => flags? { flags with ignoreCase := on } off (c :: seen) r
      | 'm' => flags? { flags with multiLine := on } off (c :: seen) r
      | 's' => flags? { flags with dotAll := on } off (c :: seen) r
      | 'U' => flags? { flags with swapGreed := on } off (c :: seen) r
      | 'u' => flags? { flags with unicode := on } off (c :: seen) r
      | 'x' => flags? { flags with verbose := on } off (c :: seen) r
      | 'R' => flags? { flags with crlf := on } off (c :: seen) r
      | _ => none

/-- Reads the name of a group up to its closing angle bracket. -/
def groupName? (st : State) (cs : List Char) : Option (List Char × List Char) :=
  let name := cs.takeWhile (· != '>')
  let letter (c : Char) : Bool :=
    c == '_' || (Text.isWordChar c && !Text.isDecimalDigit c)
  let valid := match name with
    | [] => false
    | c :: r => letter c && r.all fun d =>
      letter d || Text.isDecimalDigit d || d == '.' || d == '[' || d == ']'
  match cs.drop name.length with
  | '>' :: rest => if valid && !st.names.contains name then some (name, rest) else none
  | _ => none

def sizeLimit : Nat := 100000

/-- An expression that a repetition may follow, or the mark that none stands there. -/
abbrev Item := Option Regex

def dot (st : State) : CharSet :=
  if st.flags.dotAll then .all
  else if st.flags.crlf then .negated (.union .newline (.single '\r'))
  else .negated .newline

/-- Applies a repetition to the last item read. -/
def repeatLast (st : State) (items : List Item) (least : Nat) (most : Option Nat)
    (rest : List Char) : Option (List Item × State) :=
  match items with
  | some r :: before =>
    let (lazy, rest) := match (st.advance rest).skip.rest with
      | '?' :: r' => (true, r')
      | _ => (false, rest)
    let greedy := lazy == st.flags.swapGreed
    let copies := max least (most.getD 0) + 1
    if r.size * copies > sizeLimit then none
    else some (some (r.times greedy least most) :: before, st.advance rest)
  | _ => none

mutual

/-- Reads branches up to the end of the pattern or of the group. -/
def branches? : Nat → State → Option (Regex × State)
  | 0, _ => none
  | fuel + 1, st => do
    let (r, st) ← sequence? fuel [] st
    match st.rest with
    | '|' :: rest =>
      let (s, st) ← branches? fuel (st.advance rest)
      some (.alt r s, st)
    | _ => some (r, st)

/-- Reads items up to a bar, a closing parenthesis or the end; the items read come last first. -/
def sequence? : Nat → List Item → State → Option (Regex × State)
  | 0, _, _ => none
  | fuel + 1, items, st =>
    let st := st.skip
    let done := some (catOf (items.reverse.filterMap id), st)
    let push (r : Regex) (rest : List Char) := sequence? fuel (some r :: items) (st.advance rest)
    match st.rest with
    | [] | '|' :: _ | ')' :: _ => done
    | '(' :: rest => do
      let (item, st) ← group? fuel (st.advance rest)
      sequence? fuel (item :: items) st
    | '[' :: rest => do
      let (s, rest) ← classBody? fuel st rest
      push (.set s) rest
    | '*' :: rest => do
      let (items, st) ← repeatLast st items 0 none rest
      sequence? fuel items st
    | '+' :: rest => do
      let (items, st) ← repeatLast st items 1 none rest
      sequence? fuel items st
    | '?' :: rest => do
      let (items, st) ← repeatLast st items 0 (some 1) rest
      sequence? fuel items st
    | '\x7b' :: rest => do
      let (least, most, rest) ← bounds? rest
      let (items, st) ← repeatLast st items least most rest
      sequence? fuel items st
    | '.' :: rest => if st.flags.unicode then push (.set (dot st)) rest else none
    | '^' :: rest => push (.anchor (if st.flags.multiLine then .lineStart else .textStart)) rest
    | '$' :: rest => push (.anchor (if st.flags.multiLine then .lineEnd else .textEnd)) rest
    | '\\' :: rest => do
      let (e, rest) ← escape? st rest
      match e with
      | .char c => push (.set (st.cased (.single c))) rest
      | .set s => push (.set s) rest
      | .anchor a => push (.anchor a) rest
    | c :: rest => push (.set (st.cased (.single c))) rest

/-- Reads a group after its opening parenthesis. Flags without a colon hold to the end of the
enclosing group and are no item themselves. -/
def group? : Nat → State → Option (Item × State)
  | 0, _ => none
  | fuel + 1, st =>
    let outer := st.flags
    let finish (wrap : Regex → Regex) (st : State) : Option (Item × State) := do
      let (r, st) ← branches? fuel st
      match st.rest with
      | ')' :: rest => some (some (wrap r), { st with rest, flags := outer })
      | _ => none
    let capture (st : State) (rest : List Char) (names : List (List Char)) :=
      finish (.group st.next) { st with rest, names, next := st.next + 1 }
    let named (rest : List Char) : Option (Item × State) := do
      let (name, rest) ← groupName? st rest
      capture st rest (name :: st.names)
    match st.rest with
    | '?' :: 'P' :: '<' :: rest => named rest
    | '?' :: '<' :: n :: rest => if n == '=' || n == '!' then none else named (n :: rest)
    | '?' :: rest => do
      let (flags, r) ← flags? st.flags false [] rest
      match r with
      | ':' :: body => finish id { st with rest := body, flags }
      | ')' :: after =>
        if rest.head? = some ')' then none else some (none, { st with rest := after, flags })
      | _ => none
    | rest => capture st rest st.names

end

end PodNetwork.Regex.Pattern

namespace PodNetwork.Regex

/-- The expression that a pattern writes, if it can be read. -/
def ofPattern? (pattern : String) : Option Regex :=
  let cs := pattern.toList
  match Pattern.branches? (2 * cs.length + 4) { rest := cs } with
  | some (r, st) => if st.rest.isEmpty && r.size ≤ Pattern.sizeLimit then some r else none
  | none => none

end PodNetwork.Regex
