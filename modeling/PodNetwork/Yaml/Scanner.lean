import PodNetwork.Yaml.Token
import PodNetwork.Yaml.Scalar
import PodNetwork.Text.Utf8

/-! Cutting a YAML text into tokens.

Whether a scalar is a key shows only at the colon behind it. Each place where a key may start is
therefore kept, one for every level of flow collections, and a colon puts the token of the key,
and if need be the start of a mapping, in front of it afterwards. -/
namespace PodNetwork.Yaml

/-- A place where a key may start: how many tokens lie before it, and where it is. A required key
is one that the indentation leaves no other reading for. -/
structure KeyStart where
  before : Nat
  required : Bool
  line : Nat
  column : Nat
  index : Nat
  deriving DecidableEq, Repr, Inhabited

structure Scanner where
  cursor : Cursor
  /-- The tokens so far, latest first, and their number. -/
  tokens : List Token := []
  count : Nat := 0
  /-- The column of the innermost block collection, and those of the ones around it. -/
  indent : Int := -1
  outer : List Int := []
  /-- Whether a key may start here. -/
  keyAllowed : Bool := true
  /-- Where a key may have started, innermost flow collection first. -/
  keys : List (Option KeyStart) := [none]
  deriving Repr, Inhabited

namespace Scanner

def inFlow (s : Scanner) : Bool := 1 < s.keys.length

def column (s : Scanner) : Nat := s.cursor.column

def emit (s : Scanner) (token : Token) : Scanner :=
  { s with tokens := token :: s.tokens, count := s.count + 1 }

def emitAt (s : Scanner) (before : Nat) (token : Token) : Scanner :=
  let late := s.count - before
  { s with
    tokens := s.tokens.take late ++ token :: s.tokens.drop late
    count := s.count + 1 }

def move (s : Scanner) (n : Nat) : Scanner := { s with cursor := s.cursor.advance n }

def allowKey (s : Scanner) (keyAllowed : Bool) : Scanner := { s with keyAllowed }

/-- Forgets the places where a key may have started that lie on an earlier line, or too far
back. A required key must not be missed. -/
def dropStaleKeys (s : Scanner) : Option Scanner := do
  let keys ← s.keys.mapM fun start =>
    match start with
    | none => some none
    | some k =>
      if k.line < s.cursor.line || k.index + 1024 < s.cursor.index then
        if k.required then none else some none
      else some (some k)
  some { s with keys }

def dropKey (s : Scanner) : Option Scanner :=
  match s.keys with
  | some k :: rest => if k.required then none else some { s with keys := none :: rest }
  | _ => some s

def keepKey (s : Scanner) : Option Scanner :=
  if !s.keyAllowed then some s
  else do
    let required := !s.inFlow && s.indent == (s.column : Int)
    let s ← s.dropKey
    let start : KeyStart := ⟨s.count, required, s.cursor.line, s.column, s.cursor.index⟩
    some { s with keys := some start :: s.keys.drop 1 }

/-- Starts a block collection at a column that is indented deeper, with its token put before the
ones after a number of tokens. -/
def openBlock (s : Scanner) (column before : Nat) (token : Token) : Scanner :=
  if !s.inFlow && s.indent < (column : Int) then
    { s with indent := column, outer := s.indent :: s.outer }.emitAt before token
  else s

/-- Ends the block collections that are indented deeper than a column. -/
def closeBlocksFrom : List Int → Int → Scanner → Scanner
  | [], _, s => s
  | i :: rest, column, s =>
    if column < s.indent then
      closeBlocksFrom rest column ({ s with indent := i, outer := rest }.emit .blockEnd)
    else s

def closeBlocks (s : Scanner) (column : Int) : Scanner :=
  if s.inFlow then s else closeBlocksFrom s.outer column s

/-- Drops blanks, comments and line breaks before a token. In block style a tab is no blank where a
key may start. A mark of the byte order at the start of the text is passed over, but takes up a
column. -/
def skipToToken : Nat → Scanner → Scanner
  | 0, s => s
  | fuel + 1, s =>
    let start := if s.cursor.index == 0 && s.cursor.sees byteOrderMark
      then s.cursor.advance 1 else s.cursor
    let c := (start.skip fun x =>
      x == ' ' || (x == '\t' && (s.inFlow || !s.keyAllowed))).skipComment
    match c.head? with
    | some x =>
      if isBreak x then
        skipToToken fuel { s with cursor := c.next, keyAllowed := s.keyAllowed || !s.inFlow }
      else { s with cursor := c }
    | none => { s with cursor := c }

def readNumber (c : Cursor) : Option (Nat × Cursor) :=
  let (ds, c) := c.span Char.isDigit
  if ds.isEmpty || 9 < ds.length then none
  else some (ds.foldl (fun n d => 10 * n + (d.toNat - 48)) 0, c)

/-- Reads the handle of a tag: an exclamation mark, or a name between two. In a directive nothing
else will do. -/
def readHandle (directive : Bool) (c : Cursor) : Option (List Char × Cursor) :=
  if !c.sees '!' then none
  else
    let (name, c) := c.next.span isNameChar
    if c.sees '!' then some ('!' :: name ++ ['!'], c.next)
    else if directive && !name.isEmpty then none
    else some ('!' :: name, c)

/-- Reads the bytes of one character, each written as a percent sign and two digits. -/
def readEscapedBytes : Nat → Cursor → Option (Bytes × Cursor)
  | 0, c => some ([], c)
  | n + 1, c =>
    match c.rest with
    | '%' :: a :: b :: _ => do
      let value ← Scalar.hexValue? [a, b]
      let (bytes, c) ← readEscapedBytes n (c.advance 3)
      some (UInt8.ofNat value :: bytes, c)
    | _ => none

/-- Reads one escaped character. -/
def readEscapedChar (c : Cursor) : Option (List Char × Cursor) := do
  let (first, _) ← readEscapedBytes 1 c
  let width ← match first with
    | [b] =>
      if b < 0x80 then some 1
      else if b &&& 0xE0 == 0xC0 then some 2
      else if b &&& 0xF0 == 0xE0 then some 3
      else if b &&& 0xF8 == 0xF0 then some 4
      else none
    | _ => none
  let (bytes, c) ← readEscapedBytes width c
  if (bytes.drop 1).all fun b => b &&& 0xC0 == 0x80 then
    some ((Bytes.decodeLossy bytes).toList, c)
  else none

/-- The characters of a tag besides those of names; the last three only in full tags. -/
def isTagChar (full : Bool) (c : Char) : Bool :=
  isNameChar c || ";/?:@&=+$.%!~*'()".toList.contains c || (full && ",[]".toList.contains c)

/-- Reads the characters of a tag. -/
def readTagChars (full : Bool) : Nat → Cursor → Option (List Char × Cursor)
  | 0, _ => none
  | fuel + 1, c =>
    match c.head? with
    | some x =>
      if !isTagChar full x then some ([], c)
      else do
        let (cs, c) ← if x == '%' then readEscapedChar c else some ([x], c.next)
        let (more, c) ← readTagChars full fuel c
        some (cs ++ more, c)
    | none => some ([], c)

def readTagText (full : Bool) (c : Cursor) : Option (List Char × Cursor) :=
  readTagChars full (c.rest.length + 1) c

/-- Reads a tag from its exclamation mark: full between angle brackets, with a handle, or
primary. -/
def readTag (inFlow : Bool) (c : Cursor) : Option (Token × Cursor) := do
  let (token, c) ←
    if (c.next).sees '<' then do
      let (suffix, c) ← readTagText true (c.advance 2)
      if suffix.isEmpty || !c.sees '>' then none
      else some (Token.tag [] suffix, c.next)
    else do
      let (handle, c) ← readHandle false c
      let (suffix, c) ← readTagText false c
      if 1 < handle.length && handle.getLast? == some '!' then
        if suffix.isEmpty then none else some (Token.tag handle suffix, c)
      else
        let suffix := handle.drop 1 ++ suffix
        some (if suffix.isEmpty then Token.tag [] ['!'] else Token.tag ['!'] suffix, c)
  if c.spaceAt 0 || (inFlow && c.sees ',') then some (token, c) else none

def readName (c : Cursor) : Option (List Char × Cursor) :=
  let (name, c) := c.span isNameChar
  if name.isEmpty then none
  else if c.spaceAt 0 || c.head?.any "?:,]\x7d%@`".toList.contains then some (name, c)
  else none

/-- Reads a directive from behind its percent sign. -/
def readDirective (c : Cursor) : Option (Token × Cursor) := do
  let (name, c) := c.span isNameChar
  if name.isEmpty || !c.spaceAt 0 then none
  else do
    let (token, c) ←
      if name = "YAML".toList then do
        let (major, c) ← readNumber (c.skip isBlank)
        if !c.sees '.' then none
        else do
          let (minor, c) ← readNumber c.next
          some (Token.version major minor, c)
      else if name = "TAG".toList then do
        let (handle, c) ← readHandle true (c.skip isBlank)
        if !(c.head?.any isBlank) then none
        else do
          let (expansion, c) ← readTagText true (c.skip isBlank)
          if expansion.isEmpty || !c.spaceAt 0 then none
          else some (Token.tagShorthand handle expansion, c)
      else none
    let c := (c.skip isBlank).skipComment
    if c.lineEnds then some (token, c.next) else none

/-- Ends all block collections and forbids a key, as between documents. -/
def leaveBlocks (s : Scanner) : Option Scanner := do
  let s ← (s.closeBlocks (-1)).dropKey
  some (s.allowKey false)

def mark (s : Scanner) (n : Nat) (token : Token) : Scanner := (s.emit token).move n

def scanFlowStart (s : Scanner) (token : Token) : Option Scanner := do
  let s ← s.keepKey
  some (({ s with keys := none :: s.keys }.allowKey true).mark 1 token)

def scanFlowEnd (s : Scanner) (token : Token) : Option Scanner := do
  let s ← s.dropKey
  let keys := if s.inFlow then s.keys.drop 1 else s.keys
  some (({ s with keys }.allowKey false).mark 1 token)

def scanBlockEntry (s : Scanner) : Option Scanner := do
  if !s.inFlow && !s.keyAllowed then none
  else
    let s ← (s.openBlock s.column s.count .blockSequenceStart).dropKey
    some ((s.allowKey true).mark 1 .blockEntry)

def scanKey (s : Scanner) : Option Scanner := do
  if !s.inFlow && !s.keyAllowed then none
  else
    let s ← (s.openBlock s.column s.count .blockMappingStart).dropKey
    some ((s.allowKey !s.inFlow).mark 1 .key)

/-- Reads a colon. The key before it, if there is a place where it may have started, gets its
token now. -/
def scanValue (s : Scanner) : Option Scanner :=
  match s.keys with
  | some k :: rest =>
    let s := { s with keys := none :: rest }.emitAt k.before .key
    let s := s.openBlock k.column k.before .blockMappingStart
    some ((s.allowKey false).mark 1 .value)
  | _ =>
    if !s.inFlow && !s.keyAllowed then none
    else
      let s := s.openBlock s.column s.count .blockMappingStart
      some ((s.allowKey !s.inFlow).mark 1 .value)

def scanKeyable (s : Scanner) (read : Cursor → Option (Token × Cursor)) : Option Scanner := do
  let s ← s.keepKey
  let (token, cursor) ← read s.cursor
  some ({ s.allowKey false with cursor }.emit token)

def scanPlain (s : Scanner) : Option Scanner := do
  let s ← s.keepKey
  let (text, broken, cursor) ←
    Scalar.readPlain s.inFlow (s.indent + 1).toNat s.cursor
  some ({ s.allowKey broken with cursor }.emit (.scalar true text))

def scanBlockScalar (s : Scanner) (literal : Bool) : Option Scanner := do
  let s ← s.dropKey
  let (text, cursor) ← Scalar.readBlock literal s.indent s.cursor.next
  some ({ s.allowKey true with cursor }.emit (.scalar false text))

def startsPlain (s : Scanner) (x : Char) : Bool :=
  if x == '-' then !((s.cursor.rest.drop 1).head?.any isBlank)
  else if x == '?' || x == ':' then !s.inFlow && !s.cursor.spaceAt 1
  else !isBlank x && !("-?:,[]\x7b\x7d#&*!|>'\"%@`".toList.contains x)

/-- Reads the token ahead, which starts with a given character. -/
def scanToken (s : Scanner) (x : Char) : Option Scanner :=
  let c := s.cursor
  let spaced := c.spaceAt 1
  if c.column == 0 && x == '%' then do
    let s ← s.leaveBlocks
    let (token, cursor) ← readDirective s.cursor.next
    some ({ s with cursor }.emit token)
  else if c.atDocumentMark then do
    let s ← s.leaveBlocks
    some (s.mark 3 (if x == '-' then .documentStart else .documentEnd))
  else if x == '[' then s.scanFlowStart .flowSequenceStart
  else if x == '\x7b' then s.scanFlowStart .flowMappingStart
  else if x == ']' then s.scanFlowEnd .flowSequenceEnd
  else if x == '\x7d' then s.scanFlowEnd .flowMappingEnd
  else if x == ',' then do
    let s ← s.dropKey
    some ((s.allowKey true).mark 1 .flowEntry)
  else if x == '-' && spaced then s.scanBlockEntry
  else if x == '?' && (s.inFlow || spaced) then s.scanKey
  else if x == ':' && (s.inFlow || spaced) then s.scanValue
  else if x == '*' then
    s.scanKeyable fun c => (readName c.next).map fun (name, c) => (.reference name, c)
  else if x == '&' then
    s.scanKeyable fun c => (readName c.next).map fun (name, c) => (.anchor name, c)
  else if x == '!' then s.scanKeyable (readTag s.inFlow)
  else if x == '|' && !s.inFlow then s.scanBlockScalar true
  else if x == '>' && !s.inFlow then s.scanBlockScalar false
  else if x == '\'' || x == '"' then
    s.scanKeyable fun c =>
      (Scalar.readQuoted (x == '\'') c.next).map fun (text, c) => (.scalar false text, c)
  else if s.startsPlain x then s.scanPlain
  else none

/-- Reads all tokens. The first argument bounds their number. -/
def run : Nat → Scanner → Option (List Token)
  | 0, _ => none
  | fuel + 1, s => do
    let s ← (skipToToken (s.cursor.rest.length + 1) s).dropStaleKeys
    let s := s.closeBlocks s.column
    match s.cursor.head? with
    | none =>
      let s ← s.leaveBlocks
      some s.tokens.reverse
    | some x => do
      let s ← s.scanToken x
      run fuel s

end Scanner

def Token.ofText? (text : List Char) : Option (List Token) :=
  if !text.all isAllowed then none
  else Scanner.run (text.length + 1) { cursor := { rest := uniform text } }

end PodNetwork.Yaml
