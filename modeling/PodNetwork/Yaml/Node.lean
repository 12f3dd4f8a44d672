import PodNetwork.Yaml.Scanner

/-! The nodes of YAML documents, and how tokens make them up.

An anchor is numbered when its node starts, so that a reference names one node even if the name
is used again, and a node may refer to itself. The number is the count of names known by then. So
a name that is given twice leaves its second number to the next new name as well, and of two
nodes with one number the later one is meant. -/
namespace PodNetwork.Yaml

inductive Node where
  | reference (anchor : Nat)
  | scalar (anchor : Option Nat) (tag : Option (List Char)) (plain : Bool) (text : List Char)
  | sequence (anchor : Option Nat) (tag : Option (List Char)) (items : List Node)
  | mapping (anchor : Option Nat) (tag : Option (List Char)) (entries : List (Node × Node))
  deriving Repr, Inhabited

namespace Node

/-- The scalar that stands where a node is left out. -/
def missing : Node := .scalar none none true []

/-- What is left to read, the numbers of the anchors by name, and the tag handles. -/
structure State where
  tokens : List Token
  anchors : List (List Char × Nat) := []
  handles : List (List Char × List Char) := []

namespace State

def drop (st : State) : State := { st with tokens := st.tokens.drop 1 }

/-- Numbers the anchor of a node, which takes the place of an earlier one of that name. -/
def withAnchor (st : State) (name : List Char) : Nat × State :=
  let n := st.anchors.length
  (n, { st with anchors := (name, n) :: st.anchors.filter fun a => a.1 ≠ name })

end State

structure Properties where
  anchor : Option (List Char) := none
  tag : Option (List Char) := none

def fullTag? (st : State) (handle suffix : List Char) : Option (List Char) :=
  if handle.isEmpty then some suffix
  else (st.handles.find? fun h => h.1 = handle).map fun h => h.2 ++ suffix

/-- Reads an anchor and a tag in any order, each at most once. -/
def readProperties (st : State) : Option (Properties × State) :=
  match st.tokens with
  | .anchor name :: .tag handle suffix :: rest =>
    (fullTag? st handle suffix).map fun tag => (⟨some name, some tag⟩, { st with tokens := rest })
  | .tag handle suffix :: .anchor name :: rest =>
    (fullTag? st handle suffix).map fun tag => (⟨some name, some tag⟩, { st with tokens := rest })
  | .anchor name :: rest => some (⟨some name, none⟩, { st with tokens := rest })
  | .tag handle suffix :: rest =>
    (fullTag? st handle suffix).map fun tag => (⟨none, some tag⟩, { st with tokens := rest })
  | _ => some ({}, st)

def isLeftOut (st : State) (enders : List Token) : Bool :=
  match st.tokens with
  | [] => false
  | t :: _ => enders.contains t

mutual

/-- Reads a node. Block collections may stand only in block style; a sequence that is not indented
deeper than the mapping around it has no start of its own. -/
def read : Nat → (block unindented : Bool) → State → Option (Node × State)
  | 0, _, _, _ => none
  | fuel + 1, block, unindented, st =>
    match st.tokens with
    | .reference name :: _ =>
      (st.anchors.find? fun a => a.1 = name).map fun a => (.reference a.2, st.drop)
    | _ => do
      let (properties, st) ← readProperties st
      let (anchor, st) := match properties.anchor with
        | some name =>
          let (n, st) := st.withAnchor name
          (some n, st)
        | none => (none, st)
      let tag := properties.tag
      match st.tokens with
      | .blockEntry :: _ =>
        if unindented then
          let (items, st) ← readUnindented fuel st
          some (.sequence anchor tag items, st)
        else if anchor.isSome || tag.isSome then some (.scalar anchor tag true [], st)
        else none
      | .scalar plain text :: _ =>
        let tag := if tag = some ['!'] then none else tag
        some (.scalar anchor tag plain text, st.drop)
      | .flowSequenceStart :: _ =>
        let (items, st) ← readFlowItems fuel true st.drop
        some (.sequence anchor tag items, st)
      | .flowMappingStart :: _ =>
        let (entries, st) ← readFlowEntries fuel true st.drop
        some (.mapping anchor tag entries, st)
      | .blockSequenceStart :: _ =>
        if block then
          let (items, st) ← readBlockItems fuel st.drop
          some (.sequence anchor tag items, st)
        else if anchor.isSome || tag.isSome then some (.scalar anchor tag true [], st)
        else none
      | .blockMappingStart :: _ =>
        if block then
          let (entries, st) ← readBlockEntries fuel st.drop
          some (.mapping anchor tag entries, st)
        else if anchor.isSome || tag.isSome then some (.scalar anchor tag true [], st)
        else none
      | _ =>
        if anchor.isSome || tag.isSome then some (.scalar anchor tag true [], st) else none

def readOr : Nat → (block unindented : Bool) → List Token → State → Option (Node × State)
  | 0, _, _, _, _ => none
  | fuel + 1, block, unindented, enders, st =>
    if isLeftOut st enders then some (missing, st) else read fuel block unindented st

/-- Reads the items of a sequence in block style up to its end. -/
def readBlockItems : Nat → State → Option (List Node × State)
  | 0, _ => none
  | fuel + 1, st =>
    match st.tokens with
    | .blockEntry :: _ => do
      let (item, st) ← readOr fuel true false [.blockEntry, .blockEnd] st.drop
      let (items, st) ← readBlockItems fuel st
      some (item :: items, st)
    | .blockEnd :: _ => some ([], st.drop)
    | _ => none

/-- Reads the items of a sequence that ends with the mapping around it. -/
def readUnindented : Nat → State → Option (List Node × State)
  | 0, _ => none
  | fuel + 1, st =>
    match st.tokens with
    | .blockEntry :: _ => do
      let (item, st) ← readOr fuel true false [.blockEntry, .key, .value, .blockEnd] st.drop
      let (items, st) ← readUnindented fuel st
      some (item :: items, st)
    | _ => some ([], st)

/-- Reads the entries of a mapping in block style up to its end. -/
def readBlockEntries : Nat → State → Option (List (Node × Node) × State)
  | 0, _ => none
  | fuel + 1, st =>
    match st.tokens with
    | .key :: _ => do
      let (key, st) ← readOr fuel true true [.key, .value, .blockEnd] st.drop
      let (value, st) ← match st.tokens with
        | .value :: _ => readOr fuel true true [.key, .value, .blockEnd] st.drop
        | _ => some (missing, st)
      let (entries, st) ← readBlockEntries fuel st
      some ((key, value) :: entries, st)
    | .blockEnd :: _ => some ([], st.drop)
    | _ => none

/-- Reads the items of a sequence in flow style up to its end. An item may be a mapping of a
single entry, if its key is marked; the token that follows a missing key is passed over. -/
def readFlowItems : Nat → Bool → State → Option (List Node × State)
  | 0, _, _ => none
  | fuel + 1, first, st => do
    let st ← match st.tokens with
      | .flowSequenceEnd :: _ => some st
      | .flowEntry :: _ => if first then some st else some st.drop
      | _ => if first then some st else none
    match st.tokens with
    | .flowSequenceEnd :: _ => some ([], st.drop)
    | .key :: _ =>
      let st := st.drop
      let (key, st) ←
        if isLeftOut st [.value, .flowEntry, .flowSequenceEnd] then some (missing, st.drop)
        else read fuel false false st
      let (value, st) ← match st.tokens with
        | .value :: _ => readOr fuel false false [.flowEntry, .flowSequenceEnd] st.drop
        | _ => some (missing, st)
      let (items, st) ← readFlowItems fuel false st
      some (.mapping none none [(key, value)] :: items, st)
    | _ =>
      let (item, st) ← read fuel false false st
      let (items, st) ← readFlowItems fuel false st
      some (item :: items, st)

/-- Reads the entries of a mapping in flow style up to its end. -/
def readFlowEntries : Nat → Bool → State → Option (List (Node × Node) × State)
  | 0, _, _ => none
  | fuel + 1, first, st => do
    let st ← match st.tokens with
      | .flowMappingEnd :: _ => some st
      | .flowEntry :: _ => if first then some st else some st.drop
      | _ => if first then some st else none
    match st.tokens with
    | .flowMappingEnd :: _ => some ([], st.drop)
    | .key :: _ =>
      let (key, st) ← readOr fuel false false [.value, .flowEntry, .flowMappingEnd] st.drop
      let (value, st) ← match st.tokens with
        | .value :: _ => readOr fuel false false [.flowEntry, .flowMappingEnd] st.drop
        | _ => some (missing, st)
      let (entries, st) ← readFlowEntries fuel false st
      some ((key, value) :: entries, st)
    | _ =>
      let (key, st) ← read fuel false false st
      let (entries, st) ← readFlowEntries fuel false st
      some ((key, missing) :: entries, st)

end

mutual

/-- The number of things that reading a node one after the other comes across: each scalar and
each reference, and the start and the end of each collection. -/
def events : Node → Nat
  | .reference _ => 1
  | .scalar .. => 1
  | .sequence _ _ items => eventsOfItems items + 2
  | .mapping _ _ entries => eventsOfEntries entries + 2

def eventsOfItems : List Node → Nat
  | [] => 0
  | n :: ns => events n + eventsOfItems ns

def eventsOfEntries : List (Node × Node) → Nat
  | [] => 0
  | (k, v) :: es => events k + events v + eventsOfEntries es

end

mutual

def anchored : Node → List (Nat × Node)
  | .reference _ => []
  | .scalar anchor tag plain text => (anchor.map (·, .scalar anchor tag plain text)).toList
  | .sequence anchor tag items =>
    (anchor.map (·, .sequence anchor tag items)).toList ++ anchoredInItems items
  | .mapping anchor tag entries =>
    (anchor.map (·, .mapping anchor tag entries)).toList ++ anchoredInEntries entries

def anchoredInItems : List Node → List (Nat × Node)
  | [] => []
  | n :: ns => anchored n ++ anchoredInItems ns

def anchoredInEntries : List (Node × Node) → List (Nat × Node)
  | [] => []
  | (k, v) :: es => anchored k ++ anchored v ++ anchoredInEntries es

end

end Node

structure Document where
  root : Node
  anchored : List (Nat × Node)
  deriving Repr, Inhabited

namespace Document

def ofRoot (root : Node) : Document := ⟨root, root.anchored⟩

def deref (d : Document) : Node → Node
  | .reference n => ((d.anchored.reverse.find? fun a => a.1 = n).map Prod.snd).getD .missing
  | node => node

def defaultHandles : List (List Char × List Char) :=
  [(['!'], ['!']), (['!', '!'], "tag:yaml.org,2002:".toList)]

/-- Reads the directives before a document: whether there is a version, and the tag handles. Only
versions 1.1 and 1.2 can be read, and nothing may be said twice. -/
def readDirectives : Bool → List (List Char × List Char) → List Token →
    Option (List (List Char × List Char) × List Token)
  | version, handles, .version major minor :: rest =>
    if version || major ≠ 1 || (minor ≠ 1 && minor ≠ 2) then none
    else readDirectives true handles rest
  | version, handles, .tagShorthand handle expansion :: rest =>
    if handles.any fun h => h.1 = handle then none
    else readDirectives version (handles ++ [(handle, expansion)]) rest
  | _, handles, rest => some (handles, rest)

def isEmptyBefore : List Token → Bool
  | [] => true
  | .version .. :: _ | .tagShorthand .. :: _ | .documentStart :: _ | .documentEnd :: _ => true
  | _ => false

/-- Reads the content of a document and the mark at its end. -/
def readContent (handles : List (List Char × List Char)) (tokens : List Token) :
    Option (Document × List Token) := do
  let (root, rest) ←
    if isEmptyBefore tokens then some (Node.missing, tokens)
    else
      let (root, st) ←
        Node.read (3 * tokens.length + 10) true false { tokens, handles }
      some (root, st.tokens)
  let rest := match rest with
    | .documentEnd :: r => r
    | r => r
  some (ofRoot root, rest)

/-- Reads documents. Only the first one may do without a mark at its start, and then it must have
content. -/
def readAll : Nat → Bool → List Token → Option (List Document)
  | 0, _, _ => none
  | fuel + 1, first, tokens =>
    let tokens := if first then tokens else tokens.dropWhile (· == .documentEnd)
    match tokens with
    | [] => some []
    | t :: rest => do
      let marked := match t with
        | .version .. | .tagShorthand .. | .documentStart => true
        | _ => false
      let (handles, content) ←
        if first && !marked then
          if t = .documentEnd then none else some (defaultHandles, t :: rest)
        else
          let (handles, after) ← readDirectives false [] (t :: rest)
          match after with
          | .documentStart :: content =>
            let defaults := defaultHandles.filter fun h => !handles.any fun g => g.1 = h.1
            some (handles ++ defaults, content)
          | _ => none
      let (document, rest) ← readContent handles content
      let documents ← readAll fuel false rest
      some (document :: documents)

def ofText? (text : String) : Option (List Document) := do
  let tokens ← Token.ofText? text.toList
  readAll (tokens.length + 1) true tokens

end Document
end PodNetwork.Yaml
