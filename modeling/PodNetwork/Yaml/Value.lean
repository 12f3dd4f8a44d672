import PodNetwork.Yaml.Node
import PodNetwork.Yaml.Plain

/-! The JSON values of YAML documents.

References are replaced by what they refer to. The nesting of the result is limited, and so is
the number of references followed, in proportion to the size of the document, so that a small
document cannot stand for an enormous value. -/
namespace PodNetwork.Yaml

def depthLimit : Nat := 128

/-- How many references may be followed for each event of a document. -/
def referenceLimit : Nat := 100

abbrev Reading := StateT Nat Option

def coreTag (name : String) : List Char := "tag:yaml.org,2002:".toList ++ name.toList

def isOwnTag (tag : Option (List Char)) : Bool := tag.any fun t => t.head? == some '!'

/-- The value of a scalar. Core tags have to fit the text, and any other tag leaves the text as it
is. -/
def scalarValue? (tag : Option (List Char)) (plain : Bool) (text : List Char) : Option Json :=
  match tag with
  | none => if plain then Plain.value? text else some (.string (.ofList text))
  | some tag =>
    if tag = coreTag "bool" then (Plain.bool? text).map .bool
    else if tag = coreTag "int" then ((Plain.integer? text).bind Plain.integerValue?).join
    else if tag = coreTag "float" then (Plain.float? text).map fun x => .number (.float x)
    else if tag = coreTag "null" then (if Plain.isNull text then some .null else none)
    else some (.string (.ofList text))

namespace Document

/-- Follows a reference. -/
def follow (d : Document) (node : Node) : Reading Node :=
  match node with
  | .reference _ => do
    match ← get with
    | 0 => failure
    | n + 1 =>
      set n
      return d.deref node
  | node => return node

def key (d : Document) (node : Node) : Reading String := do
  match ← d.follow node with
  | .scalar _ _ _ text => return .ofList text
  | _ => failure

/-- The value of a node, given how to read the nodes inside it, unless that is too deep. -/
def valueWith (d : Document) (inside : Option (Node → Reading Json)) (node : Node) :
    Reading Json := do
  match ← d.follow node with
  | .scalar _ tag plain text =>
    if isOwnTag tag then failure else scalarValue? tag plain text
  | .sequence _ tag items =>
    match inside with
    | none => failure
    | some inside =>
      if isOwnTag tag then failure else return .array (← items.mapM inside)
  | .mapping _ tag entries =>
    match inside with
    | none => failure
    | some inside =>
      if isOwnTag tag then failure
      else return Json.ofMembers (← entries.mapM fun (k, v) => do
        let key ← d.key k
        return (key, ← inside v))
  | .reference _ => failure

def value (d : Document) : Nat → Node → Reading Json
  | 0 => d.valueWith none
  | depth + 1 => d.valueWith (some (d.value depth))

def json? (d : Document) : Option Json :=
  ((d.value depthLimit d.root).run (referenceLimit * d.root.events)).map Prod.fst

end Document

/-- The values of all documents of a text; a single bad document fails all of them. -/
def values? (text : String) : Option (List Json) := do
  (← Document.ofText? text).mapM Document.json?

/-- The documents of a manifest: those that are objects with at least one member. -/
def objects? (text : String) : Option (List Json) := do
  return (← values? text).filter fun v => !v.members.isEmpty

end PodNetwork.Yaml
