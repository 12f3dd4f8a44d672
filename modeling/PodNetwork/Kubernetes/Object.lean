import PodNetwork.Kubernetes.Document
import PodNetwork.Kubernetes.Kind
import PodNetwork.Site

/-! Objects of a cluster read from JSON, as far as they are needed here. -/
namespace PodNetwork.Kubernetes

def labelsAt (v : Json) (path : List String) : Labels :=
  match v.path? path with
  | some (.object ms) => ms.filterMap fun m => m.2.string?.map (m.1, ·)
  | _ => []

def itemsAt (v : Json) (path : List String) : List Json :=
  match v.path? path with
  | some (.array items) => items
  | _ => []

def configData? (v : Json) : Option Labels :=
  if Shape.configMap.accepts v then some (labelsAt v ["data"]) else none

structure Taint where
  key : String
  effect : String
  value : Option String := none
  timeAdded : Option String := none
  deriving DecidableEq, Repr, Inhabited

namespace Taint

def ofJson (v : Json) : Taint where
  key := (text? v ["key"]).getD ""
  effect := (text? v ["effect"]).getD ""
  value := text? v ["value"]
  timeAdded := ((text? v ["timeAdded"]).bind Timestamp.parse?).map Timestamp.text

def json (taint : Taint) : Json := .ofMembers <|
  [("key", .string taint.key), ("effect", .string taint.effect)] ++
  (taint.value.map fun s => ("value", .string s)).toList ++
  (taint.timeAdded.map fun s => ("timeAdded", .string s)).toList

end Taint

def taints? (v : Json) : Option (List Taint) :=
  if Shape.node.accepts v then some ((itemsAt v ["spec", "taints"]).map Taint.ofJson) else none

def node? (v : Json) : Option Node :=
  if Shape.node.accepts v then
    some ⟨(text? v ["metadata", "name"]).getD "", labelsAt v ["metadata", "labels"]⟩
  else none

def podConditions (v : Json) : Option (List Condition) :=
  match v.path? ["status", "conditions"] with
  | some (.array items) =>
    some (items.map fun c => ⟨(text? c ["type"]).getD "", (text? c ["status"]).getD ""⟩)
  | _ => none

def pod? (v : Json) : Option Pod :=
  if Shape.pod.accepts v then
    some ⟨(text? v ["metadata", "name"]).getD "", isReady (podConditions v)⟩
  else none

/-- The items of a list, read one by one. Unlike other members the items have to be given, though
they may be null. -/
def list? {α : Type} (item : Json → Option α) (v : Json) : Option (List α) :=
  let metadataFits : Bool :=
    match v.get? "metadata" with
    | none => true
    | some m => Shape.listMeta.accepts m
  if !metadataFits then none
  else match v.get? "items" with
    | some (.array items) => items.mapM item
    | some .null => some []
    | _ => none

def isObject : Json → Bool
  | .object ms => ms.all fun m => m.1 ≠ "metadata" || Shape.objectMeta.accepts m.2
  | _ => false

def isStatus (v : Json) : Bool := v.get? "kind" == some (.string "Status")

end PodNetwork.Kubernetes
