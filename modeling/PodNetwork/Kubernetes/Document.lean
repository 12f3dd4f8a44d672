import PodNetwork.Json.Value
import PodNetwork.Text.Blank

/-! Kubernetes documents as JSON values: what they say of themselves, and the conditions that
objects report. -/
namespace PodNetwork.Kubernetes

/-- The group and the version that an API version names; the core group has the empty name. -/
def parseApiVersion (apiVersion : String) : String × String :=
  match Text.cutAt? '/' apiVersion.toList with
  | some (group, version) => (.ofList group, .ofList version)
  | none => ("", apiVersion)

def text? (document : Json) (path : List String) : Option String :=
  (document.path? path).bind Json.string?

def kind? (document : Json) : Option String := text? document ["kind"]

def apiVersion? (document : Json) : Option String := text? document ["apiVersion"]

def name? (document : Json) : Option String := text? document ["metadata", "name"]

def namespace? (document : Json) : Option String := text? document ["metadata", "namespace"]

def describe (document : Json) : String :=
  (kind? document).getD "<unknown>" ++ "/" ++ (name? document).getD "<unnamed>"

structure Condition where
  type : String
  status : String
  deriving DecidableEq, Repr, Inhabited

def hasCondition (conditions : Option (List Condition)) (type : String) : Bool :=
  (conditions.getD []).any fun c => c.type = type ∧ c.status = "True"

def isReady (conditions : Option (List Condition)) : Bool := hasCondition conditions "Ready"

end PodNetwork.Kubernetes
