import PodNetwork.Backoff
import PodNetwork.Kubernetes.Bounded

/-! Finding out which kinds of resource an API server has. -/
namespace PodNetwork.Kubernetes

/-- A kind of resource. -/
structure Resource where
  group : String
  /-- Group and version, as objects name them. -/
  apiVersion : String
  /-- The name that paths have. -/
  plural : String
  kind : String
  namespaced : Bool
  deriving DecidableEq, Repr, Inhabited

namespace Resource

def path (resource : Resource) (ns : Option String) : String :=
  let root := if resource.group.isEmpty then "/api/" else "/apis/"
  let scope := match ns with
    | some ns => "namespaces/" ++ ns ++ "/"
    | none => ""
  root ++ resource.apiVersion ++ "/" ++ scope ++ resource.plural

end Resource

/-- The kinds of resource by their group and version. Of two groups of one name the first one
counts. -/
structure Discovery where
  groups : List (String × List (String × List Resource)) := []
  deriving DecidableEq, Repr, Inhabited

namespace Discovery

/-- The resource of a group, a version and a kind: the first of that kind among those of the
version. -/
def resolve? (discovery : Discovery) (group version kind : String) : Option Resource := do
  let (_, versions) ← discovery.groups.find? fun g => g.1 = group
  let (_, resources) ← versions.find? fun v => v.1 = version
  resources.find? fun r => r.kind = kind

def groupList : Shape := .named "APIGroupList" "v1" [("groups", .list groupShape)]
where
  version : Shape := .record (Shape.each .text ["groupVersion", "version"])
  clients : Shape := .list (.record (Shape.each .text ["clientCIDR", "serverAddress"]))
  groupShape : Shape := .named "APIGroup" "v1" [
    ("name", .text), ("preferredVersion", version), ("serverAddressByClientCIDRs", clients),
    ("versions", .list version)]

def versionList : Shape := .named "APIVersions" "v1" [
  ("serverAddressByClientCIDRs", groupList.clients), ("versions", Shape.texts)]

def resourceList : Shape := .named "APIResourceList" "v1" [
  ("groupVersion", .text),
  ("resources", .list <| .record <| ("namespaced", .truth) ::
    Shape.each Shape.texts ["categories", "shortNames", "verbs"] ++
    Shape.each .text ["group", "kind", "name", "singularName", "storageVersionHash", "version"])]

structure Group where
  name : String
  versions : List (String × String)
  deriving DecidableEq, Repr, Inhabited

def groups? (v : Json) : Option (List Group) :=
  if groupList.accepts v then
    some <| (itemsAt v ["groups"]).map fun g =>
      ⟨(text? g ["name"]).getD "", (itemsAt g ["versions"]).map fun version =>
        ((text? version ["version"]).getD "", (text? version ["groupVersion"]).getD "")⟩
  else none

def coreVersions? (v : Json) : Option (List String) :=
  if versionList.accepts v then some ((itemsAt v ["versions"]).filterMap Json.string?) else none

/-- The resources of a list. Those with a separator in their names are parts of others. A name
that is listed twice has the scope of its first entry. -/
def resources? (v : Json) : Option (List Resource) :=
  if resourceList.accepts v then
    let groupVersion := (text? v ["groupVersion"]).getD ""
    let rows := itemsAt v ["resources"]
    let name (row : Json) := (text? row ["name"]).getD ""
    some <| (rows.filter fun row => !(name row).toList.contains '/').map fun row => {
      group := (text? row ["group"]).getD (parseApiVersion groupVersion).1
      apiVersion := groupVersion
      plural := name row
      kind := (text? row ["kind"]).getD ""
      namespaced := (rows.find? fun r => name r = name row).any fun r =>
        r.get? "namespaced" == some (.bool true) }
  else none

def resourcesAt (path : String) : Bounded (List Resource) :=
  .request (Request.at? .get path none none) resources?

def groupResources (root : String) (group : Group) :
    Bounded (String × List (String × List Resource)) := do
  if group.versions.isEmpty then Bounded.fail (.api .discovery)
  return (group.name, ← group.versions.mapM fun (version, groupVersion) => do
    return (version, ← resourcesAt (root ++ groupVersion)))

/-- Asks once for everything: the groups, the versions of each, and then the core group. What is
listed later takes the place of what was listed before. -/
def once : Bounded Discovery := do
  let groups ← Bounded.request (Request.at? .get "/apis" none none) groups?
  let listed ← groups.mapM (groupResources "/apis/")
  let versions ← Bounded.request (Request.at? .get "/api" none none) coreVersions?
  let core ← groupResources "/api/" ⟨"", versions.map fun v => (v, v)⟩
  return ⟨(listed ++ [core]).reverse⟩

/-- Tries again after each of some delays. -/
def retrying {α : Type} (work : Bounded α) : List Nat → Bounded α
  | [] => work
  | delay :: delays =>
    tryCatch work fun
      | .timeUp => throw .timeUp
      | .failed _ => do
        Bounded.pause delay
        retrying work delays

/-- The delays between attempts, in milliseconds. -/
def delays : List Nat := RetryPlan.discovery.delays.map fun d => d.floor.toNat

/-- Asks for everything, again and again if that fails: kinds that were just created may take a
while to be listed. -/
def fetch : Bounded Discovery := retrying once delays

end Discovery
end PodNetwork.Kubernetes
