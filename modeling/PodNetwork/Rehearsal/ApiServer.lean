import PodNetwork.Json.Printer
import PodNetwork.Kubernetes.Client
import PodNetwork.Rehearsal.Script

/-! An API server that keeps objects by their paths and answers some requests from a script. -/
namespace PodNetwork.Rehearsal

open Kubernetes

structure Offer where
  group : String
  version : String
  plural : String
  kind : String
  namespaced : Bool
  deriving DecidableEq, Repr, Inhabited

namespace Offer

def groupVersion (offer : Offer) : String :=
  if offer.group.isEmpty then offer.version else offer.group ++ "/" ++ offer.version

def json (offer : Offer) : Json := .ofMembers [
  ("name", .string offer.plural), ("singularName", .string ""),
  ("namespaced", .bool offer.namespaced), ("kind", .string offer.kind),
  ("verbs", .array [])]

end Offer

inductive Prepared where
  /-- The answer that the server gives anyway. -/
  | usual
  | broken
  | reply (reply : Reply)
  deriving Repr, Inhabited

structure Exception where
  method : Option String := none
  path : Option String := none
  /-- How long the answer takes, in milliseconds. -/
  delay : Nat := 0
  answer : Prepared := .usual
  deriving Repr, Inhabited

def Exception.fits (e : Exception) (request : Request) : Bool :=
  e.method.all (· = request.method.name) && e.path.all (· = request.path)

structure ApiServer where
  offers : List Offer := []
  objects : List (String × Json) := []
  exceptions : List (Scripted Exception) := []
  /-- The requests that were made, latest first. -/
  log : List Request := []
  deriving Inhabited

namespace ApiServer

def object? (server : ApiServer) (path : String) : Option Json :=
  (server.objects.find? fun o => o.1 = path).map Prod.snd

def store (server : ApiServer) (path : String) (v : Json) : ApiServer :=
  { server with objects := server.objects.map fun o => if o.1 = path then (path, v) else o }

def remove (server : ApiServer) (path : String) : ApiServer :=
  { server with objects := server.objects.filter fun o => o.1 ≠ path }

def success (v : Json) : Reply := ⟨200, v.text, some v⟩

def failure (code : Nat) (reason message : String) : Reply :=
  let v := Json.ofMembers [
    ("kind", .string "Status"), ("apiVersion", .string "v1"), ("metadata", .object []),
    ("status", .string "Failure"), ("message", .string message), ("reason", .string reason),
    ("code", .ofNat code)]
  ⟨code, v.text, some v⟩

def notFound (path : String) : Reply := failure 404 "NotFound" (path ++ " not found")

def distinct (ls : List String) : List String :=
  ls.foldl (fun seen s => if seen.contains s then seen else seen ++ [s]) []

/-- The groups besides the core group, with their versions. -/
def groupList (server : ApiServer) : Json :=
  let named := server.offers.filter fun o => !o.group.isEmpty
  let group (name : String) : Json :=
    let versions := distinct ((named.filter fun o => o.group = name).map Offer.version)
    let version (v : String) := Json.ofMembers [
      ("groupVersion", .string (name ++ "/" ++ v)), ("version", .string v)]
    .ofMembers [("name", .string name), ("versions", .array (versions.map version))]
  .ofMembers [
    ("kind", .string "APIGroupList"), ("apiVersion", .string "v1"),
    ("groups", .array ((distinct (named.map Offer.group)).map group))]

def versionList : Json := .ofMembers [
  ("kind", .string "APIVersions"), ("versions", .array [.string "v1"]),
  ("serverAddressByClientCIDRs", .array [])]

def resourceList? (server : ApiServer) (groupVersion : String) : Option Json :=
  let offers := server.offers.filter fun o => o.groupVersion = groupVersion
  if offers.isEmpty && groupVersion ≠ "v1" then none
  else some <| .ofMembers [
    ("kind", .string "APIResourceList"), ("apiVersion", .string "v1"),
    ("groupVersion", .string groupVersion), ("resources", .array (offers.map Offer.json))]

def catalogue? (server : ApiServer) (path : String) : Option Json :=
  if path = "/apis" then some server.groupList
  else if path = "/api" then some versionList
  else if path = "/api/v1" then server.resourceList? "v1"
  else match (Text.segments (· == '/') path.toList).map String.ofList with
    | ["", "apis", group, version] => server.resourceList? (group ++ "/" ++ version)
    | _ => none

/-- A value as it is read: a list of values is put into a list object. -/
def shown : Json → Json
  | .array items => .ofMembers [
      ("kind", .string "List"), ("apiVersion", .string "v1"), ("metadata", .object []),
      ("items", .array items)]
  | v => v

/-- The usual answer to a request. -/
def respond (server : ApiServer) (request : Request) : Reply × ApiServer :=
  let path := request.path
  match request.method, request.payload with
  | .get, _ =>
    match server.catalogue? path with
    | some v => (success v, server)
    | none =>
      match server.object? path with
      | some v => (success (shown v), server)
      | none => (notFound path, server)
  | .patch, some (.apply v) => (success v, server)
  | .patch, payload =>
    match server.object? path with
    | none => (notFound path, server)
    | some v =>
      let v := v.mergePatch ((payload.map Payload.json).getD .null)
      (success (shown v), server.store path v)
  | .delete, _ =>
    let done := Json.ofMembers [
      ("kind", .string "Status"), ("apiVersion", .string "v1"), ("metadata", .object []),
      ("status", .string "Success")]
    if path.endsWith "pods" then (success done, server)
    else match server.object? path with
      | none => (notFound path, server)
      | some _ => (success done, server.remove path)

/-- Answers a request, unless there is no time to. A request that comes too late changes
nothing. -/
def send (server : ApiServer) (request : Request) (within : Nat) : Exchange × ApiServer :=
  let server := { server with log := request :: server.log }
  let (exception, exceptions) := take (fun e : Exception => e.fits request) server.exceptions
  let server := { server with exceptions }
  let exception := exception.getD {}
  if within < exception.delay then (.late, server)
  else match exception.answer with
    | .broken => (.broken exception.delay, server)
    | .reply reply => (.answered reply exception.delay, server)
    | .usual =>
      let (reply, server) := server.respond request
      (.answered reply exception.delay, server)

/-- Answers the wire. There are no pages to be fetched, and the time is not told. -/
def answer : (call : WireCall) → ApiServer → call.Answer × ApiServer
  | .send request within, server => server.send request within
  | .fetch url _, server => (WireCall.unreached (.fetch url 0), server)
  | .pause delay, server => (delay, server)
  | .now, server => ("<NOW>", server)

end ApiServer

structure Connection where
  client : Client := {}
  server : ApiServer := {}
  deriving Inhabited

def Connection.perform (connection : Connection) (call : ClusterCall) :
    call.Answer × Connection :=
  let ((answer, client), server) :=
    (connection.client.answer call).run (I := Wire) ApiServer.answer connection.server
  (answer, ⟨client, server⟩)

end PodNetwork.Rehearsal
