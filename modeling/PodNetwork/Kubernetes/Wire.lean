import PodNetwork.Error
import PodNetwork.Json.Reader
import PodNetwork.Procedure
import PodNetwork.Text.Query
import PodNetwork.Text.Url

/-! Requests to an API server, and the replies.

A request is made with the time that is left for it. A reply that does not come in time is not
waited for, and whether the server acts on the request then is for the server to say. -/
namespace PodNetwork.Kubernetes

inductive Method where
  | get
  | patch
  | delete
  deriving DecidableEq, Repr, Inhabited

def Method.name : Method → String
  | .get => "GET"
  | .patch => "PATCH"
  | .delete => "DELETE"

/-- What a request carries. -/
inductive Payload where
  /-- An object that has to be there, in the form given, after the request. -/
  | apply (object : Json)
  /-- Changes to an object. -/
  | merge (patch : Json)
  /-- Settings of a deletion. -/
  | options (settings : Json)
  deriving Repr, Inhabited

namespace Payload

def mediaType : Payload → String
  | .apply _ => "application/apply-patch+yaml"
  | .merge _ => "application/merge-patch+json"
  | .options _ => "application/json"

def json : Payload → Json
  | .apply v | .merge v | .options v => v

end Payload

structure Request where
  method : Method
  path : String
  query : List (String × String) := []
  payload : Option Payload := none
  deriving Repr, Inhabited

namespace Request

/-- The longest target of a request, in bytes. -/
def targetLimit : Nat := 65534

def isPathChar (c : Char) : Bool :=
  let n := c.toNat
  n == 0x21 || n == 0x22 || (0x24 ≤ n && n ≤ 0x3B) || n == 0x3D || (0x40 ≤ n && n ≤ 0x5F) ||
    (0x61 ≤ n && n ≤ 0x7E) || 0x7F ≤ n

def isQueryChar (c : Char) : Bool :=
  let n := c.toNat
  n == 0x21 || (0x24 ≤ n && n ≤ 0x3B) || n == 0x3D || 0x3F ≤ n

/-- Cuts a target into path and query. What follows a number sign is no part of either. -/
def cut? (target : List Char) : Option (String × List (String × String)) :=
  let target := target.takeWhile (· != '#')
  let path := target.takeWhile (· != '?')
  let query := target.drop (path.length + 1)
  if path.all isPathChar && query.all isQueryChar then
    some (.ofList path, Text.Query.pairs query)
  else none

/-- A request at a path, which may not be possible. -/
def at? (method : Method) (path : String) (query : Option (List (String × String)))
    (payload : Option Payload) : Option Request := do
  let tail := match query with
    | none => []
    | some ps => '?' :: Text.Query.ofPairs ps
  let target := path.toList ++ tail
  if targetLimit < (String.ofList target).utf8ByteSize then none
  else
    let (path, query) ← cut? target
    some ⟨method, path, query, payload⟩

end Request

/-- A reply: the text it consists of, and the value of the text if it is JSON. -/
structure Reply where
  code : Nat
  text : String
  value : Option Json
  deriving Repr, Inhabited

def Reply.ofText (code : Nat) (text : String) : Reply := ⟨code, text, Json.parse? text⟩

/-- How a request ends, and after how many milliseconds. -/
inductive Exchange where
  | answered (reply : Reply) (took : Nat)
  | broken (took : Nat)
  /-- There was no reply in time. -/
  | late
  deriving Repr, Inhabited

/-- How the fetching of a page ends: with its content, or with the text of an error. -/
inductive Fetched where
  | page (result : Except String Bytes) (took : Nat)
  | late
  deriving Repr, Inhabited

inductive WireCall where
  | send (request : Request) (within : Nat)
  | fetch (url : String) (within : Nat)
  /-- Waits for about the given time, in milliseconds, and tells the exact time. -/
  | pause (delay : Nat)
  /-- Asks for date and time. -/
  | now
  deriving Repr, Inhabited

def WireCall.Answer : WireCall → Type
  | .send .. => Exchange
  | .fetch .. => Fetched
  | .pause _ => Nat
  | .now => String

def fetchError (url : String) : String :=
  if Text.Url.isWebAddress url then "error sending request" else "builder error"

/-- The answer to a call where there is no network. The time is not known there. -/
def WireCall.unreached : (call : WireCall) → call.Answer
  | .send .. => .broken 0
  | .fetch url _ => .page (.error (fetchError url)) 0
  | .pause delay => delay
  | .now => "<NOW>"

def Wire : Interface := ⟨WireCall, WireCall.Answer⟩

end PodNetwork.Kubernetes
