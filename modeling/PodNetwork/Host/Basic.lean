import PodNetwork.Text.Blank
import PodNetwork.Error

/-! A host as deployments see it: its machine, its distribution, and the output of its commands. -/
namespace PodNetwork

inductive Architecture where
  | x86_64
  | aarch64
  /-- Any other machine, under the name it gives itself. -/
  | other (name : String)
  deriving DecidableEq, Repr, Inhabited

namespace Architecture

def ofMachine (machine : String) : Architecture :=
  match Text.trimmed machine with
  | "x86_64" | "amd64" => .x86_64
  | "aarch64" | "arm64" => .aarch64
  | name => .other name

def platformName : Architecture → String
  | .x86_64 => "amd64"
  | .aarch64 => "arm64"
  | .other name => name

def name : Architecture → String
  | .x86_64 => "x86_64"
  | .aarch64 => "aarch64"
  | .other name => name

end Architecture

structure OsRelease where
  id : String := ""
  versionId : String := ""
  idLike : List String := []
  deriving DecidableEq, Repr, Inhabited

namespace OsRelease

/-- A value without the blanks and then the quotes around it, double ones first. -/
def unquote (value : List Char) : List Char :=
  Text.dropAround (· == '\'') (Text.dropAround (· == '"') (Text.trim value))

/-- Takes one line into account. A line without an equals sign says nothing, and so does one with
another key. -/
def read (release : OsRelease) (line : List Char) : OsRelease :=
  match Text.cutAt? '=' (Text.trim line) with
  | none => release
  | some (key, value) =>
    let value := unquote value
    if key = "ID".toList then { release with id := .ofList value }
    else if key = "VERSION_ID".toList then { release with versionId := .ofList value }
    else if key = "ID_LIKE".toList then
      { release with idLike := (Text.words value).map String.ofList }
    else release

/-- The fields of a whole file; of repeated keys the last one counts. -/
def parse (content : String) : OsRelease := (Text.lines content.toList).foldl read {}

end OsRelease

structure HostInfo where
  distroId : String
  versionId : String
  idLike : List String
  architecture : Architecture
  deriving DecidableEq, Repr, Inhabited

/-- What is known of a host: nothing until a detection succeeds, and that one's result ever
after. -/
structure HostCache where
  info : Option HostInfo := none
  deriving DecidableEq, Repr, Inhabited

namespace HostCache

/-- The known host, or the outcome of a detection. The flag tells whether one was run. -/
def getOrDetect (cache : HostCache) (detect : Attempt HostInfo) :
    Attempt HostInfo × Bool × HostCache :=
  match cache.info with
  | some info => (.ok info, false, cache)
  | none =>
    match detect with
    | .ok info => (.ok info, true, ⟨some info⟩)
    | .error e => (.error e, true, cache)

end HostCache

structure CommandOutput where
  stdout : String := ""
  stderr : String := ""
  deriving DecidableEq, Repr, Inhabited

namespace CommandOutput

/-- Both outputs in one text, for error reports; one that is blank is left out. -/
def combined (out : CommandOutput) : String :=
  if Text.isAllBlank out.stderr then out.stdout
  else if Text.isAllBlank out.stdout then out.stderr
  else Text.trimmedEnd out.stdout ++ "\n" ++ out.stderr

end CommandOutput

def commandLine (program : String) (args : List String) : String :=
  args.foldl (fun line arg => line ++ " " ++ arg) program

end PodNetwork
