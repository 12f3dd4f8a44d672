import PodNetwork.Host.System
import PodNetwork.Text.Path

/-! A file system: directories, files and symbolic links, reached by paths.

A path is walked name by name. Every name but the last has to lead to a directory, and a link on
the way is replaced by the path it holds. -/
namespace PodNetwork.Rehearsal

/-- A place in a file system: the names that lead there from the root. -/
abbrev Place := List String

inductive FileEntry where
  | file (content : Bytes)
  | directory
  | link (target : String)
  deriving DecidableEq, Repr, Inhabited

namespace FileEntry

def kind : FileEntry → EntryKind
  | .file _ => .file
  | .directory => .directory
  | .link _ => .link

end FileEntry

structure FileSystem where
  entries : List (Place × FileEntry) := []
  deriving DecidableEq, Repr, Inhabited

namespace FileSystem

def entry? (fs : FileSystem) : Place → Option FileEntry
  | [] => some .directory
  | place => (fs.entries.find? fun e => e.1 = place).map Prod.snd

def put (fs : FileSystem) (place : Place) (entry : FileEntry) : FileSystem :=
  ⟨(place, entry) :: fs.entries.filter fun e => e.1 ≠ place⟩

def erase (fs : FileSystem) (place : Place) : FileSystem :=
  ⟨fs.entries.filter fun e => !place.isPrefixOf e.1⟩

def clear (fs : FileSystem) (place : Place) : FileSystem :=
  ⟨fs.entries.filter fun e => !place.isPrefixOf e.1 || e.1 = place⟩

def linkLimit : Nat := 40

def nameLimit : Nat := 255

def pathLimit : Nat := 4095

def steps (path : String) : List String :=
  let names := ((Text.segments (· == '/') path.toList).map String.ofList).filter (· ≠ "")
  if path.endsWith "/" then names ++ ["."] else names

/-- Where a path leads, and what is there. The last name of a path may be missing. -/
structure Found where
  place : Place
  entry : Option FileEntry
  deriving DecidableEq, Repr, Inhabited

/-- Walks on from a directory. A link at the end of the way is followed only if asked for. -/
def walk (fs : FileSystem) (follow : Bool) (links : Nat) (dir : Place) (rest : List String) :
    Except SystemFault Found :=
  match rest with
  | [] => .ok ⟨dir, fs.entry? dir⟩
  | name :: rest =>
    if name = "." then walk fs follow links dir rest
    else if name = ".." then walk fs follow links dir.dropLast rest
    else if nameLimit < name.utf8ByteSize then .error .nameTooLong
    else
      let place := dir ++ [name]
      match fs.entry? place with
      | none => if rest.isEmpty then .ok ⟨place, none⟩ else .error .notFound
      | some .directory => walk fs follow links place rest
      | some (.file content) =>
        if rest.isEmpty then .ok ⟨place, some (.file content)⟩ else .error .notADirectory
      | some (.link target) =>
        if rest.isEmpty && !follow then .ok ⟨place, some (.link target)⟩
        else match links with
          | 0 => .error .tooManyLinks
          | links + 1 =>
            walk fs follow links (if target.startsWith "/" then [] else dir) (steps target ++ rest)
termination_by (links, rest.length)

def resolve (fs : FileSystem) (dir : Place) (follow : Bool) (path : String) :
    Except SystemFault Found :=
  if path.isEmpty then .error .notFound
  else if path.contains '\x00' then .error .embeddedNul
  else if pathLimit < path.utf8ByteSize then .error .nameTooLong
  else fs.walk follow linkLimit (if path.startsWith "/" then [] else dir) (steps path)

def bare (path : String) : String :=
  let rest := (path.toList.reverse.dropWhile (· == '/')).reverse
  if rest.isEmpty then path else .ofList rest

def isThere (fs : FileSystem) (dir : Place) (path : String) : Bool :=
  match fs.resolve dir true path with
  | .ok found => found.entry.isSome
  | .error _ => false

def isDirectory (fs : FileSystem) (dir : Place) (path : String) : Bool :=
  match fs.resolve dir true path with
  | .ok found => found.entry = some .directory
  | .error _ => false

def kindOf (fs : FileSystem) (dir : Place) (path : String) : Except SystemFault EntryKind := do
  match (← fs.resolve dir false path).entry with
  | some entry => return entry.kind
  | none => throw .notFound

def read (fs : FileSystem) (dir : Place) (path : String) : Except SystemFault Bytes := do
  match (← fs.resolve dir true path).entry with
  | some (.file content) => return content
  | some _ => throw .isADirectory
  | none => throw .notFound

def target (fs : FileSystem) (dir : Place) (path : String) : Except SystemFault Place := do
  let found ← fs.resolve dir true (bare path)
  if path.endsWith "/" || found.entry = some .directory then throw .isADirectory
  return found.place

def write (fs : FileSystem) (dir : Place) (path : String) (content : Bytes) :
    Except SystemFault FileSystem := do
  return fs.put (← fs.target dir path) (.file content)

def create (fs : FileSystem) (dir : Place) (path : String) (entry : FileEntry) :
    Except SystemFault FileSystem := do
  let found ← fs.resolve dir false (bare path)
  if found.entry.isSome then throw .alreadyThere
  return fs.put found.place entry

/-- Makes a path lead to a directory. One that is there already does as well as a new one. -/
def makeDirectory (fs : FileSystem) (dir : Place) (path : String) :
    Except SystemFault FileSystem :=
  match fs.create dir path .directory with
  | .ok fs => .ok fs
  | .error fault => if fs.isDirectory dir path then .ok fs else .error fault

/-- Creates a directory and those above it that are missing. Going up, no path is longer than the
first one. -/
def makeDirectoriesWithin (fs : FileSystem) (dir : Place) :
    Nat → String → Except SystemFault FileSystem
  | 0, _ => .ok fs
  | fuel + 1, path =>
    if path.isEmpty then .ok fs
    else match fs.makeDirectory dir path, Path.parent? path with
      | .error .notFound, some parent => do
        (← fs.makeDirectoriesWithin dir fuel parent).makeDirectory dir path
      | result, _ => result

def makeDirectories (fs : FileSystem) (dir : Place) (path : String) :
    Except SystemFault FileSystem :=
  fs.makeDirectoriesWithin dir (path.length + 1) path

def provide (fs : FileSystem) (dir : Place) (path : String) (content : Bytes) :
    Except SystemFault FileSystem := do
  (← fs.makeDirectories dir ((Path.parent? path).getD "")).write dir path content

def removeFile (fs : FileSystem) (dir : Place) (path : String) :
    Except SystemFault FileSystem := do
  let found ← fs.resolve dir false path
  match found.entry with
  | none => throw .notFound
  | some .directory => throw .isADirectory
  | some _ => return fs.erase found.place

/-- Removes a directory with all that is in it. Of a directory reached through a link only the
content can be removed. -/
def removeTree (fs : FileSystem) (dir : Place) (path : String) :
    Except SystemFault Unit × FileSystem :=
  match fs.resolve dir false path, fs.kindOf dir (bare path) with
  | .ok ⟨place, some .directory⟩, .ok .link => (.error .notADirectory, fs.clear place)
  | .ok ⟨place, some .directory⟩, _ => (.ok (), fs.erase place)
  | .ok ⟨_, some _⟩, _ => (.error .notADirectory, fs)
  | .ok ⟨_, none⟩, _ => (.error .notFound, fs)
  | .error fault, _ => (.error fault, fs)

/-- The path of an entry below a directory; that of a directory ends in a separator. -/
def listed (dir : Place) (e : Place × FileEntry) : Option String :=
  if dir.isPrefixOf e.1 && e.1 ≠ dir then
    let path := Text.joinStrings "/" (e.1.drop dir.length)
    some (if e.2 = .directory then path ++ "/" else path)
  else none

def list (fs : FileSystem) (dir : Place) : List String :=
  (fs.entries.filterMap (listed dir)).mergeSort fun a b => a ≤ b

end FileSystem
end PodNetwork.Rehearsal
