import PodNetwork.Text.Path
import PodNetwork.Text.Utf8

/-! What scripted collaborators are made of: rules that apply a limited number of times, and
trees of files. -/
namespace PodNetwork.Rehearsal

structure Scripted (α : Type) where
  rule : α
  uses : Option Nat := none
  deriving DecidableEq, Repr

/-- Takes the first rule that fits and has uses left, using it once. -/
def take {α : Type} (fits : α → Bool) : List (Scripted α) → Option α × List (Scripted α)
  | [] => (none, [])
  | entry :: rest =>
    if fits entry.rule && entry.uses ≠ some 0 then
      (some entry.rule, { entry with uses := entry.uses.map (· - 1) } :: rest)
    else
      let (rule, rest) := take fits rest
      (rule, entry :: rest)

/-- Files and empty directories by their paths, in path order. A directory exists when something
lies below it. -/
structure Tree where
  files : List (String × Bytes) := []
  dirs : List String := []
  deriving DecidableEq, Repr, Inhabited

namespace Tree

def insertFile (path : String) (content : Bytes) : List (String × Bytes) → List (String × Bytes)
  | [] => [(path, content)]
  | (p, c) :: rest =>
    if Path.same path p then (p, content) :: rest
    else if Path.before path p then (path, content) :: (p, c) :: rest
    else (p, c) :: insertFile path content rest

def insertDir (path : String) : List String → List String
  | [] => [path]
  | p :: rest =>
    if Path.same path p then p :: rest
    else if Path.before path p then path :: p :: rest
    else p :: insertDir path rest

def write (tree : Tree) (path : String) (content : Bytes) : Tree :=
  { tree with files := insertFile path content tree.files }

def addDir (tree : Tree) (path : String) : Tree := { tree with dirs := insertDir path tree.dirs }

def read? (tree : Tree) (path : String) : Option Bytes :=
  (tree.files.find? fun f => Path.same f.1 path).map Prod.snd

def has (tree : Tree) (path : String) : Bool :=
  tree.files.any (fun f => Path.isWithin f.1 path) || tree.dirs.any fun d => Path.isWithin d path

def remove (tree : Tree) (path : String) : Tree where
  files := tree.files.filter fun f => !Path.isWithin f.1 path
  dirs := tree.dirs.filter fun d => !Path.isWithin d path

end Tree
end PodNetwork.Rehearsal
