import PodNetwork.Site
import PodNetwork.Digest.Sha256

/-! Revisions of source trees and of remote refs, as the version control system reports them. -/
namespace PodNetwork.Image

/-- How long the version control system may take, in milliseconds. -/
def gitTimeout : Nat := 60000

def diffHashLength : Nat := 12

def git (tree : String) (args : List String) : Routine String := do
  return (← Site.executeWithin gitTimeout "git" ("-C" :: tree :: args)).stdout

/-- The revision of a tree: its commit, and for changed files a hash of the change, so that
different edits have different revisions. A tree whose state cannot be told counts as clean, and
one whose change cannot be told is only marked as changed. -/
def sourceRevision (tree : String) : Routine String := do
  let head := Text.trimmed (← git tree ["rev-parse", "HEAD"])
  if head.isEmpty then throw (.command "git rev-parse HEAD" "empty HEAD" "")
  match ← (git tree ["status", "--porcelain", "--untracked-files=no"]).outcome with
  | .error _ => return head
  | .ok status =>
    if Text.isAllBlank status then return head
    match ← (git tree ["diff", "--no-ext-diff", "--binary", "--", "."]).outcome with
    | .ok diff =>
      return head ++ "-dirty-" ++ Sha256.hexPrefix (Bytes.ofString diff) diffHashLength
    | .error _ => return head ++ "-dirty"

/-- The commit that a listing of remote refs begins with; a listing without any word says
nothing, and the ref stands for itself. -/
def listedCommit (output ref : String) : String :=
  match (Text.lines output.toList).findSome? fun line => (Text.words line).head? with
  | some commit => .ofList commit
  | none => ref

def resolveRef (repository ref : String) : Routine String := do
  let output ← (Site.executeWithin gitTimeout "git" ["ls-remote", repository, ref]).mapError
    fun e => .refUnresolved repository ref e.text
  return listedCommit output.stdout ref

end PodNetwork.Image
