import PodNetwork.Site
import PodNetwork.Text.Path

/-! The source tree that images and manifests come from.

The tree is a submodule of the project. A submodule that was never fetched leaves an empty
directory behind, so a tree counts as populated only when it has its marker file. -/
namespace PodNetwork

structure SourceTree where
  projectRoot : String
  dirName : String := "ovn-kubernetes"
  repository : String := "https://github.com/ovn-org/ovn-kubernetes.git"
  branch : String := "master"
  deriving DecidableEq, Repr, Inhabited

namespace SourceTree

def marker : String := "dist/images/daemonset.sh"

def path (tree : SourceTree) : String := Path.join tree.projectRoot tree.dirName

def isPopulated (tree : SourceTree) : Routine Bool :=
  Site.fileExists (Path.join tree.path marker)

def fetchSubmodule (tree : SourceTree) : Routine Unit := do
  Site.runIn tree.projectRoot "git" ["submodule", "init", tree.dirName]
  Site.runIn tree.projectRoot "git" ["submodule", "update", "--init", tree.dirName]

/-- Fetches the submodule and tells whether that populated the tree. A tree that is still empty
afterwards is removed, since no repository can be cloned into a directory that has files. -/
def submoduleOrRemoved (tree : SourceTree) : Routine Bool := do
  match ← tree.fetchSubmodule.outcome with
  | .ok () =>
    if ← tree.isPopulated then return true
  | .error _ => pure ()
  Site.removeAll tree.path
  return false

def clone (tree : SourceTree) : Routine Unit :=
  (Site.runIn tree.projectRoot "git"
    ["clone", "--branch", tree.branch, tree.repository, tree.path]).mapError fun e =>
      .sourceUnavailable tree.path ("clone failed: " ++ e.text)

/-- Clones the repository, and checks that a populated tree came of it. -/
def cloneChecked (tree : SourceTree) : Routine String := do
  tree.clone
  if ← tree.isPopulated then return tree.path
  throw (.sourceUnavailable tree.path s!"clone completed but {marker} is missing")

/-- Makes sure that a populated tree exists, and gives its path. A populated tree is used as it
is. Otherwise the submodule is fetched, if there is any sign of one, and failing that the
repository is cloned. -/
def ensure (tree : SourceTree) : Routine String := do
  if ← Site.fileExists tree.path then
    if ← tree.isPopulated then return tree.path
    if ← tree.submoduleOrRemoved then return tree.path
  else if ← Site.fileExists (Path.join tree.projectRoot ".git") then
    if ← tree.submoduleOrRemoved then return tree.path
  tree.cloneChecked

end SourceTree
end PodNetwork
