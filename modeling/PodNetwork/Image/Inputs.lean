import PodNetwork.Text.Utf8
import PodNetwork.Text.Blank
import PodNetwork.Digest.Sha256

/-! What determines the content of a built image, and the key that stands for it.

The key is a short hash of all inputs, each on a line of its own. -/
namespace PodNetwork.Image

/-- Where the network virtualisation packages inside the image come from. -/
inductive OvnOrigin where
  /-- Prebuilt packages. -/
  | prebuilt
  /-- Compiled from a ref of the repository. -/
  | fromSource
  deriving DecidableEq, Repr, Inhabited

def OvnOrigin.argument : OvnOrigin → String
  | .prebuilt => "koji"
  | .fromSource => "source"

structure Inputs where
  /-- The commit of the source tree, marked when the tree has uncommitted changes. -/
  sourceRevision : String
  targetArch : String
  origin : OvnOrigin
  /-- The commit to compile from. -/
  resolvedRef : Option String
  /-- The short hash of the build file. -/
  dockerfileHash : String
  deriving DecidableEq, Repr, Inhabited

namespace Inputs

def lines (inputs : Inputs) : List String :=
  [inputs.sourceRevision,
    "arch=" ++ inputs.targetArch,
    "ovn_from=" ++ inputs.origin.argument,
    "ovn_gitref=" ++ inputs.resolvedRef.getD "",
    "dockerfile_sha=" ++ inputs.dockerfileHash]

def material (inputs : Inputs) : String := Text.joinStrings "\n" inputs.lines

def cacheKey (inputs : Inputs) : String := Sha256.short (Bytes.ofString inputs.material)

end Inputs
end PodNetwork.Image
