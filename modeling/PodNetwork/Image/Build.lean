import PodNetwork.SourceTree
import PodNetwork.Image.Inputs
import PodNetwork.Image.Name
import PodNetwork.Image.Revision

/-! Building an image unless one of the same inputs exists.

Everything that changes the content of the image goes into a key, and the image is kept under a
name that carries the key. An unchanged build is then a lookup and a tag. -/
namespace PodNetwork.Image

def dockerfilePath : String := "dist/images/Dockerfile.fedora"

def builderImage : String := "quay.io/projectquay/golang:1.24"

def ovnRepository : String := "https://github.com/ovn-org/ovn.git"

def unknownRevision : String := "unknown"

def ignoreFile : String := ".dockerignore"

def ignoreContent : String :=
  "# Written by dpu-sim for the duration of an image build.\n" ++
  "# Keeps files Dockerfile.fedora does not need out of the build context\n" ++
  "# so the COPY layer only changes when real build inputs change.\n" ++
  ".git\n.github\ncontrib\ndocs\ntest\nhelm\n*.yml\n*.txt\n*.md\n**/*_test.go\n"

def compilerCacheWithin (caches : String) : String :=
  Path.join (Path.join caches "dpu-sim") "ovn-go-build-cache"

def defaultCompilerCache : Routine String := do
  match ← Site.userCache with
  | some caches => return compilerCacheWithin caches
  | none => throw (.config "cannot determine user cache directory")

/-- How images are built: with which engine, from which tree, and with which directory for the
compiler's cache. -/
structure Builder where
  engine : EngineName
  tree : SourceTree
  compilerCache : Option String := none
  deriving DecidableEq, Repr, Inhabited

/-- An image that is available under the name that was asked for. -/
structure Built where
  image : String
  cachedImage : String
  cacheKey : String
  /-- Whether it existed before. -/
  reused : Bool
  deriving DecidableEq, Repr, Inhabited

/-- The build arguments, all of them functions of the inputs. The ones for platforms are those
that podman does not work out by itself. -/
def Inputs.buildArgs (inputs : Inputs) : Labels :=
  let platform := "linux/" ++ inputs.targetArch
  Labels.ofEntries <|
    [("BUILDER_IMAGE", builderImage), ("OVN_FROM", inputs.origin.argument),
      ("OVN_KUBERNETES_DIR", "."), ("BUILDPLATFORM", platform), ("TARGETOS", "linux"),
      ("TARGETARCH", inputs.targetArch)] ++
    match inputs.resolvedRef with
    | some commit => [("OVN_REPO", ovnRepository), ("OVN_GITREF", commit)]
    | none => []

namespace Builder

def prepareCache (builder : Builder) : Routine String := do
  let dir ← match builder.compilerCache with
    | some dir => pure dir
    | none => defaultCompilerCache
  Site.makeDirectories dir
  return dir

/-- The arguments that mount the compiler's cache. Docker has its own, and a build without the
cache is slower but right. -/
def cacheArguments (builder : Builder) : Routine (List String) := do
  if builder.engine ≠ .podman then return []
  match ← builder.prepareCache.outcome with
  | .ok dir =>
    return ["--volume", dir ++ ":/root/.cache/go-build:Z", "--volume", dir ++ ":/go/pkg/mod:Z"]
  | .error _ => return []

def options (builder : Builder) (tree image : String) (inputs : Inputs) :
    Routine BuildOptions := do
  return {
    contextDir := tree
    dockerfile := Path.join tree dockerfilePath
    image
    platform := "linux/" ++ inputs.targetArch
    buildArgs := inputs.buildArgs
    extraArgs := ← builder.cacheArguments }

/-- Collects the inputs of a build from the tree, the host and the repository. An empty ref
counts as none. -/
def inputs (tree : String) (ref : Option String) : Routine Inputs := do
  let dockerfile := Path.join tree dockerfilePath
  if !(← Site.fileExists dockerfile) then throw (.buildSpecMissing dockerfile)
  let content ← Site.readFile dockerfile
  let arch := (← Site.hostInfo).architecture.platformName
  let resolvedRef ← match ref with
    | none | some "" => pure none
    | some ref => some <$> resolveRef ovnRepository ref
  let revision ← match ← (sourceRevision tree).outcome with
    | .ok revision => pure revision
    | .error _ => pure unknownRevision
  return {
    sourceRevision := revision
    targetArch := arch
    origin := if resolvedRef.isSome then .fromSource else .prebuilt
    resolvedRef
    dockerfileHash := Sha256.short content }

def retag (cachedImage image : String) : Routine Unit :=
  if cachedImage = image then pure () else Site.tag cachedImage image

/-- Builds with the ignore file in place, and removes that file whatever happens. -/
def build (tree : String) (options : BuildOptions) : Routine Unit := do
  let ignore := Path.join tree ignoreFile
  discard <| (Site.writeFile ignore (Bytes.ofString ignoreContent)).outcome
  let built ← (Site.build options).outcome
  discard <| (Site.removeAll ignore).outcome
  match built with
  | .ok () => return
  | .error e => throw (.buildFailed options.image e.text (e.output?.getD ""))

/-- Makes an image available, building it only if none of the same inputs exists. With a ref,
the packages are compiled from it; otherwise prebuilt ones are used. -/
def buildOrReuse (builder : Builder) (image : String) (ref : Option String) : Routine Built := do
  let tree ← builder.tree.ensure
  let inputs ← inputs tree ref
  let cacheKey := inputs.cacheKey
  let cachedImage := cachedName image cacheKey
  let reused ← Site.imageExists cachedImage
  if !reused then build tree (← builder.options tree cachedImage inputs)
  retag cachedImage image
  return { image, cachedImage, cacheKey, reused }

end Builder
end PodNetwork.Image
