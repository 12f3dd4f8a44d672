import PodNetwork.Command.Line
import PodNetwork.Command.Job
import PodNetwork.Engine.Program
import PodNetwork.Install.Installer

/-! Carrying out the commands.

Clusters are worked on one after the other, in the order of the configuration, and the first
failure ends the command. -/
namespace PodNetwork

structure Setting where
  config : Config
  /-- The engine, which is looked for only if a cluster needs one. -/
  engine : Option EngineName
  source : SourceTree
  deriving DecidableEq, Repr, Inhabited

namespace Setting

def needsEngine (clusters : List Config.Cluster) : Bool :=
  clusters.any fun c => c.cni = .ovnKubernetes

def prepare (config : Config) (host : HostOptions) (clusters : List Config.Cluster) :
    Job Setting := do
  let engine ←
    if needsEngine clusters then some <$> Job.work none host.engine.detect else pure none
  return { config, engine, source := { projectRoot := host.projectRoot } }

/-- The installer for a cluster. -/
def installer (setting : Setting) (cluster : Config.Cluster) (ref : Option String) :
    Job Install.Installer :=
  .ofAttempt <| Install.Installer.ofCni
    { engine := setting.engine
      source := setting.source
      roles := setting.config.roles
      containerNodes := setting.config.isContainerized
      ovn := setting.config.ovnOptions ref } cluster.cni

def perform {α : Type} (setting : Setting) (access : Access) (routine : Routine α) : Job α :=
  .work (some access) <| match setting.engine with
    | some engine => engine.drive routine
    | none => routine

def install (setting : Setting) (ref apiServer : Option String) (cluster : Config.Cluster) :
    Job String := do
  let target ← Job.ofOutcome (setting.config.targetOf cluster apiServer)
  let access ← Job.connect setting.config cluster.name
  let installer ← setting.installer cluster ref
  let report ← setting.perform access (installer.install target)
  return report.summary "installed"

def skipLine (cni : Cni) (cluster : String) : String :=
  cni.name ++ " does not support redeploy, skipped " ++ cluster ++ "\n"

/-- Redeploys the plugin of a cluster, and tells what to print of it. -/
def redeploy (setting : Setting) (cluster : Config.Cluster) : Job String := do
  let target ← Job.ofOutcome (setting.config.targetOf cluster none)
  let access ← Job.connect setting.config cluster.name
  let installer ← setting.installer cluster none
  match ← setting.perform access (installer.redeploy target) with
  | .redeployed report => return report.summary "redeployed"
  | .unsupported cni => return skipLine cni cluster.name

end Setting

namespace Job

def onEach (work : Config.Cluster → Job String) : List Config.Cluster → Job Unit
  | [] => return
  | cluster :: rest => do
    print (← work cluster)
    onEach work rest

def install (config : Config) (host : HostOptions) (name ref apiServer : Option String) :
    Job Unit := do
  let clusters ← ofOutcome (config.selected name apiServer)
  let setting ← Setting.prepare config host clusters
  onEach (setting.install ref apiServer) clusters

def redeploy (config : Config) (host : HostOptions) (name : Option String) : Job Unit := do
  let clusters ← ofOutcome (config.selected name none)
  let setting ← Setting.prepare config host clusters
  onEach setting.redeploy clusters

def builtLine (built : Image.Built) : String :=
  if built.reused then built.image ++ " is up to date (" ++ built.cachedImage ++ ")\n"
  else "built " ++ built.image ++ " (" ++ built.cachedImage ++ ")\n"

def publishedImage (config : Config) (image : String) : String :=
  Config.registryImage (((config.container? .ovnKubernetes).map (·.tag)).getD image)

def publishing (routine : Routine Unit) : Job Unit := do
  match ← work none routine.outcome with
  | .ok () => return
  | .error e => throw (.refused e.text)

def publish (engine : EngineName) (image remote : String) : Job Unit := do
  publishing (engine.drive (Site.tag image remote))
  publishing (engine.drive (Site.push remote true))
  print ("pushed " ++ remote ++ "\n")

def build (config : Config) (host : HostOptions) (name ref : Option String) (push : Bool) :
    Job Unit := do
  let image := name.getD config.buildImage
  let engine ← work none host.engine.detect
  let builder : Image.Builder := { engine, tree := { projectRoot := host.projectRoot } }
  let built ← work none (engine.drive (builder.buildOrReuse image ref))
  print (builtLine built)
  if push then publish engine built.image (publishedImage config image)

end Job

def CommandLine.run (line : CommandLine) : Job Unit := do
  let config ← Job.readConfig line.config
  match line.command with
  | .install cluster ref apiServer => Job.install config line.host cluster ref apiServer
  | .redeploy cluster => Job.redeploy config line.host cluster
  | .build image ref push => Job.build config line.host image ref push

end PodNetwork
