import PodNetwork.Backoff
import PodNetwork.Cluster
import PodNetwork.Command.Failure
import PodNetwork.Command.Job
import PodNetwork.Command.Line
import PodNetwork.Command.Run
import PodNetwork.Command.Usage
import PodNetwork.Command.Workstation
import PodNetwork.Config.Basic
import PodNetwork.Config.Check
import PodNetwork.Config.Decode
import PodNetwork.Config.Json
import PodNetwork.Corefile.Offline
import PodNetwork.Corefile.Patch
import PodNetwork.Corefile.Policy
import PodNetwork.Corefile.Rule
import PodNetwork.Decimal.Binary64
import PodNetwork.Decimal.Shortest
import PodNetwork.Digest.Sha256
import PodNetwork.Engine.Basic
import PodNetwork.Engine.Program
import PodNetwork.Error
import PodNetwork.Growth
import PodNetwork.Host.Basic
import PodNetwork.Host.Local
import PodNetwork.Host.System
import PodNetwork.Host.Tail
import PodNetwork.Host.UserDirs
import PodNetwork.Image.Build
import PodNetwork.Image.Inputs
import PodNetwork.Image.Name
import PodNetwork.Image.Revision
import PodNetwork.Install.Flannel
import PodNetwork.Install.Installer
import PodNetwork.Install.OvnKubernetes
import PodNetwork.Install.Report
import PodNetwork.Json.Member
import PodNetwork.Json.Printer
import PodNetwork.Json.Reader
import PodNetwork.Json.Value
import PodNetwork.Kubernetes.Bounded
import PodNetwork.Kubernetes.Client
import PodNetwork.Kubernetes.Discovery
import PodNetwork.Kubernetes.Document
import PodNetwork.Kubernetes.Kind
import PodNetwork.Kubernetes.Kubeconfig
import PodNetwork.Kubernetes.Object
import PodNetwork.Kubernetes.Shape
import PodNetwork.Kubernetes.Wire
import PodNetwork.Labels
import PodNetwork.Main
import PodNetwork.Manifest.Deploy
import PodNetwork.Manifest.Phase
import PodNetwork.Procedure
import PodNetwork.Proofs.Procedure.Runs
import PodNetwork.Readiness
import PodNetwork.Regex.Basic
import PodNetwork.Regex.CharSet
import PodNetwork.Regex.Pattern
import PodNetwork.Rehearsal.ApiServer
import PodNetwork.Rehearsal.ClusterScript
import PodNetwork.Rehearsal.EngineScript
import PodNetwork.Rehearsal.FileSystem
import PodNetwork.Rehearsal.HostScript
import PodNetwork.Rehearsal.Machine
import PodNetwork.Rehearsal.Reader
import PodNetwork.Rehearsal.Script
import PodNetwork.Rehearsal.Shell.Arithmetic
import PodNetwork.Rehearsal.Shell.Command
import PodNetwork.Rehearsal.Shell.Format
import PodNetwork.Rehearsal.Shell.Process
import PodNetwork.Rehearsal.Shell.Reader
import PodNetwork.Rehearsal.Shell.Run
import PodNetwork.Rehearsal.Shell.Tools
import PodNetwork.Rehearsal.Stage
import PodNetwork.Site
import PodNetwork.SourceTree
import PodNetwork.Text.Blank
import PodNetwork.Text.Fold
import PodNetwork.Text.Path
import PodNetwork.Text.Query
import PodNetwork.Text.Quoted
import PodNetwork.Text.Timestamp
import PodNetwork.Text.Url
import PodNetwork.Text.Utf8
import PodNetwork.Text.Word
import PodNetwork.Yaml.Cursor
import PodNetwork.Yaml.Node
import PodNetwork.Yaml.Plain
import PodNetwork.Yaml.Record
import PodNetwork.Yaml.Scalar
import PodNetwork.Yaml.Scanner
import PodNetwork.Yaml.Token
import PodNetwork.Yaml.Value
import PodNetwork.Proofs.Install.Preparation
import PodNetwork.Proofs.Install.Stages
import PodNetwork.Proofs.Install.Rendering
import PodNetwork.Proofs.Regex.Outcomes
import PodNetwork.Proofs.Regex.Captures
import PodNetwork.Proofs.Text.Cuts
import PodNetwork.Proofs.Corefile.OfflineRules
import PodNetwork.Proofs.Corefile.Repatching
import PodNetwork.Proofs.Kubernetes.Timely
import PodNetwork.Proofs.Kubernetes.Catalogue
import PodNetwork.Proofs.Kubernetes.KindServer
import PodNetwork.Proofs.Kubernetes.Rounds
import PodNetwork.Proofs.Kubernetes.Applying
import PodNetwork.Proofs.Manifest.CustomKinds
import PodNetwork.Proofs.Manifest.Session
import PodNetwork.Proofs.Procedure.Views
import PodNetwork.Proofs.Digest.Collisions
import PodNetwork.Proofs.Image.Gathering
import PodNetwork.Proofs.Image.Keys
import PodNetwork.Proofs.Image.Providing
import PodNetwork.Proofs.Image.Reuse
import PodNetwork.Proofs.Image.Uncommitted
import PodNetwork.Proofs.Manifest.Sequence
import PodNetwork.Proofs.Procedure.Passages
import PodNetwork.Proofs.SourceTree.Ensuring
import PodNetwork.Proofs.Readiness.Polling
import PodNetwork.Proofs.Install.Redeploying
import PodNetwork.Proofs.Kubernetes.Patching
import PodNetwork.Proofs.Kubernetes.Completing
import PodNetwork.Proofs.Kubernetes.NodeChanges
import PodNetwork.Proofs.Kubernetes.NodeServer
import PodNetwork.Proofs.Manifest.ControlPlane
import PodNetwork.Proofs.Procedure.Agreement
import PodNetwork.Proofs.Install.BestEffort
import PodNetwork.Proofs.Corefile.Blocks
import PodNetwork.Proofs.Corefile.Directives
import PodNetwork.Proofs.Kubernetes.DocumentOrder
import PodNetwork.Proofs.Readiness.Schedule
import PodNetwork.Proofs.Image.RemoteRefs
import PodNetwork.Proofs.Kubernetes.Attempts
import PodNetwork.Proofs.Kubernetes.Snapshots
import PodNetwork.Proofs.Install.FlannelCourse
import PodNetwork.Proofs.Image.CachedNames
import PodNetwork.Proofs.Corefile.Composition
import PodNetwork.Proofs.Kubernetes.ConfigMaps
import PodNetwork.Proofs.Corefile.KeptCorefile
import PodNetwork.Proofs.SourceTree.Files
import PodNetwork.Proofs.Image.IgnoreFile
import PodNetwork.Proofs.Config.Acceptance
import PodNetwork.Proofs.Command.Jobs
import PodNetwork.Proofs.Command.Conduct
import PodNetwork.Proofs.Backoff.Pauses
import PodNetwork.Proofs.Host.OutputTail
import PodNetwork.Proofs.Host.ReleaseFile
import PodNetwork.Proofs.Engine.BuildArguments
import PodNetwork.Proofs.Engine.Driving
import PodNetwork.Proofs.Install.Publishing
import PodNetwork.Proofs.Command.PublishedImage
import PodNetwork.Proofs.Install.NetworkConfig
