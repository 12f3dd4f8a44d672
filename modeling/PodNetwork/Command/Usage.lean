import PodNetwork.Engine.Basic

/-! The commands of the program, and what can be set on their command lines. -/
namespace PodNetwork

inductive Verb where
  | install
  | redeploy
  | build
  deriving DecidableEq, Repr, Inhabited

namespace Verb

def name : Verb → String
  | .install => "install-cni"
  | .redeploy => "redeploy-cni"
  | .build => "build-image"

def all : List Verb := [.install, .redeploy, .build]

def ofName? (s : String) : Option Verb := all.find? fun v => v.name = s

end Verb

/-- Why a command line is not carried out. -/
inductive UsageError where
  /-- Nothing is asked for. -/
  | nothingAsked
  | missingCommand
  | unknownCommand
  | unknownArgument
  /-- An option is given twice. -/
  | conflict
  /-- A value is missing, or empty where it may not be. -/
  | invalidValue
  /-- A value is not one of those that can be chosen. -/
  | refusedValue
  /-- A value is given to an option that takes none. -/
  | tooManyValues
  /-- Help is asked for. -/
  | help
  /-- The version is asked for. -/
  | version
  deriving DecidableEq, Repr, Inhabited

namespace UsageError

def text : UsageError → String
  | .nothingAsked | .missingCommand => "a command is required"
  | .unknownCommand => "there is no such command"
  | .unknownArgument => "there is no such option"
  | .conflict => "an option is given twice"
  | .invalidValue => "an option lacks its value"
  | .refusedValue => "an option has a value that it does not take"
  | .tooManyValues => "an option has a value but takes none"
  | .help => "help"
  | .version => "version"

def exitCode : UsageError → Nat
  | .help | .version => 0
  | _ => 2

end UsageError

namespace Usage

/-- What an option sets or asks for. -/
inductive Field where
  | config
  | cluster
  | ovnGitRef
  | apiServer
  | image
  | push
  | projectRoot
  | engine
  | help
  | version
  deriving DecidableEq, Repr, Inhabited

namespace Field

def long : Field → String
  | .config => "config"
  | .cluster => "cluster"
  | .ovnGitRef => "ovn-git-ref"
  | .apiServer => "api-server"
  | .image => "image"
  | .push => "push"
  | .projectRoot => "project-root"
  | .engine => "engine"
  | .help => "help"
  | .version => "version"

def short? : Field → Option Char
  | .config => some 'c'
  | .help => some 'h'
  | .version => some 'V'
  | _ => none

/-- The variable of the environment that sets a field which is not given. -/
def setBy? : Field → Option String
  | .config => some "DPU_SIM_CONFIG"
  | .ovnGitRef => some "DPU_SIM_OVN_GIT_REF"
  | .projectRoot => some "DPU_SIM_PROJECT_ROOT"
  | .engine => some EnginePreference.variableName
  | _ => none

def takesValue : Field → Bool
  | .push | .help | .version => false
  | _ => true

/-- Paths may not be empty, and an engine has to be one that there is. -/
def check (field : Field) (value : String) : Except UsageError Unit :=
  match field with
  | .config | .projectRoot => if value.isEmpty then .error .invalidValue else .ok ()
  | .engine => (EnginePreference.parse value).toOption.elim (.error .refusedValue) fun _ => .ok ()
  | _ => .ok ()

end Field

/-- The fields of the program itself, or of one of its commands, in the order in which the
environment is searched for them. -/
def fields : Option Verb → List Field
  | none => [.config, .help, .version]
  | some .install => [.cluster, .ovnGitRef, .apiServer, .projectRoot, .engine, .config, .help]
  | some .redeploy => [.cluster, .projectRoot, .engine, .config, .help]
  | some .build => [.image, .ovnGitRef, .push, .projectRoot, .engine, .config, .help]

end Usage
end PodNetwork
