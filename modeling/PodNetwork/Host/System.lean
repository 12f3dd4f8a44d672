import PodNetwork.Kubernetes.Wire
import PodNetwork.Text.Utf8

/-! What the operating system of a host is asked for: its files, the running of programs, the
printing of text, the time, and the network. -/
namespace PodNetwork

/-- Why a request to the system fails. -/
inductive SystemFault where
  | notFound
  | denied
  | alreadyThere
  | notADirectory
  | isADirectory
  | nameTooLong
  | tooManyLinks
  /-- A path or an argument holds the character that ends texts of the system. -/
  | embeddedNul
  | other (text : String)
  deriving DecidableEq, Repr, Inhabited

namespace SystemFault

def numbered (words : String) (number : Nat) : String := s!"{words} (os error {number})"

def text : SystemFault → String
  | .notFound => numbered "No such file or directory" 2
  | .denied => numbered "Permission denied" 13
  | .alreadyThere => numbered "File exists" 17
  | .notADirectory => numbered "Not a directory" 20
  | .isADirectory => numbered "Is a directory" 21
  | .nameTooLong => numbered "File name too long" 36
  | .tooManyLinks => numbered "Too many levels of symbolic links" 40
  | .embeddedNul => "file name contained an unexpected NUL byte"
  | .other text => text

def atPath (fault : SystemFault) (path : String) : Error := .io path fault.text

end SystemFault

inductive ExitStatus where
  | exited (code : Nat)
  | signaled (signal : Nat)
  deriving DecidableEq, Repr, Inhabited

namespace ExitStatus

def success (status : ExitStatus) : Bool := status = .exited 0

def signalNames : List String :=
  ["HUP", "INT", "QUIT", "ILL", "TRAP", "ABRT", "BUS", "FPE", "KILL", "USR1", "SEGV", "USR2",
    "PIPE", "ALRM", "TERM", "STKFLT", "CHLD", "CONT", "STOP", "TSTP", "TTIN", "TTOU", "URG",
    "XCPU", "XFSZ", "VTALRM", "PROF", "WINCH", "IO", "PWR", "SYS"]

def signalName? : Nat → Option String
  | 0 => none
  | n + 1 => signalNames[n]?

def text : ExitStatus → String
  | .exited code => s!"exit status: {code}"
  | .signaled signal =>
    match signalName? signal with
    | some name => s!"signal: {signal} (SIG{name})"
    | none => s!"signal: {signal}"

end ExitStatus

structure Ending where
  stdout : Bytes := []
  stderr : Bytes := []
  status : ExitStatus := .exited 0
  deriving DecidableEq, Repr, Inhabited

inductive EntryKind where
  | file
  | directory
  | link
  deriving DecidableEq, Repr, Inhabited

inductive SystemCall where
  /-- Runs a program to its end, or kills it when its time is up. The time is in milliseconds, and
  the directory is that of the caller unless one is given. -/
  | spawn (program : String) (args : List String) (dir : Option String) (limit : Option Nat)
  /-- Asks whether there is anything at a path, following links. -/
  | isThere (path : String)
  /-- Tells what is at a path, without following a link. -/
  | kindOf (path : String)
  | readFile (path : String)
  | writeFile (path : String) (content : Bytes)
  /-- Creates a directory and those above it, as far as they are missing. -/
  | makeDirectories (path : String)
  /-- Removes a file or a link. -/
  | removeFile (path : String)
  /-- Removes a directory with all that is in it. -/
  | removeTree (path : String)
  | print (text : String)
  | pause (duration : Nat)
  /-- Asks for a variable of the environment. -/
  | setting (name : String)
  /-- Uses the connection with an API server. -/
  | wire (server : String) (call : Kubernetes.WireCall)
  deriving Repr, Inhabited

def SystemCall.Answer : SystemCall → Type
  | .spawn .. => Except SystemFault (Option Ending)
  | .isThere _ => Bool
  | .kindOf _ => Except SystemFault EntryKind
  | .readFile _ => Except SystemFault Bytes
  | .writeFile .. | .makeDirectories _ | .removeFile _ | .removeTree _ => Except SystemFault Unit
  | .print _ | .pause _ => Unit
  | .setting _ => Option String
  | .wire _ call => call.Answer

def System : Interface := ⟨SystemCall, SystemCall.Answer⟩

end PodNetwork
