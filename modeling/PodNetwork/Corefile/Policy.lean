import PodNetwork.Corefile.Rule

/-! Tables of Corefile rules, applied to every line one after the other.

The offline table makes a cluster's DNS usable without a connection to the outside: loop
detection and fallthrough go, the cluster zone also answers for one more top-level domain, and
all other queries are forwarded to a fixed server. -/
namespace PodNetwork.Corefile

structure Policy where
  rules : List Rule
  deriving DecidableEq, Repr, Inhabited

namespace Policy

def rewrite (policy : Policy) (server line : List Char) : Option (List Char) :=
  policy.rules.foldlM (fun line rule => rule.rewrite server line) line

def applyLines (policy : Policy) (server corefile : List Char) : List (List Char) :=
  (Text.segments (· == '\n') corefile).filterMap (policy.rewrite server)

def apply (policy : Policy) (corefile server : String) : String :=
  .ofList (Text.joinWith ['\n'] (policy.applyLines server.toList corefile.toList))

open Regex in
def blanks : Regex := star true (.set .blank)

open Regex in
def anything : Regex := star true (.set (.negated .newline))

def lineOf (word : String) : Regex :=
  .catOf (.anchor .textStart :: blanks :: Regex.letters word ++ [blanks, .anchor .textEnd])

def lineFrom (word : String) : Regex :=
  .catOf (.anchor .textStart :: blanks :: Regex.letters word ++ [anything, .anchor .textEnd])

def directive (words : String) : Regex := .group 1 (.catOf (blanks :: Regex.letters words))

/-- A directive with a blank or nothing behind it. -/
def zone : Regex :=
  .catOf [.anchor .textStart, directive "kubernetes cluster.local",
    .alt (.set .blank) (.anchor .textEnd)]

/-- A directive with nothing behind it, or a blank and anything. -/
def upstream : Regex :=
  .catOf [.anchor .textStart, directive "forward .",
    .optional true (.catOf [.set .blank, anything]), .anchor .textEnd]

def offline (topLevelDomain : String) : Policy := ⟨[
  ⟨"drop-upstream", lineOf "upstream", .drop⟩,
  ⟨"drop-fallthrough", lineFrom "fallthrough", .drop⟩,
  ⟨"drop-loop", lineOf "loop", .drop⟩,
  ⟨"serve-extra-tld", zone, .extend topLevelDomain⟩,
  ⟨"forward-upstream", upstream, .forward⟩]⟩

/-- The patterns of the offline rules, as they are written. -/
theorem ofPattern?_offline :
    Regex.ofPattern? "^\\s*upstream\\s*$" = some (lineOf "upstream") ∧
    Regex.ofPattern? "^\\s*fallthrough.*$" = some (lineFrom "fallthrough") ∧
    Regex.ofPattern? "^\\s*loop\\s*$" = some (lineOf "loop") ∧
    Regex.ofPattern? "^(\\s*kubernetes cluster\\.local)(?:\\s|$)" = some zone ∧
    Regex.ofPattern? "^(\\s*forward \\.)(?:\\s.*)?$" = some upstream := by
  decide +kernel

end Policy
end PodNetwork.Corefile
