import PodNetwork.Text.Blank

/-! What the offline rules do to a line, said without patterns.

This is the reading of the rules that a user of the tables has in mind; that the table agrees
with it on every line is a matter of proof. -/
namespace PodNetwork.Corefile.Offline

/-- The rest behind a directive, when it is empty or begins with a blank. -/
def restAfter? (directive line : List Char) : Option (List Char) :=
  if directive.isPrefixOf line then
    let rest := line.drop directive.length
    if rest.isEmpty || rest.head?.any Text.isBlank then some rest else none
  else none

def indentation (line : List Char) : List Char := line.takeWhile Text.isBlank

def isDropped (line : List Char) : Bool :=
  Text.trim line == "upstream".toList || Text.trim line == "loop".toList ||
    "fallthrough".toList.isPrefixOf (Text.trimStart line)

/-- What becomes of a line. -/
def rewriteLine (topLevelDomain server line : List Char) : Option (List Char) :=
  let zone := "kubernetes cluster.local".toList
  let upstream := "forward .".toList
  if isDropped line then none
  else match restAfter? zone (Text.trimStart line) with
    | some rest =>
      if topLevelDomain ∈ Text.words rest then some line
      else some (indentation line ++ zone ++ ' ' :: topLevelDomain ++ rest)
    | none =>
      match restAfter? upstream (Text.trimStart line) with
      | some _ =>
        let brace := if (Text.trimEnd line).getLast? == some '\x7b' then [' ', '\x7b'] else []
        some (indentation line ++ upstream ++ ' ' :: server ++ brace)
      | none => some line

def rewriteLines (topLevelDomain server corefile : List Char) : List (List Char) :=
  (Text.segments (· == '\n') corefile).filterMap (rewriteLine topLevelDomain server)

end PodNetwork.Corefile.Offline
