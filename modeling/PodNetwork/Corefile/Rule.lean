import PodNetwork.Regex.Pattern
import PodNetwork.Error

/-! Rules that rewrite single lines of a Corefile.

A rule has a pattern and an action. The first group of the pattern is the directive that the
action keeps, so a rule that does more than drop lines needs such a group. -/
namespace PodNetwork.Corefile

inductive Action where
  | drop
  /-- Puts a word right behind the directive, unless the line has that word already. -/
  | extend (suffix : String)
  /-- Replaces what follows the directive by the name server. -/
  | forward
  deriving DecidableEq, Repr, Inhabited

structure Rule where
  name : String
  pattern : Regex
  action : Action
  deriving DecidableEq, Repr, Inhabited

namespace Rule

/-- Reads the pattern of a rule, and checks that there is a directive to keep. -/
def ofPattern (name pattern : String) (action : Action) : Attempt Rule :=
  match Regex.ofPattern? pattern with
  | none => .error (.config s!"invalid Corefile rule '{name}'")
  | some regex =>
    if action ≠ .drop ∧ regex.groupCount < 2 then
      .error (.config s!"Corefile rule '{name}' needs a capture group for the directive")
    else .ok ⟨name, regex, action⟩

/-- Whether a line opens a block: its last character that is not blank is an opening brace. -/
def opensBlock (line : List Char) : Bool := (Text.trimEnd line).getLast? == some '\x7b'

def directive (line : List Char) (span : Regex.Span) : List Char :=
  (line.take span.stop).drop span.start

/-- A line with a word put behind its directive, unless that word follows already. -/
def extended (suffix line : List Char) (span : Regex.Span) : List Char :=
  let rest := line.drop span.stop
  if (Text.words rest).any (· = suffix) then line else directive line span ++ ' ' :: suffix ++ rest

/-- A directive with a name server, and the brace if the line opened a block. -/
def forwarded (server line : List Char) (span : Regex.Span) : List Char :=
  directive line span ++ ' ' :: server ++ if opensBlock line then [' ', '\x7b'] else []

/-- Rewrites a line; there is no result when the line is dropped. A line that does not match, or
in which the directive took no part in the match, stays as it is. -/
def rewrite (rule : Rule) (server line : List Char) : Option (List Char) :=
  match rule.pattern.search line with
  | none => some line
  | some found =>
    match rule.action with
    | .drop => none
    | .extend suffix => some (((found.group? 1).map (extended suffix.toList line)).getD line)
    | .forward => some (((found.group? 1).map (forwarded server line)).getD line)

end Rule
end PodNetwork.Corefile
