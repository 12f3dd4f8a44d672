/-! Shell commands: words with what is to be put into them, and the forms in which commands are
combined. -/
namespace PodNetwork.Rehearsal.Shell

/-- A part of a word. The result of a part that is not quoted is cut at its blanks. -/
inductive Piece where
  | text (s : String) (quoted : Bool)
  | parameter (name : String) (quoted : Bool)
  /-- All arguments, each of them a word of its own. -/
  | arguments (quoted : Bool)
  /-- The value of an expression. -/
  | value (expression : String) (quoted : Bool)
  deriving DecidableEq, Repr, Inhabited

abbrev Word := List Piece

inductive Target where
  | file (path : Word) (extend : Bool)
  | stream (descriptor : Nat)
  /-- A file to read from. -/
  | source (path : Word)
  deriving DecidableEq, Repr, Inhabited

structure Redirect where
  descriptor : Nat
  target : Target
  deriving DecidableEq, Repr, Inhabited

inductive Command where
  | skip
  | simple (assignments : List (String × Word)) (words : List Word) (redirects : List Redirect)
  | chain (first second : Command)
  | both (first second : Command)
  | either (first second : Command)
  | negation (command : Command)
  | branch (condition yes no : Command)
  /-- Repeats a body as long as a condition succeeds or, the other way round, fails. -/
  | loop (expected : Bool) (condition body : Command)
  | each (name : String) (words : List Word) (body : Command)
  | group (body : Command) (redirects : List Redirect)
  /-- Runs a body that cannot change the shell. -/
  | apart (body : Command) (redirects : List Redirect)
  deriving DecidableEq, Repr, Inhabited

end PodNetwork.Rehearsal.Shell
