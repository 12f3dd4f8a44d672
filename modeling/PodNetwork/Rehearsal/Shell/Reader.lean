import PodNetwork.Rehearsal.Shell.Command
import PodNetwork.Text.Blank

/-! Reading shell scripts. A script is cut into tokens first, and commands are read from these. -/
namespace PodNetwork.Rehearsal.Shell

inductive Token where
  | word (word : Word)
  | mark (text : String)
  /-- The sign of a redirection, which the word after it completes. -/
  | redirect (descriptor : Nat) (sign : String)
  deriving DecidableEq, Repr, Inhabited

namespace Reader

def isNameStart (c : Char) : Bool := c.isAlpha || c == '_'
def isNameChar (c : Char) : Bool := c.isAlphanum || c == '_'
def isSpecial (c : Char) : Bool := "$?#@*!-".toList.contains c

def endsWord (c : Char) : Bool := " \t\n;&|<>()".toList.contains c

/-- Reads an expression up to the two brackets that end it. -/
def readExpression (depth : Nat) : List Char → Option (List Char × List Char)
  | [] => none
  | ')' :: rest =>
    match depth, rest with
    | 0, ')' :: rest => some ([], rest)
    | 0, _ => none
    | depth + 1, rest => (readExpression depth rest).map fun (e, rest) => (')' :: e, rest)
  | '(' :: rest => (readExpression (depth + 1) rest).map fun (e, rest) => ('(' :: e, rest)
  | c :: rest => (readExpression depth rest).map fun (e, rest) => (c :: e, rest)

def named (name : String) (quoted : Bool) : Piece :=
  if name = "@" || name = "*" then .arguments (quoted && name = "@") else .parameter name quoted

/-- Reads what follows a dollar sign. -/
def readDollar (quoted : Bool) (cs : List Char) : Option (Piece × List Char) :=
  match cs with
  | '(' :: '(' :: rest => do
    let (expression, rest) ← readExpression 0 rest
    return (.value (.ofList expression) quoted, rest)
  | '(' :: _ => none
  | '{' :: rest => do
    let name := rest.takeWhile (· != '}')
    if name.isEmpty || !(name.all isNameChar || name.length = 1) then none
    else match rest.drop name.length with
      | '}' :: rest => return (named (.ofList name) quoted, rest)
      | _ => none
  | c :: rest =>
    if isNameStart c then
      let name := cs.takeWhile isNameChar
      some (named (.ofList name) quoted, cs.drop name.length)
    else if c.isDigit || isSpecial c then some (named c.toString quoted, rest)
    else some (.text "$" quoted, cs)
  | [] => some (.text "$" quoted, [])

/-- Reads a word. The first flag tells whether double quotes are open. -/
def readWord : Nat → Bool → List Char → Option (Word × List Char)
  | 0, _, _ => none
  | _, true, [] => none
  | _, false, [] => some ([], [])
  | fuel + 1, quoted, c :: rest =>
    let go (piece : Piece) (quoted : Bool) (rest : List Char) :=
      (readWord fuel quoted rest).map fun (word, rest) => (piece :: word, rest)
    if c = '"' then go (.text "" true) (!quoted) rest
    else if c = '$' then do
      let (piece, rest) ← readDollar quoted rest
      go piece quoted rest
    else if c = '\x60' then none
    else if c = '\\' then
      match rest with
      | [] => go (.text "\\" true) quoted []
      | '\n' :: rest => readWord fuel quoted rest
      | d :: rest =>
        let kept := quoted && !"$\x60\"\\".toList.contains d
        go (.text (.ofList (if kept then ['\\', d] else [d])) true) quoted rest
    else if !quoted && c = '\'' then
      let body := rest.takeWhile (· != '\'')
      match rest.drop body.length with
      | '\'' :: rest => go (.text (.ofList body) true) quoted rest
      | _ => none
    else if !quoted && endsWord c then some ([], c :: rest)
    else
      let plain (d : Char) : Bool := !"\"$\x60\\".toList.contains d &&
        (quoted || (!endsWord d && d != '\''))
      let body := c :: rest.takeWhile plain
      go (.text (.ofList body) quoted) quoted (rest.drop (body.length - 1))

/-- Reads the sign of a redirection. -/
def readSign : List Char → Option (String × List Char)
  | '>' :: '>' :: rest => some (">>", rest)
  | '>' :: '&' :: rest => some (">&", rest)
  | '>' :: '|' :: rest => some (">", rest)
  | '>' :: rest => some (">", rest)
  | '<' :: '<' :: _ => none
  | '<' :: '&' :: rest => some (">&", rest)
  | '<' :: rest => some ("<", rest)
  | _ => none

/-- Cuts a script into tokens. -/
def readTokens : Nat → List Char → Option (List Token)
  | 0, _ => none
  | _, [] => some []
  | fuel + 1, c :: rest =>
    let cs := c :: rest
    let mark (text : String) := (readTokens fuel (cs.drop text.length)).map (.mark text :: ·)
    let digits := cs.takeWhile Char.isDigit
    let sign := cs.drop digits.length
    if c = ' ' || c = '\t' then readTokens fuel rest
    else if c = '#' then readTokens fuel (rest.dropWhile (· != '\n'))
    else if sign.head? = some '>' || sign.head? = some '<' then do
      let (text, rest) ← readSign sign
      let own := if text = "<" then 0 else 1
      let descriptor := if digits.isEmpty then own else (String.ofList digits).toNat?.getD own
      return .redirect descriptor text :: (← readTokens fuel rest)
    else match cs with
      | '\n' :: _ => mark "\n"
      | '&' :: '&' :: _ => mark "&&"
      | '|' :: '|' :: _ => mark "||"
      | ';' :: ';' :: _ => mark ";;"
      | '\\' :: '\n' :: rest => readTokens fuel rest
      | _ =>
        if endsWord c then mark c.toString
        else do
          let (word, rest) ← readWord fuel false cs
          return .word word :: (← readTokens fuel rest)

def plain? : Word → Option String
  | [.text s false] => some s
  | _ => none

def assignment? : Word → Option (String × Word)
  | .text s false :: rest => do
    let (name, value) ← Text.cutAt? '=' s.toList
    if (name.head?.any isNameStart) && name.all isNameChar then
      return (.ofList name, (if value.isEmpty then [] else [.text (.ofList value) false]) ++ rest)
    else none
  | _ => none

def target? (sign : String) (word : Word) : Option Target :=
  if sign = ">" then some (.file word false)
  else if sign = ">>" then some (.file word true)
  else if sign = "<" then some (.source word)
  else (plain? word).bind fun s => s.toNat?.map .stream

/-- The words that have a meaning of their own where a command begins. -/
def reserved : List String :=
  ["if", "then", "elif", "else", "fi", "while", "until", "do", "done", "for", "\x7b", "\x7d", "!",
    "case", "esac"]

def readRedirects : List Token → Option (List Redirect × List Token)
  | .redirect descriptor sign :: .word word :: rest => do
    let target ← target? sign word
    let (redirects, rest) ← readRedirects rest
    return (⟨descriptor, target⟩ :: redirects, rest)
  | .redirect .. :: _ => none
  | rest => some ([], rest)

/-- Reads the assignments, words and redirections of a simple command. -/
def readSimple (started : Bool) :
    List Token → Option (List (String × Word) × List Word × List Redirect × List Token)
  | .redirect descriptor sign :: .word word :: rest => do
    let target ← target? sign word
    let (assignments, words, redirects, rest) ← readSimple started rest
    return (assignments, words, ⟨descriptor, target⟩ :: redirects, rest)
  | .redirect .. :: _ => none
  | .word word :: rest =>
    match (if started then none else assignment? word) with
    | some a => do
      let (assignments, words, redirects, rest) ← readSimple false rest
      return (a :: assignments, words, redirects, rest)
    | none => do
      let (assignments, words, redirects, rest) ← readSimple true rest
      return (assignments, word :: words, redirects, rest)
  | rest => some ([], [], [], rest)

def dropNewlines : List Token → List Token
  | .mark "\n" :: rest => dropNewlines rest
  | rest => rest

def expect (text : String) : List Token → Option (List Token)
  | .word word :: rest => if plain? word = some text then some rest else none
  | _ => none

def readItems : List Token → List Word × List Token
  | .word word :: rest =>
    let (words, rest) := readItems rest
    (word :: words, rest)
  | .mark ";" :: rest => ([], rest)
  | rest => ([], rest)

mutual

/-- Reads commands one after the other, up to a word or a mark that cannot begin one. -/
def readList : Nat → List Token → Option (Command × List Token)
  | 0, _ => none
  | fuel + 1, tokens =>
    match dropNewlines tokens with
    | [] => some (.skip, [])
    | .mark ")" :: rest => some (.skip, .mark ")" :: rest)
    | .word word :: rest =>
      if (plain? word).any fun s => ["then", "elif", "else", "fi", "do", "done", "\x7d"].contains s
      then some (.skip, .word word :: rest)
      else readChain fuel (.word word :: rest)
    | rest => readChain fuel rest

/-- Reads a command and those after it. -/
def readChain : Nat → List Token → Option (Command × List Token)
  | 0, _ => none
  | fuel + 1, tokens => do
    let (first, rest) ← readAndOr fuel tokens
    match rest with
    | .mark ";" :: rest | .mark "\n" :: rest =>
      let (second, rest) ← readList fuel rest
      return (if second = .skip then first else .chain first second, rest)
    | rest => return (first, rest)

def readAndOr : Nat → List Token → Option (Command × List Token)
  | 0, _ => none
  | fuel + 1, tokens => do
    let (first, rest) ← readCommand fuel tokens
    readMore fuel first rest

/-- Reads what is joined to a command. -/
def readMore : Nat → Command → List Token → Option (Command × List Token)
  | 0, _, _ => none
  | fuel + 1, first, tokens =>
    match tokens with
    | .mark "&&" :: rest => do
      let (second, rest) ← readCommand fuel (dropNewlines rest)
      readMore fuel (.both first second) rest
    | .mark "||" :: rest => do
      let (second, rest) ← readCommand fuel (dropNewlines rest)
      readMore fuel (.either first second) rest
    | rest => some (first, rest)

/-- Reads a single command. -/
def readCommand : Nat → List Token → Option (Command × List Token)
  | 0, _ => none
  | fuel + 1, tokens =>
    match tokens with
    | .mark "(" :: rest => do
      match ← readList fuel rest with
      | (body, .mark ")" :: rest) => do
        let (redirects, rest) ← readRedirects rest
        return (.apart body redirects, rest)
      | _ => none
    | .word word :: rest =>
      match (plain? word).filter reserved.contains with
      | some "!" => do
        let (command, rest) ← readCommand fuel rest
        return (.negation command, rest)
      | some "\x7b" => do
        let (body, rest) ← readList fuel rest
        closed "\x7d" body rest
      | some "while" => readLoop fuel true rest
      | some "until" => readLoop fuel false rest
      | some "if" => do
        let (command, rest) ← readBranch fuel rest
        closed "fi" command rest
      | some "for" => readEach fuel rest
      | some _ => none
      | none => simple tokens
    | .redirect .. :: _ => simple tokens
    | _ => none
where
  simple (tokens : List Token) : Option (Command × List Token) := do
    let (assignments, words, redirects, rest) ← readSimple false tokens
    return (.simple assignments words redirects, rest)
  closed (last : String) (body : Command) (rest : List Token) :
      Option (Command × List Token) := do
    let (redirects, rest) ← readRedirects (← expect last rest)
    return (if redirects.isEmpty then body else .group body redirects, rest)

/-- Reads a loop after its first word. -/
def readLoop : Nat → Bool → List Token → Option (Command × List Token)
  | 0, _, _ => none
  | fuel + 1, expected, tokens => do
    let (condition, rest) ← readList fuel tokens
    let (body, rest) ← readList fuel (← expect "do" rest)
    let (redirects, rest) ← readRedirects (← expect "done" rest)
    let loop := Command.loop expected condition body
    return (if redirects.isEmpty then loop else .group loop redirects, rest)

/-- Reads the cases of a branch up to the word that ends it. -/
def readBranch : Nat → List Token → Option (Command × List Token)
  | 0, _ => none
  | fuel + 1, tokens => do
    let (condition, rest) ← readList fuel tokens
    let (yes, rest) ← readList fuel (← expect "then" rest)
    match rest with
    | .word word :: rest =>
      match plain? word with
      | some "elif" => do
        let (no, rest) ← readBranch fuel rest
        return (.branch condition yes no, rest)
      | some "else" => do
        let (no, rest) ← readList fuel rest
        return (.branch condition yes no, rest)
      | _ => return (.branch condition yes .skip, .word word :: rest)
    | _ => none

/-- Reads a loop over words after its first word. -/
def readEach : Nat → List Token → Option (Command × List Token)
  | 0, _ => none
  | fuel + 1, tokens =>
    match tokens with
    | .word word :: rest => do
      let name ← plain? word
      let (words, rest) ← match dropNewlines rest with
        | .word word :: rest =>
          if plain? word = some "in" then some (readItems rest)
          else some ([[.arguments true]], .word word :: rest)
        | .mark ";" :: rest => some ([[.arguments true]], rest)
        | _ => none
      let (body, rest) ← readList fuel (← expect "do" (dropNewlines rest))
      let (redirects, rest) ← readRedirects (← expect "done" rest)
      let loop := Command.each name words body
      return (if redirects.isEmpty then loop else .group loop redirects, rest)
    | _ => none

end

end Reader

def Command.ofScript? (script : String) : Option Command := do
  let cs := script.toList
  let tokens ← Reader.readTokens (cs.length + 1) cs
  match ← Reader.readList (8 * tokens.length + 8) tokens with
  | (command, []) => return command
  | _ => none

end PodNetwork.Rehearsal.Shell
