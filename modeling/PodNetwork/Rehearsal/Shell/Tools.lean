import PodNetwork.Rehearsal.Shell.Process

/-! The small programs that scripts use. -/
namespace PodNetwork.Rehearsal.Shell.Process

def words (fault : SystemFault) : String :=
  .ofList (fault.text.toList.takeWhile (· != '(') |> Text.trimEnd)

def quote (path : String) : String := "'" ++ path ++ "'"

/-- The outcome of a comparison of numbers. -/
def compare? (operator : String) (a b : Int) : Option Bool :=
  match operator with
  | "-eq" => some (a = b)
  | "-ne" => some (a ≠ b)
  | "-lt" => some (a < b)
  | "-le" => some (a ≤ b)
  | "-gt" => some (b < a)
  | "-ge" => some (b ≤ a)
  | _ => none

/-- Whether a condition holds, or what is wrong with it. -/
def condition (p : Process) : List String → Except String Bool
  | [] => .ok false
  | [s] => .ok (!s.isEmpty)
  | ["!", s] => .ok s.isEmpty
  | ["-n", s] => .ok (!s.isEmpty)
  | ["-z", s] => .ok s.isEmpty
  | ["-e", path] => .ok (p.files.isThere p.dir path)
  | ["-d", path] => .ok (p.files.isDirectory p.dir path)
  | ["-f", path] => .ok (p.files.isThere p.dir path && !p.files.isDirectory p.dir path)
  | ["-L", path] | ["-h", path] => .ok ((p.files.kindOf p.dir path).toOption = some .link)
  | ["-s", path] => .ok ((p.files.read p.dir path).toOption.any fun bs => !bs.isEmpty)
  | [operator, _] => .error (operator ++ ": unexpected operator")
  | [a, operator, b] =>
    if operator = "=" then .ok (a = b)
    else if operator = "!=" then .ok (a ≠ b)
    else if a = "!" then (condition p [operator, b]).map (!·)
    else if (compare? operator 0 0).isNone then .error (operator ++ ": unexpected operator")
    else match Arithmetic.whole? a, Arithmetic.whole? b with
      | some m, some n => .ok ((compare? operator m n).getD false)
      | none, _ => .error ("Illegal number: " ++ a)
      | _, none => .error ("Illegal number: " ++ b)
  | "!" :: rest => (condition p rest).map (!·)
  | _ => .error "too many arguments"

def test (p : Process) (name : String) (args : List String) : Process :=
  match p.condition args with
  | .ok holds => p.finish (if holds then 0 else 1)
  | .error text => p.complain (name ++ ": " ++ text) 2

def printf (p : Process) : List String → Process
  | [] => p.complain "printf: usage: printf format [arg ...]" 2
  | "--" :: form :: args | form :: args =>
    let written := Format.format form args
    let p := (p.write written.output).finish 0
    written.refused.foldl (fun p s =>
      p.complain ("printf: " ++ s ++ ": expected numeric value") 1) p

def signal? (s : String) : Option Nat :=
  match s.toNat? with
  | some n => if n ≤ 64 then some n else none
  | none =>
    let name := String.ofList (s.toList.map Char.toUpper)
    let name := if name.startsWith "SIG" then (name.drop 3).toString else name
    (ExitStatus.signalNames.idxOf? name).map (· + 1)

/-- The signals that do nothing unless a process asks for them. -/
def harmless : List Nat := [0, 17, 18, 23, 28]

/-- Sends a signal to the process itself; there are no others. -/
def kill (p : Process) (args : List String) : Flow × Process :=
  let (name, targets) := match args with
    | "-s" :: name :: targets | "-n" :: name :: targets => (name, targets)
    | arg :: targets =>
      if arg.startsWith "-" then ((arg.drop 1).toString, targets) else ("TERM", args)
    | [] => ("TERM", [])
  match signal? name with
  | none => (.next, p.complain ("kill: invalid signal number or name: " ++ name) 2)
  | some signal =>
    if targets.isEmpty then
      (.next, p.complain "kill: Usage: kill [-s sigspec | -signum | -sigspec] [pid | job]... or" 2)
    else if targets.all (· = number) then
      if harmless.contains signal then (.next, p.finish 0) else (.killed signal, p)
    else (.next, p.complain "kill: No such process" 1)

def changeDir (p : Process) (path : String) : Process :=
  match p.files.resolve p.dir true path with
  | .ok ⟨place, some .directory⟩ => { p with dir := place, status := 0 }
  | _ => p.complain ("cd: can't cd to " ++ path) 2

/-- A length of time in milliseconds, written in seconds or with a unit. -/
def duration? (s : String) : Option Nat :=
  let cs := s.toList
  let (number, unit) := match cs.getLast? with
    | some 's' => (cs.dropLast, 1)
    | some 'm' => (cs.dropLast, 60)
    | some 'h' => (cs.dropLast, 3600)
    | some 'd' => (cs.dropLast, 86400)
    | _ => (cs, 1)
  let whole := number.takeWhile Char.isDigit
  let rest := number.drop whole.length
  let part := (rest.drop 1).takeWhile Char.isDigit
  let malformed := (whole.isEmpty && part.isEmpty) ||
    !(rest.isEmpty || (rest.head? = some '.' && rest.length = part.length + 1))
  if malformed then none
  else
    let value (ds : List Char) := (String.ofList ds).toNat?.getD 0
    let thousandths := value ((part ++ ['0', '0', '0']).take 3)
    some (unit * (1000 * value whole + thousandths))

/-- Waits, but not longer than there is time. -/
def sleep (p : Process) (args : List String) : Flow × Process :=
  match args.find? fun s => (duration? s).isNone with
  | some s => (.next, p.fail ("sleep: invalid time interval '" ++ s ++ "'") 1)
  | none =>
    if args.isEmpty then (.next, p.fail "sleep: missing operand" 1)
    else
      let clock := p.clock + (args.filterMap duration?).foldl (· + ·) 0
      let late := p.deadline.any (· ≤ clock)
      (if late then .late else .next, { p with clock, status := 0 })

def options (args : List String) : List Char × List String :=
  let isOption (s : String) : Bool := s.startsWith "-" && 1 < s.length && s ≠ "--"
  ((args.filter isOption).flatMap fun s => s.toList.drop 1,
    args.filter fun s => !isOption s && s ≠ "--")

/-- Does something for each argument; one that fails does not keep the others from it. -/
def forEach (p : Process) (act : Process → String → Except String Process) (args : List String) :
    Process :=
  args.foldl (fun p arg =>
    match act p arg with
    | .ok p => p
    | .error line => p.fail line 1) (p.finish 0)

def cat (p : Process) (args : List String) : Process :=
  p.forEach (fun p path =>
    match p.files.read p.dir path with
    | .ok content => .ok (p.write content)
    | .error fault => .error ("cat: " ++ path ++ ": " ++ words fault)) (options args).2

def touch (p : Process) (args : List String) : Process :=
  p.forEach (fun p path =>
    if p.files.isThere p.dir path then .ok p
    else match p.files.write p.dir path [] with
      | .ok files => .ok { p with files }
      | .error fault =>
        .error ("touch: cannot touch " ++ quote path ++ ": " ++ words fault)) (options args).2

def makeDirs (p : Process) (args : List String) : Process :=
  let (flags, paths) := options args
  p.forEach (fun p path =>
    let made := if flags.contains 'p' then p.files.makeDirectories p.dir path
      else p.files.create p.dir path .directory
    match made with
    | .ok files => .ok { p with files }
    | .error fault =>
      .error ("mkdir: cannot create directory " ++ quote path ++ ": " ++ words fault)) paths

def remove (p : Process) (args : List String) : Process :=
  let (flags, paths) := options args
  p.forEach (fun p path =>
    let fails (fault : SystemFault) :=
      Except.error ("rm: cannot remove " ++ quote path ++ ": " ++ words fault)
    match p.files.kindOf p.dir path with
    | .error .notFound => if flags.contains 'f' then .ok p else fails .notFound
    | .error fault => fails fault
    | .ok .directory =>
      if flags.contains 'r' || flags.contains 'R' then
        .ok { p with files := (p.files.removeTree p.dir path).2 }
      else fails .isADirectory
    | .ok _ =>
      match p.files.removeFile p.dir path with
      | .ok files => .ok { p with files }
      | .error fault => fails fault) paths

def lastName (path : String) : String := ((Path.components path).getLast?).getD path

/-- Makes a path lead to where another one leads. -/
def link (p : Process) (args : List String) : Process :=
  let (flags, paths) := options args
  let symbolic := flags.contains 's'
  let make (target path : String) : Process :=
    let path := if p.files.isDirectory p.dir path then Path.join path (lastName target) else path
    let kind := if symbolic then "symbolic link" else "hard link"
    let fails (fault : SystemFault) := p.fail
      ("ln: failed to create " ++ kind ++ " " ++ quote path ++ ": " ++ words fault) 1
    let files := if flags.contains 'f' then
        match p.files.removeFile p.dir path with
        | .ok files => files
        | .error _ => p.files
      else p.files
    let create (entry : FileEntry) : Process :=
      match files.create p.dir path entry with
      | .ok files => { p with files, status := 0 }
      | .error fault => fails fault
    if symbolic then create (.link target)
    else match p.files.read p.dir target with
      | .ok content => create (.file content)
      | .error .isADirectory =>
        p.fail ("ln: " ++ target ++ ": hard link not allowed for directory") 1
      | .error fault => p.fail ("ln: failed to access " ++ quote target ++ ": " ++ words fault) 1
  match paths with
  | [] => p.fail "ln: missing file operand" 1
  | [target] => make target (lastName target)
  | [target, path] => make target path
  | _ => p.fail "ln: target is not a directory" 1

/-- Writes the numbers from a first to a last one. -/
def seq (p : Process) (args : List String) : Process :=
  match args.mapM Arithmetic.whole? with
  | some [last] => numbers 1 1 last
  | some [first, last] => numbers first 1 last
  | some [first, step, last] => numbers first step last
  | _ => p.fail "seq: invalid argument" 1
where
  numbers (first step last : Int) : Process :=
    let count := if step = 0 then 0 else ((last - first) / step + 1).toNat
    (List.range count).foldl (fun p (i : Nat) => p.say (toString (first + step * (i : Int))))
      (p.finish 0)

/-- Runs one of the small programs, if it is one. -/
def tool? (p : Process) (name : String) (args : List String) : Option (Flow × Process) :=
  let go (p : Process) : Option (Flow × Process) := some (.next, p)
  match name with
  | "true" => go (p.finish 0)
  | "false" => go (p.finish 1)
  | "echo" => go ((p.write (Format.echo args)).finish 0)
  | "printf" => go (p.printf args)
  | "test" => go (p.test name args)
  | "[" =>
    if args.getLast? = some "]" then go (p.test name args.dropLast)
    else go (p.complain "[: missing ]" 2)
  | "kill" => some (p.kill args)
  | "pwd" => go ((p.say ("/" ++ Text.joinStrings "/" p.dir)).finish 0)
  | "sleep" => some (p.sleep args)
  | "cat" => go (p.cat args)
  | "touch" => go (p.touch args)
  | "mkdir" => go (p.makeDirs args)
  | "rm" => go (p.remove args)
  | "ln" => go (p.link args)
  | "seq" => go (p.seq args)
  | _ => none

end PodNetwork.Rehearsal.Shell.Process
