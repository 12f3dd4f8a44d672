import PodNetwork.Text.Blank

/-! Points of time written as a date, a time of day and an offset from universal time. -/
namespace PodNetwork

/-- A point of time, in universal time. The seconds of a day number 86,400; a leap second is
marked beside the second it follows. -/
structure Timestamp where
  /-- Days since the first of March of the year 0. -/
  day : Int
  second : Nat
  leap : Bool := false
  deriving DecidableEq, Repr, Inhabited

namespace Timestamp

def isLeapYear (year : Int) : Bool := year % 4 = 0 && (year % 100 ≠ 0 || year % 400 = 0)

def monthLength (year : Int) (month : Nat) : Nat :=
  if month = 2 then (if isLeapYear year then 29 else 28)
  else if month = 4 || month = 6 || month = 9 || month = 11 then 30 else 31

/-- The days before a date, counting years from March so that a leap day ends its year. -/
def dayOf (year : Int) (month day : Nat) : Int :=
  let y := if month ≤ 2 then year - 1 else year
  let m := (month + 9) % 12
  365 * y + y / 4 - y / 100 + y / 400 + ((153 * m + 2) / 5 : Nat) + (day : Int) - 1

/-- Year, month and day of a number of days. -/
def dateOf (days : Int) : Int × Nat × Nat :=
  let era := days / 146097
  let d := (days % 146097).toNat
  let y := (d - d / 1460 + d / 36524 - d / 146096) / 365
  let rest := d - (365 * y + y / 4 - y / 100)
  let m := (5 * rest + 2) / 153
  let day := rest - (153 * m + 2) / 5 + 1
  let month := if m < 10 then m + 3 else m - 9
  let year : Int := (y : Int) + era * 400
  (if month ≤ 2 then year + 1 else year, month, day)

def digits? (count : Nat) (cs : List Char) : Option (Nat × List Char) :=
  let ds := cs.take count
  if ds.length = count && ds.all Char.isDigit then
    some (ds.foldl (fun n c => 10 * n + (c.toNat - 48)) 0, cs.drop count)
  else none

def char? (allowed : List Char) : List Char → Option (List Char)
  | c :: r => if allowed.contains c then some r else none
  | [] => none

def skipFraction : List Char → Option (List Char)
  | '.' :: r =>
    let rest := r.dropWhile Char.isDigit
    if rest.length = r.length then none else some rest
  | r => some r

/-- The offset in seconds that ends a time. -/
def offset? : List Char → Option Int
  | ['Z'] | ['z'] => some 0
  | sign :: r => do
    let negative ← if sign = '+' then some false
      else if sign = '-' || sign = '−' then some true else none
    let (hours, r) ← digits? 2 r
    let r ← char? [':'] r
    let (minutes, r) ← digits? 2 r
    if r.isEmpty && minutes < 60 && hours < 24 then
      let seconds : Int := (3600 * hours + 60 * minutes : Nat)
      some (if negative then -seconds else seconds)
    else none
  | [] => none

def ofChars? (cs : List Char) : Option Timestamp := do
  let (year, cs) ← digits? 4 cs
  let cs ← char? ['-'] cs
  let (month, cs) ← digits? 2 cs
  let cs ← char? ['-'] cs
  let (day, cs) ← digits? 2 cs
  let cs ← char? ['T', 't', ' '] cs
  let (hour, cs) ← digits? 2 cs
  let cs ← char? [':'] cs
  let (minute, cs) ← digits? 2 cs
  let cs ← char? [':'] cs
  let (second, cs) ← digits? 2 cs
  let offset ← offset? (← skipFraction cs)
  if 1 ≤ month && month ≤ 12 && 1 ≤ day && day ≤ monthLength year month && hour < 24 &&
      minute < 60 && second ≤ 60 then
    let clock : Int := (3600 * hour + 60 * minute + min second 59 : Nat)
    let seconds := dayOf year month day * 86400 + clock - offset
    some ⟨seconds / 86400, (seconds % 86400).toNat, second = 60⟩
  else none

def parse? (s : String) : Option Timestamp := ofChars? s.toList

def padded (width n : Nat) : String :=
  let ds := toString n
  .ofList (List.replicate (width - ds.length) '0') ++ ds

/-- The universal time, down to the second. Years outside four digits have a sign. -/
def text (t : Timestamp) : String :=
  let (year, month, day) := dateOf t.day
  let second := t.second % 60 + if t.leap then 1 else 0
  let year :=
    if 0 ≤ year && year ≤ 9999 then padded 4 year.toNat
    else (if year < 0 then "-" else "+") ++ padded 4 year.natAbs
  year ++ "-" ++ padded 2 month ++ "-" ++ padded 2 day ++ "T" ++ padded 2 (t.second / 3600) ++
    ":" ++ padded 2 (t.second / 60 % 60) ++ ":" ++ padded 2 second ++ "Z"

end Timestamp
end PodNetwork
