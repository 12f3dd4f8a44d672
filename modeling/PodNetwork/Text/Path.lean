import PodNetwork.Text.Blank

/-! File paths of a Unix host, as text: joining, the parent, and comparison by whole components. -/
namespace PodNetwork.Path

/-- The components of a path. Doubled separators and inner dots vanish; a leading separator and
a leading dot are components of their own. -/
def components (path : String) : List String :=
  let parts := (Text.segments (· == '/') path.toList).map String.ofList
  let first := if path.startsWith "/" then ["/"] else if parts.head? = some "." then ["."] else []
  first ++ parts.filter fun p => p ≠ "" && p ≠ "."

/-- A second path read from a first one: an absolute one replaces it, any other is put behind
one separator, so that joining the empty path leaves a trailing separator. -/
def join (base rest : String) : String :=
  if rest.startsWith "/" || base.isEmpty then rest
  else if base.endsWith "/" then base ++ rest
  else base ++ "/" ++ rest

theorem startsWith_slash_iff {path : String} :
    path.startsWith "/" = true ↔ path.toList.head? = some '/' := by
  rw [String.startsWith_string_iff, List.prefix_iff_eq_append]
  cases h : path.toList <;> simp [eq_comm]

/-- Relative paths that lead to the same place from one base are the same. -/
theorem join_right_inj {base a b : String} (ha : a.startsWith "/" = false)
    (hb : b.startsWith "/" = false) (same : join base a = join base b) : a = b := by
  unfold join at same
  rw [ha, hb, Bool.false_or] at same
  split at same
  · exact same
  split at same
  · exact (String.append_right_inj base).mp same
  · exact (String.append_right_inj _).mp same

/-- Drops trailing separators and dots that are components of nothing. -/
def dropTrailing : List Char → List Char
  | '/' :: r => if r.isEmpty then ['/'] else dropTrailing r
  | '.' :: '/' :: r => dropTrailing ('/' :: r)
  | r => r

/-- The path without its last component; the root and the empty path have no parent. -/
def parent? (path : String) : Option String :=
  match (components path).getLast? with
  | none | some "/" => none
  | some _ =>
    let rest := (dropTrailing path.toList.reverse).dropWhile (· != '/')
    some (.ofList (dropTrailing rest).reverse)

def isWithin (path base : String) : Bool := (components base).isPrefixOf (components path)

def same (a b : String) : Bool := components a == components b

/-- The place of a component among others: the root, a dot, two dots, and then the names. -/
def rank (component : String) : Nat :=
  match component with
  | "/" => 0
  | "." => 1
  | ".." => 2
  | _ => 3

def precedes : List String → List String → Bool
  | _, [] => false
  | [], _ :: _ => true
  | a :: as, b :: bs =>
    if a = b then precedes as bs else rank a < rank b || (rank a = rank b && a < b)

def before (a b : String) : Bool := precedes (components a) (components b)

end PodNetwork.Path
