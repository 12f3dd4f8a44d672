/-! White space and the cuts made at it: trimming, words, and segments between separators.

Texts are handled as lists of characters, so that every cut is a plain list operation.
White space is Unicode's `White_Space` property, not the ASCII class of `Char`. -/
namespace PodNetwork.Text

/-- The characters that Unicode's `White_Space` property lists. -/
def isBlank (c : Char) : Bool :=
  let n := c.toNat
  (0x09 ≤ n && n ≤ 0x0D) || n == 0x20 || n == 0x85 || n == 0xA0 || n == 0x1680 ||
    (0x2000 ≤ n && n ≤ 0x200A) || n == 0x2028 || n == 0x2029 || n == 0x202F ||
    n == 0x205F || n == 0x3000

def dropFirst (p : Char → Bool) (cs : List Char) : List Char := cs.dropWhile p

def dropLast (p : Char → Bool) (cs : List Char) : List Char :=
  (cs.reverse.dropWhile p).reverse

def dropAround (p : Char → Bool) (cs : List Char) : List Char := dropLast p (dropFirst p cs)

def trimStart (cs : List Char) : List Char := dropFirst isBlank cs
def trimEnd (cs : List Char) : List Char := dropLast isBlank cs
def trim (cs : List Char) : List Char := dropAround isBlank cs

/-- The parts of a text between separators. There is always one more part than separators,
so a text without separators is its own single part. -/
def segments (sep : Char → Bool) : List Char → List (List Char)
  | [] => [[]]
  | c :: r =>
    if sep c then [] :: segments sep r
    else match segments sep r with
      | [] => [[c]]
      | s :: ss => (c :: s) :: ss

theorem segments_ne_nil (sep : Char → Bool) (cs : List Char) : segments sep cs ≠ [] := by
  cases cs with
  | nil => simp [segments]
  | cons c r =>
    unfold segments
    split
    · simp
    · split <;> simp

def words (cs : List Char) : List (List Char) := (segments isBlank cs).filter (!·.isEmpty)

def cutAt? (sep : Char) : List Char → Option (List Char × List Char)
  | [] => none
  | c :: r => if c = sep then some ([], r) else (cutAt? sep r).map fun (a, b) => (c :: a, b)

theorem eq_append_of_cutAt? {sep : Char} {cs a b : List Char} (h : cutAt? sep cs = some (a, b)) :
    cs = a ++ sep :: b := by
  induction cs generalizing a with
  | nil => simp [cutAt?] at h
  | cons c r ih =>
    unfold cutAt? at h
    split at h
    · next hc =>
      cases h
      simp [hc]
    · obtain ⟨⟨a', b'⟩, hr, he⟩ := Option.map_eq_some_iff.1 h
      cases he
      simp [ih hr]

/-- The lines of a text. A line ends at a newline, with the carriage return right before it;
a text that ends in a newline has no further empty line. -/
def lines (cs : List Char) : List (List Char) :=
  let parts := segments (· == '\n') cs
  let ended := parts.dropLast.map fun l =>
    if l.getLast? = some '\r' then l.dropLast else l
  match parts.getLast? with
  | none | some [] => ended
  | some rest => ended ++ [rest]

def trimmed (s : String) : String := .ofList (trim s.toList)

def trimmedEnd (s : String) : String := .ofList (trimEnd s.toList)

def isAllBlank (s : String) : Bool := s.toList.all isBlank

def joinWith (sep : List Char) : List (List Char) → List Char
  | [] => []
  | [l] => l
  | l :: ls => l ++ sep ++ joinWith sep ls

def joinStrings (sep : String) (ls : List String) : String :=
  .ofList (joinWith sep.toList (ls.map String.toList))

def startsWith (s start : String) : Bool := start.toList.isPrefixOf s.toList

end PodNetwork.Text
