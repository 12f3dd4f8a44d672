import PodNetwork.Text.Blank
import PodNetwork.Text.Word
import PodNetwork.Text.Fold

/-! Sets of characters as a pattern writes them: ranges, named classes, and their combinations. -/
namespace PodNetwork.Regex

inductive CharSet where
  /-- All characters between two code points, both included. -/
  | range (low high : Nat)
  | blank
  | word
  | digit
  /-- Everything equal to a member but for case. -/
  | folded (s : CharSet)
  | negated (s : CharSet)
  | union (a b : CharSet)
  | inter (a b : CharSet)
  | minus (a b : CharSet)
  /-- The members of exactly one of two sets. -/
  | differ (a b : CharSet)
  deriving DecidableEq, Repr, Inhabited

namespace CharSet

def mem : CharSet → Char → Bool
  | .range low high, c => low ≤ c.toNat && c.toNat ≤ high
  | .blank, c => Text.isBlank c
  | .word, c => Text.isWordChar c
  | .digit, c => Text.isDecimalDigit c
  | .folded s, c => (Text.caseVariants c).any (mem s)
  | .negated s, c => !mem s c
  | .union a b, c => mem a c || mem b c
  | .inter a b, c => mem a c && mem b c
  | .minus a b, c => mem a c && !mem b c
  | .differ a b, c => mem a c != mem b c

def single (c : Char) : CharSet := .range c.toNat c.toNat

@[simp] theorem mem_single (a c : Char) : (single a).mem c = true ↔ c = a := by
  simp only [single, mem, Bool.and_eq_true, decide_eq_true_eq]
  constructor
  · rintro ⟨h, h'⟩
    exact Char.toNat_inj.1 (Nat.le_antisymm h' h)
  · rintro rfl
    exact ⟨Nat.le_refl _, Nat.le_refl _⟩

@[simp] theorem mem_negated (s : CharSet) (c : Char) : (negated s).mem c = !s.mem c := rfl

def none : CharSet := .range 1 0

def all : CharSet := .range 0 0x10FFFF

def unionOf (sets : List CharSet) : CharSet := sets.foldl .union none

def newline : CharSet := single '\n'

def asciiWord : CharSet :=
  unionOf [.range 0x30 0x39, .range 0x41 0x5A, single '_', .range 0x61 0x7A]

def asciiBlank : CharSet := unionOf [.range 0x09 0x0D, single ' ']

def asciiDigit : CharSet := .range 0x30 0x39

/-- The classes named between brackets and colons. -/
def named? (name : String) : Option CharSet :=
  match name with
  | "alnum" => some (unionOf [.range 0x30 0x39, .range 0x41 0x5A, .range 0x61 0x7A])
  | "alpha" => some (unionOf [.range 0x41 0x5A, .range 0x61 0x7A])
  | "ascii" => some (.range 0 0x7F)
  | "blank" => some (unionOf [single '\t', single ' '])
  | "cntrl" => some (unionOf [.range 0 0x1F, single '\x7f'])
  | "digit" => some asciiDigit
  | "graph" => some (.range 0x21 0x7E)
  | "lower" => some (.range 0x61 0x7A)
  | "print" => some (.range 0x20 0x7E)
  | "punct" =>
    some (unionOf [.range 0x21 0x2F, .range 0x3A 0x40, .range 0x5B 0x60, .range 0x7B 0x7E])
  | "space" => some asciiBlank
  | "upper" => some (.range 0x41 0x5A)
  | "word" => some asciiWord
  | "xdigit" => some (unionOf [.range 0x30 0x39, .range 0x41 0x46, .range 0x61 0x66])
  | _ => Option.none

end CharSet
end PodNetwork.Regex
