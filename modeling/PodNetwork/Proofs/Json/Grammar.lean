import PodNetwork.Json.Value

/-! The grammar of JSON text.

How a value may be written is given by relations between the value and its text, one for each
production. Members keep the order of the text, repeated keys included. A numeral that has neither
point nor exponent and fits 64 bits stands for a whole number, and any other for the nearest
floating-point number, if that is finite. -/
namespace PodNetwork.Json.Grammar

/-- Whether there is nothing but what may stand between tokens. -/
def IsGap (gap : List Char) : Prop := ∀ c ∈ gap, c ∈ [' ', '\t', '\n', '\r']

def hexDigits : List (Char × Nat) :=
  "0123456789abcdef".toList.zipIdx ++ "0123456789ABCDEF".toList.zipIdx

/-- A number of sixteen bits in four hexadecimal digits. -/
inductive CodeUnit : Nat → List Char → Prop
  | mk {a b c d : Char} {i j k l : Nat} (ha : (a, i) ∈ hexDigits) (hb : (b, j) ∈ hexDigits)
      (hc : (c, k) ∈ hexDigits) (hd : (d, l) ∈ hexDigits) :
      CodeUnit (((i * 16 + j) * 16 + k) * 16 + l) [a, b, c, d]

/-- The letters that may follow a backslash, and the characters they stand for. -/
def escapes : List (Char × Char) :=
  [('"', '"'), ('\\', '\\'), ('/', '/'), ('b', '\x08'), ('f', '\x0c'), ('n', '\n'), ('r', '\r'),
    ('t', '\t')]

/-- The ways to write a character: as itself, by an escape of its own, or by its number, which
takes two surrogates beyond sixteen bits. -/
inductive Letter (c : Char) : List Char → Prop
  | bare (printable : 0x20 ≤ c.toNat) (quote : c ≠ '"') (backslash : c ≠ '\\') : Letter c [c]
  | short {letter : Char} (h : (letter, c) ∈ escapes) : Letter c ['\\', letter]
  | number {digits : List Char} (h : CodeUnit c.toNat digits) : Letter c ('\\' :: 'u' :: digits)
  | surrogates {high low : Nat} {first second : List Char} (high_lt : high < 0x400)
      (low_lt : low < 0x400) (hfirst : CodeUnit (0xD800 + high) first)
      (hsecond : CodeUnit (0xDC00 + low) second)
      (value : c.toNat = 0x10000 + (high * 0x400 + low)) :
      Letter c ('\\' :: 'u' :: (first ++ '\\' :: 'u' :: second))

theorem Letter.length_pos {c : Char} {text : List Char} (h : Letter c text) : 0 < text.length := by
  cases h <;> simp

inductive Letters : List Char → List Char → Prop
  | nil : Letters [] []
  | cons {c : Char} {cs text rest : List Char} (letter : Letter c text) (later : Letters cs rest) :
      Letters (c :: cs) (text ++ rest)

inductive Quoted (s : String) : List Char → Prop
  | mk {text : List Char} (letters : Letters s.toList text) : Quoted s ('"' :: (text ++ ['"']))

structure IsDigits (digits : List Char) : Prop where
  ne : digits ≠ []
  digit : ∀ d ∈ digits, d.isDigit = true

theorem IsDigits.all {digits : List Char} (h : IsDigits digits) : digits.all Char.isDigit = true :=
  List.all_eq_true.mpr h.digit

/-- The first digit is no sign. -/
theorem IsDigits.exists_cons {digits : List Char} (h : IsDigits digits) :
    ∃ d ds, digits = d :: ds ∧ d.isDigit = true ∧ d ≠ '-' ∧ d ≠ '+' := by
  obtain ⟨d, ds, rfl⟩ := List.exists_cons_of_ne_nil h.ne
  have digit := h.digit d List.mem_cons_self
  refine ⟨d, ds, rfl, digit, ?_, ?_⟩ <;> rintro rfl <;> exact absurd digit (by decide)

/-- Whether digits have no needless zero in front. -/
structure IsWhole (digits : List Char) : Prop extends IsDigits digits where
  lead : digits.head? = some '0' → digits = ['0']

def count (digits : List Char) : Nat := Nat.ofDigitChars 10 digits 0

inductive Fraction : List Char → List Char → Prop
  | none : Fraction [] []
  | point {digits : List Char} (h : IsDigits digits) : Fraction digits ('.' :: digits)

/-- The signs of an exponent, and what they multiply it with. -/
def exponentSigns : List (List Char × Int) := [([], 1), (['+'], 1), (['-'], -1)]

/-- The power of ten behind a numeral. -/
inductive Exponent : Int → List Char → Prop
  | none : Exponent 0 []
  | power {mark : Char} {sign digits : List Char} {factor : Int} (hmark : mark ∈ ['e', 'E'])
      (hsign : (sign, factor) ∈ exponentSigns) (h : IsDigits digits) :
      Exponent (factor * count digits) (mark :: (sign ++ digits))

/-- What stands behind the whole digits of a numeral does not begin with a digit. -/
theorem Fraction.head_append {places fraction exponent : List Char} {power : Int}
    (hfraction : Fraction places fraction) (hexponent : Exponent power exponent) :
    ∀ c ∈ (fraction ++ exponent).head?, c.isDigit = false := by
  have marks : ∀ mark ∈ ['e', 'E'], mark.isDigit = false := by simp
  cases hfraction with
  | point => simp
  | none =>
    cases hexponent with
    | none => exact nofun
    | power hmark => simpa using marks _ hmark

def sign (negative : Bool) : List Char := if negative then ['-'] else []

/-- Whether a signed number fits 64 bits. There is no negative zero among the whole numbers. -/
def fits (negative : Bool) (n : Nat) : Bool :=
  if negative then 0 < n && n ≤ Nat.pow 2 63 else n < Nat.pow 2 64

inductive Numeral : Number → List Char → Prop
  | whole {negative : Bool} {digits : List Char} (hdigits : IsWhole digits)
      (fit : fits negative (count digits) = true) :
      Numeral (.whole (if negative then -count digits else count digits))
        (sign negative ++ digits)
  | rounded {negative : Bool} {digits places fraction exponent : List Char} {power : Int}
      {x : Binary64} (hdigits : IsWhole digits) (hfraction : Fraction places fraction)
      (hexponent : Exponent power exponent)
      (unfit : fraction ++ exponent = [] → fits negative (count digits) = false)
      (nearest : Binary64.ofDecimal negative (count (digits ++ places)) (power - places.length) = x)
      (finite : x.isFinite = true) :
      Numeral (.float x) (sign negative ++ (digits ++ (fraction ++ exponent)))

mutual

inductive Value : Json → List Char → Prop
  | null : Value .null "null".toList
  | true : Value (.bool true) "true".toList
  | false : Value (.bool false) "false".toList
  | number {n : Number} {text : List Char} (h : Numeral n text) : Value (.number n) text
  | string {s : String} {text : List Char} (h : Quoted s text) : Value (.string s) text
  | emptyArray {gap : List Char} (h : IsGap gap) : Value (.array []) ('[' :: (gap ++ [']']))
  | array {items : List Json} {text : List Char} (h : Elements items text) :
      Value (.array items) ('[' :: (text ++ [']']))
  | emptyObject {gap : List Char} (h : IsGap gap) :
      Value (.object []) ('\x7b' :: (gap ++ ['\x7d']))
  | object {members : List (String × Json)} {text : List Char} (h : Members members text) :
      Value (.object members) ('\x7b' :: (text ++ ['\x7d']))

/-- A value with gaps around it. A whole text is one of these. -/
inductive Element : Json → List Char → Prop
  | mk {v : Json} {lead text trail : List Char} (hlead : IsGap lead) (h : Value v text)
      (htrail : IsGap trail) : Element v (lead ++ (text ++ trail))

inductive Elements : List Json → List Char → Prop
  | single {v : Json} {text : List Char} (h : Element v text) : Elements [v] text
  | cons {v : Json} {items : List Json} {text rest : List Char} (h : Element v text)
      (later : Elements items rest) : Elements (v :: items) (text ++ ',' :: rest)

inductive Member : String → Json → List Char → Prop
  | mk {key : String} {v : Json} {lead name trail text : List Char} (hlead : IsGap lead)
      (hname : Quoted key name) (htrail : IsGap trail) (h : Element v text) :
      Member key v (lead ++ (name ++ (trail ++ ':' :: text)))

inductive Members : List (String × Json) → List Char → Prop
  | single {key : String} {v : Json} {text : List Char} (h : Member key v text) :
      Members [(key, v)] text
  | cons {key : String} {v : Json} {members : List (String × Json)} {text rest : List Char}
      (h : Member key v text) (later : Members members rest) :
      Members ((key, v) :: members) (text ++ ',' :: rest)

end

theorem isGap_nil : IsGap [] := nofun

/-- A value is an element without gaps. -/
theorem Value.element {v : Json} {text : List Char} (h : Value v text) : Element v text := by
  simpa using Element.mk isGap_nil h isGap_nil

end PodNetwork.Json.Grammar
