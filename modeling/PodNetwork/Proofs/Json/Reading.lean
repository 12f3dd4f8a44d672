import Mathlib.Data.List.DropRight
import PodNetwork.Proofs.Json.Numerals

/-! Reading finds the value of every JSON text.

Each function of the reader is shown to take exactly what one production of the grammar has
written, whatever stands behind it. As reading has one result, no text stands for two values. -/
namespace PodNetwork.Json

open Grammar

variable {gap text rest : List Char}

theorem isSpace_of_isGap (h : IsGap gap) : ∀ c ∈ gap, isSpace c = true := by
  have blanks : ∀ c ∈ [' ', '\t', '\n', '\r'], isSpace c = true := by simp [isSpace]
  exact fun c hc => blanks c (h c hc)

theorem skipSpace_append (h : IsGap gap) : skipSpace (gap ++ rest) = skipSpace rest :=
  List.dropWhile_append_of_pos (isSpace_of_isGap h)

theorem skipSpace_cons {c : Char} (h : isSpace c = false) : skipSpace (c :: rest) = c :: rest :=
  List.dropWhile_cons_of_neg (Bool.eq_false_iff.mp h)

/-- A gap is passed over up to the next token. -/
theorem skipSpace_gap {c : Char} (hgap : IsGap gap) (hc : isSpace c = false) :
    skipSpace (gap ++ c :: rest) = c :: rest := by
  rw [skipSpace_append hgap, skipSpace_cons hc]

section Texts

variable {c : Char} {n : Nat}

theorem hexDigit?_eq : ∀ digit ∈ hexDigits, hexDigit? digit.1 = some digit.2 := by decide

theorem hex4?_append (h : CodeUnit n text) : hex4? (text ++ rest) = some (n, rest) := by
  obtain ⟨ha, hb, hc, hd⟩ := h
  simp [hex4?, hexDigit?_eq _ ha, hexDigit?_eq _ hb, hexDigit?_eq _ hc, hexDigit?_eq _ hd]

/-- The number of a character is never that of a surrogate. -/
theorem unicode?_number (h : CodeUnit c.toNat text) : unicode? (text ++ rest) = some (c, rest) := by
  have valid : c.toNat < 0xD800 ∨ 0xE000 ≤ c.toNat := by
    rcases c.valid with h | h
    · exact .inl h
    · exact .inr (Nat.succ_le_of_lt h.1)
  have high : ¬(0xD800 ≤ c.toNat ∧ c.toNat < 0xDC00) := by omega
  have low : ¬(0xDC00 ≤ c.toNat ∧ c.toNat < 0xE000) := by omega
  simp [unicode?, hex4?_append h, high, low]

theorem unicode?_surrogates {high low : Nat} {first second : List Char} (high_lt : high < 0x400)
    (low_lt : low < 0x400) (hfirst : CodeUnit (0xD800 + high) first)
    (hsecond : CodeUnit (0xDC00 + low) second)
    (value : c.toNat = 0x10000 + (high * 0x400 + low)) :
    unicode? ((first ++ '\\' :: 'u' :: second) ++ rest) = some (c, rest) := by
  have isHigh : 0xD800 ≤ 0xD800 + high ∧ 0xD800 + high < 0xDC00 := by omega
  have isLow : 0xDC00 ≤ 0xDC00 + low ∧ 0xDC00 + low < 0xE000 := by omega
  have same : 0x10000 + (0xD800 + high - 0xD800) * 0x400 + (0xDC00 + low - 0xDC00) = c.toNat := by
    omega
  rw [List.append_assoc, List.cons_append, List.cons_append, unicode?, hex4?_append hfirst]
  simp only [Option.bind_eq_bind, Option.bind_some, Bool.and_eq_true, decide_eq_true_eq,
    if_pos isHigh, hex4?_append hsecond, if_pos isLow, same, Char.ofNat_toNat]

theorem unquote_unicode (h : unicode? (text ++ rest) = some (c, rest)) (fuel : Nat) :
    unquote (fuel + 1) ('\\' :: 'u' :: (text ++ rest)) =
      (unquote fuel rest).map fun (s, behind) => (c :: s, behind) := by
  simp only [unquote, h, Option.bind_eq_bind, Option.bind_some]
  cases unquote fuel rest <;> rfl

/-- One step of reading a text takes one character, whichever way it is written. -/
theorem unquote_letter (h : Letter c text) (fuel : Nat) :
    unquote (fuel + 1) (text ++ rest) =
      (unquote fuel rest).map fun (s, behind) => (c :: s, behind) := by
  cases h with
  | bare printable quote backslash =>
    rw [List.singleton_append, unquote]
    · have control : ¬c.toNat < 0x20 := Nat.not_lt.mpr printable
      simp [backslash, control]
    · exact quote
    · exact fun _ _ h _ => backslash h
  | short h =>
    simp only [escapes, List.mem_cons, Prod.mk.injEq, List.not_mem_nil, or_false] at h
    rcases h with ⟨rfl, rfl⟩ | ⟨rfl, rfl⟩ | ⟨rfl, rfl⟩ | ⟨rfl, rfl⟩ | ⟨rfl, rfl⟩ | ⟨rfl, rfl⟩ |
      ⟨rfl, rfl⟩ | ⟨rfl, rfl⟩ <;> rfl
  | number h => exact unquote_unicode (unicode?_number h) fuel
  | surrogates high_lt low_lt hfirst hsecond value =>
    exact unquote_unicode (unicode?_surrogates high_lt low_lt hfirst hsecond value) fuel

/-- A text is read up to the quotation mark behind its letters. -/
theorem unquote_letters {cs : List Char} (h : Letters cs text) {fuel : Nat}
    (enough : text.length < fuel) : unquote fuel (text ++ '"' :: rest) = some (cs, rest) := by
  induction h generalizing fuel with
  | nil =>
    obtain ⟨fuel, rfl⟩ := Nat.exists_eq_add_one_of_ne_zero (Nat.ne_zero_of_lt enough)
    rfl
  | @cons c cs text later letter _ ih =>
    have pos := letter.length_pos
    rw [List.length_append] at enough
    obtain ⟨fuel, rfl⟩ := Nat.exists_eq_add_one_of_ne_zero (Nat.ne_zero_of_lt enough)
    rw [List.append_assoc, unquote_letter letter, ih (by omega)]
    rfl

end Texts

section Values

theorem skipSpace_skipSpace (cs : List Char) : skipSpace (skipSpace cs) = skipSpace cs :=
  List.dropWhile_idempotent ..

theorem readValue_skipSpace (fuel : Nat) (cs : List Char) :
    readValue fuel (skipSpace cs) = readValue fuel cs := by
  cases fuel with
  | zero => rfl
  | succ fuel => rw [readValue, readValue, skipSpace_skipSpace]

theorem readItems_skipSpace (fuel : Nat) (cs : List Char) :
    readItems fuel (skipSpace cs) = readItems fuel cs := by
  cases fuel with
  | zero => rfl
  | succ fuel => rw [readItems, readItems, readValue_skipSpace]

theorem readMembers_skipSpace (fuel : Nat) (cs : List Char) :
    readMembers fuel (skipSpace cs) = readMembers fuel cs := by
  cases fuel with
  | zero => rfl
  | succ fuel => rw [readMembers, readMembers, skipSpace_skipSpace]

def Stops (rest : List Char) : Prop := ∀ c ∈ rest.head?, isNumeral c = false

/-- Whether a text begins with a token that is no value, or is empty. -/
def Delimits (rest : List Char) : Prop :=
  ∀ c ∈ rest.head?, isSpace c = false ∧ isNumeral c = false

theorem delimits_cons {c : Char} (h : c ∈ [',', ']', '\x7d']) : Delimits (c :: rest) := by
  have tokens : ∀ c ∈ [',', ']', '\x7d'], isSpace c = false ∧ isNumeral c = false := by
    simp [isSpace, isNumeral]
  rintro _ ⟨⟩
  exact tokens c h

theorem skipSpace_delimits (h : Delimits rest) : skipSpace rest = rest := by
  cases rest with
  | nil => rfl
  | cons c rest => exact skipSpace_cons (h c rfl).1

theorem stops_append (hgap : IsGap gap) (h : Delimits rest) : Stops (gap ++ rest) := by
  have blanks : ∀ c ∈ [' ', '\t', '\n', '\r'], isNumeral c = false := by simp [isNumeral]
  cases gap with
  | nil => exact fun c hc => (h c hc).2
  | cons blank gap =>
    rintro _ ⟨⟩
    exact blanks blank (hgap blank List.mem_cons_self)

theorem ne_of_numeral_head {c d : Char} (head : c = '-' ∨ c.isDigit = true) (minus : d ≠ '-')
    (digit : d.isDigit = false) : c ≠ d := by
  rintro rfl
  exact head.elim minus (Bool.eq_false_iff.mp digit)

theorem readValue_number {n : Number} (h : Numeral n text) (stops : Stops rest) (fuel : Nat) :
    readValue (fuel + 1) (text ++ rest) = some (.number n, rest) := by
  have numeral := isNumeral_of_numeral h
  have read := numberOf?_numeral h
  obtain ⟨c, body, rfl, head⟩ := exists_head_of_numeral h
  obtain ⟨hrun, hrest⟩ := Text.span_append (List.forall_mem_cons.mp numeral).2 stops
  have solid : isSpace c = false := by simp [isSpace, ne_of_numeral_head head]
  have leads : (c == '-' || c.isDigit) = true := by simpa using head
  rw [List.cons_append, readValue, skipSpace_cons solid]
  simp [ne_of_numeral_head head, leads, hrun, hrest, read]

variable {fuel : Nat} {body later : List Char} {v : Json} {items : List Json}
  {members : List (String × Json)} {key : String}

theorem readValue_emptyArray (close : skipSpace body = ']' :: rest) :
    readValue (fuel + 1) ('[' :: body) = some (.array [], rest) := by
  rw [readValue, skipSpace_cons rfl]
  simp [close]

theorem readValue_array (apart : ∀ rest, skipSpace body ≠ ']' :: rest)
    (read : readItems fuel body = some (items, rest)) :
    readValue (fuel + 1) ('[' :: body) = some (.array items, rest) := by
  rw [← readItems_skipSpace] at read
  rw [readValue, skipSpace_cons rfl]
  simp [read]

theorem readValue_emptyObject (close : skipSpace body = '\x7d' :: rest) :
    readValue (fuel + 1) ('\x7b' :: body) = some (.object [], rest) := by
  rw [readValue, skipSpace_cons rfl]
  simp [close]

theorem readValue_object (apart : ∀ rest, skipSpace body ≠ '\x7d' :: rest)
    (read : readMembers fuel body = some (members, rest)) :
    readValue (fuel + 1) ('\x7b' :: body) = some (.object members, rest) := by
  rw [← readMembers_skipSpace] at read
  rw [readValue, skipSpace_cons rfl]
  simp [read]

theorem readItems_single (value : readValue fuel text = some (v, body))
    (close : skipSpace body = ']' :: rest) : readItems (fuel + 1) text = some ([v], rest) := by
  simp [readItems, value, close]

theorem readItems_cons (value : readValue fuel text = some (v, body))
    (comma : skipSpace body = ',' :: later) (read : readItems fuel later = some (items, rest)) :
    readItems (fuel + 1) text = some (v :: items, rest) := by
  simp [readItems, value, comma, read]

/-- Whether a key and a colon are read in front of a text. -/
def Keyed (key : String) (text body : List Char) : Prop :=
  ∃ quoted named, skipSpace text = '"' :: quoted ∧
    unquote (quoted.length + 1) quoted = some (key.toList, named) ∧ skipSpace named = ':' :: body

theorem readMembers_single (h : Keyed key text body) (value : readValue fuel body = some (v, later))
    (close : skipSpace later = '\x7d' :: rest) :
    readMembers (fuel + 1) text = some ([(key, v)], rest) := by
  obtain ⟨quoted, named, quote, name, colon⟩ := h
  simp [readMembers, quote, name, colon, value, close]

theorem readMembers_cons {more : List Char} (h : Keyed key text body)
    (value : readValue fuel body = some (v, later)) (comma : skipSpace later = ',' :: more)
    (read : readMembers fuel more = some (members, rest)) :
    readMembers (fuel + 1) text = some ((key, v) :: members, rest) := by
  obtain ⟨quoted, named, quote, name, colon⟩ := h
  simp [readMembers, quote, name, colon, value, comma, read]

theorem unquote_quoted {s : String} (h : Quoted s text) (rest : List Char) :
    ∃ quoted, text ++ rest = '"' :: quoted ∧
      unquote (quoted.length + 1) quoted = some (s.toList, rest) := by
  obtain @⟨body, letters⟩ := h
  refine ⟨body ++ '"' :: rest, by simp, unquote_letters letters ?_⟩
  rw [List.length_append]
  omega

/-- A member is its key and an element. -/
theorem keyed_of_member (h : Member key v text) (rest : List Char) :
    ∃ element, Element v element ∧ element.length < text.length ∧
      Keyed key (text ++ rest) (element ++ rest) := by
  obtain @⟨_, _, lead, name, trail, element, hlead, hname, htrail, h⟩ := h
  have inside : element.length < (lead ++ (name ++ (trail ++ ':' :: element))).length := by
    simp only [List.length_append, List.length_cons]
    omega
  obtain ⟨quoted, shape, read⟩ := unquote_quoted hname (trail ++ ':' :: element ++ rest)
  refine ⟨element, h, inside, quoted, _, ?_, read, ?_⟩
  · have whole : lead ++ (name ++ (trail ++ ':' :: element)) ++ rest = lead ++ '"' :: quoted := by
      simp [← shape]
    rw [whole, skipSpace_gap hlead rfl]
  · rw [List.append_assoc, List.cons_append, skipSpace_gap htrail rfl]

theorem exists_head_of_value (h : Value v text) :
    ∃ c rest, text = c :: rest ∧ isSpace c = false ∧ c ≠ ']' := by
  cases h with
  | number h =>
    obtain ⟨c, rest, rfl, head⟩ := exists_head_of_numeral h
    refine ⟨c, rest, rfl, ?_, ne_of_numeral_head head (by decide) (by decide)⟩
    simp [isSpace, ne_of_numeral_head head]
  | string h =>
    obtain ⟨letters⟩ := h
    exact ⟨_, _, rfl, rfl, by decide⟩
  | _ => exact ⟨_, _, rfl, rfl, by decide⟩

theorem element_apart (h : Element v text) (rest later : List Char) :
    skipSpace (text ++ rest) ≠ ']' :: later := by
  obtain ⟨hlead, h, -⟩ := h
  obtain ⟨c, body, rfl, solid, apart⟩ := exists_head_of_value h
  intro same
  simp only [List.append_assoc, List.cons_append] at same
  rw [skipSpace_gap hlead solid] at same
  exact apart (List.cons.inj same).1

theorem elements_apart (h : Elements items text) (rest later : List Char) :
    skipSpace (text ++ rest) ≠ ']' :: later := by
  cases h with
  | single h => exact element_apart h rest later
  | cons h =>
    rw [List.append_assoc]
    exact element_apart h _ later

theorem Keyed.apart (h : Keyed key text body) (later : List Char) :
    skipSpace text ≠ '\x7d' :: later := by
  obtain ⟨quoted, named, quote, -, -⟩ := h
  intro same
  exact absurd (List.cons.inj (quote.symm.trans same)).1 (by decide)

theorem members_apart (h : Members members text) (rest later : List Char) :
    skipSpace (text ++ rest) ≠ '\x7d' :: later := by
  cases h with
  | single h =>
    obtain ⟨element, -, -, keyed⟩ := keyed_of_member h rest
    exact keyed.apart later
  | @cons key v members text more h =>
    obtain ⟨element, -, -, keyed⟩ := keyed_of_member h (',' :: more ++ rest)
    rw [List.append_assoc]
    exact keyed.apart later

/-- A value is found between its gaps, if it is found where a value begins. -/
theorem readValue_element (h : Element v text) (delimits : Delimits rest)
    (read : ∀ {value rest}, Value v value → value.length ≤ text.length → Stops rest →
      readValue fuel (value ++ rest) = some (v, rest)) :
    ∃ behind, readValue fuel (text ++ rest) = some (v, behind) ∧ skipSpace behind = rest := by
  obtain @⟨_, lead, value, trail, hlead, h, htrail⟩ := h
  refine ⟨trail ++ rest, ?_, ?_⟩
  · rw [← readValue_skipSpace, List.append_assoc, skipSpace_append hlead, readValue_skipSpace,
      List.append_assoc]
    have shorter : value.length ≤ (lead ++ (value ++ trail)).length := by
      simp only [List.length_append]
      omega
    exact read h shorter (stops_append htrail delimits)
  · rw [skipSpace_append htrail, skipSpace_delimits delimits]

-- Reading goes by the fuel, as the derivations of a text's parts are not parts of one derivation of
-- a single relation. An item takes a step for the list and one for its value, and has at least one
-- character and the token behind it, so twice the length of a text is enough.
mutual

theorem readValue_value : ∀ (fuel : Nat) {v : Json} {text rest : List Char}, Value v text →
    2 * text.length < fuel → Stops rest → readValue fuel (text ++ rest) = some (v, rest)
  | 0, _, _, _, _, enough, _ => absurd enough (Nat.not_lt_zero _)
  | fuel + 1, _, _, rest, h, enough, stops => by
    cases h with
    | null => rfl
    | true => rfl
    | false => rfl
    | number h => exact readValue_number h stops fuel
    | string h =>
      obtain ⟨quoted, shape, read⟩ := unquote_quoted h rest
      rw [shape, readValue, skipSpace_cons rfl]
      simp [read]
    | emptyArray h => exact readValue_emptyArray (by simpa using skipSpace_gap h rfl)
    | @array items text h =>
      simp only [List.length_cons, List.length_append, List.length_nil] at enough
      rw [List.cons_append, List.append_assoc]
      exact readValue_array (elements_apart h _) (readItems_elements fuel h (by omega))
    | emptyObject h => exact readValue_emptyObject (by simpa using skipSpace_gap h rfl)
    | @object members text h =>
      simp only [List.length_cons, List.length_append, List.length_nil] at enough
      rw [List.cons_append, List.append_assoc]
      exact readValue_object (members_apart h _) (readMembers_members fuel h (by omega))

theorem readItems_elements : ∀ (fuel : Nat) {items : List Json} {text rest : List Char},
    Elements items text → 2 * text.length + 2 ≤ fuel →
      readItems fuel (text ++ ']' :: rest) = some (items, rest)
  | 0, _, _, _, _, enough => absurd enough (by omega)
  | fuel + 1, _, _, rest, h, enough => by
    cases h with
    | single h =>
      have bracket : Delimits (']' :: rest) := delimits_cons (by decide)
      obtain ⟨behind, value, close⟩ := readValue_element h bracket
        fun h shorter => readValue_value fuel h (by omega)
      exact readItems_single value close
    | @cons v items text later h following =>
      rw [List.length_append, List.length_cons] at enough
      have comma : Delimits (',' :: (later ++ ']' :: rest)) := delimits_cons (by decide)
      obtain ⟨behind, value, close⟩ := readValue_element h comma
        fun h shorter => readValue_value fuel h (by omega)
      rw [List.append_assoc, List.cons_append]
      exact readItems_cons value close (readItems_elements fuel following (by omega))

theorem readMembers_members : ∀ (fuel : Nat) {members : List (String × Json)}
    {text rest : List Char}, Members members text → 2 * text.length + 2 ≤ fuel →
      readMembers fuel (text ++ '\x7d' :: rest) = some (members, rest)
  | 0, _, _, _, _, enough => absurd enough (by omega)
  | fuel + 1, _, _, rest, h, enough => by
    cases h with
    | single h =>
      have brace : Delimits ('\x7d' :: rest) := delimits_cons (by decide)
      obtain ⟨element, h, inside, keyed⟩ := keyed_of_member h _
      obtain ⟨behind, value, close⟩ := readValue_element h brace
        fun h shorter => readValue_value fuel h (by omega)
      exact readMembers_single keyed value close
    | @cons key v members text later h following =>
      rw [List.length_append, List.length_cons] at enough
      have comma : Delimits (',' :: (later ++ '\x7d' :: rest)) := delimits_cons (by decide)
      obtain ⟨element, h, inside, keyed⟩ := keyed_of_member h _
      obtain ⟨behind, value, close⟩ := readValue_element h comma
        fun h shorter => readValue_value fuel h (by omega)
      rw [List.append_assoc, List.cons_append]
      exact readMembers_cons keyed value close (readMembers_members fuel following (by omega))

end

/-- Every JSON text is read, and as what it stands for. -/
theorem parseRaw?_of_element {s : String} (h : Element v s.toList) : parseRaw? s = some v := by
  have nothing : Delimits [] := nofun
  obtain ⟨behind, value, ends⟩ := readValue_element h nothing
    fun h shorter => readValue_value (2 * s.toList.length + 2) h (by omega)
  rw [List.append_nil] at value
  simp [parseRaw?, value, ends]

/-- No text stands for two values. -/
theorem Grammar.Element.unique {other : Json} (h : Element v text) (h' : Element other text) :
    v = other := by
  have read {v : Json} (h : Element v text) : parseRaw? (.ofList text) = some v :=
    parseRaw?_of_element (by rwa [String.toList_ofList])
  exact Option.some.inj ((read h).symm.trans (read h'))

end Values

end PodNetwork.Json
