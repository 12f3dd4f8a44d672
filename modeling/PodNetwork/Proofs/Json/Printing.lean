import Mathlib.Data.String.Basic
import PodNetwork.Json.Printer
import PodNetwork.Proofs.Json.Reading

/-! Printing writes JSON text, from which reading finds the value again.

The printer knows no gaps and escapes only what has to be escaped, so its texts are a small part of
the grammar. What reading makes of them is what it makes of every text. -/
namespace PodNetwork.Json

open Grammar

/-- The digits of a sixteen-bit number, from the highest. -/
theorem codeUnit_hex4 {n : Nat} (h : n < 0x10000) : CodeUnit n (hex4 n) := by
  have digit : ∀ i < 16, (Nat.digitChar i, i) ∈ hexDigits := by decide
  have place (i : Nat) : (Nat.digitChar (i % 16), i % 16) ∈ hexDigits :=
    digit _ (Nat.mod_lt i (by decide))
  have whole := CodeUnit.mk (place (n / 4096)) (place (n / 256)) (place (n / 16)) (place (n / 1))
  have value : ((n / 4096 % 16 * 16 + n / 256 % 16) * 16 + n / 16 % 16) * 16 + n / 1 % 16 = n := by
    omega
  rwa [value] at whole

/-- Every character is escaped as far as it has to be. -/
theorem letter_escape (c : Char) : Letter c (escape c) := by
  unfold escape
  split
  case h_8 quote backslash _ _ _ _ _ =>
    split
    · next control => exact .number (codeUnit_hex4 (by omega))
    · next printable => exact .bare (Nat.not_lt.mp printable) quote backslash
  all_goals exact .short (by decide)

theorem letters_escape (cs : List Char) : Letters cs (cs.flatMap escape) := by
  induction cs with
  | nil => exact .nil
  | cons c cs ih => exact .cons (letter_escape c) ih

theorem quoted_quote (s : String) : Quoted s (quote s) := ⟨letters_escape s.toList⟩

theorem count_toDigits (n : Nat) : count (Nat.toDigits 10 n) = n := Nat.ofDigitChars_ten_toDigits

/-- The digits of a number begin with a zero only for zero itself. -/
theorem isWhole_toDigits (n : Nat) : IsWhole (Nat.toDigits 10 n) := by
  refine ⟨⟨Nat.toDigits_ne_nil, fun d hd => ?_⟩, ?_⟩
  · exact Nat.isDigit_of_mem_toDigits (by decide) (by decide) hd
  · induction n using Nat.strongRecOn with
    | ind n ih =>
      rw [Nat.toDigits_eq_if (by decide)]
      split
      · simp
      · next large =>
        intro lead
        rw [List.head?_append_of_ne_nil _ Nat.toDigits_ne_nil] at lead
        have zero := congrArg count (ih (n / 10) (by omega) lead)
        rw [count_toDigits] at zero
        have : n / 10 = 0 := zero
        omega

theorem numeral_toDigits {negative : Bool} {n : Nat} (fit : fits negative n = true) :
    Numeral (.whole (if negative then -n else n)) (sign negative ++ Nat.toDigits 10 n) := by
  have numeral := @Numeral.whole negative _ (isWhole_toDigits n)
  rw [count_toDigits] at numeral
  exact numeral fit

/-- The text of a number that fits is its sign and its digits. -/
theorem numeral_numberText {n : Int} (fit : fits (n < 0) n.natAbs = true) :
    Numeral (.whole n) (numberText (.whole n)) := by
  cases n with
  | ofNat m =>
    have text : numberText (.whole (.ofNat m)) = Nat.toDigits 10 m := Nat.toList_repr
    have nonnegative : ¬Int.ofNat m < 0 := Int.not_lt.mpr (Int.natCast_nonneg m)
    rw [decide_eq_false nonnegative] at fit
    rw [text]
    exact numeral_toDigits fit
  | negSucc m =>
    have text : numberText (.whole (.negSucc m)) = '-' :: Nat.toDigits 10 (m + 1) := by
      have text : numberText (.whole (.negSucc m)) = ("-" ++ (m + 1).repr).toList := rfl
      rw [text, String.toList_append, Nat.toList_repr]
      rfl
    rw [decide_eq_true (Int.negSucc_lt_zero m)] at fit
    rw [text]
    exact numeral_toDigits fit

/-- Whether the text of a value gives it back: there are no floating-point numbers, whole numbers
fit 64 bits, and the keys of objects are sorted. -/
inductive IsCanonical : Json → Prop
  | null : IsCanonical .null
  | bool (b : Bool) : IsCanonical (.bool b)
  | number {n : Int} (fit : fits (n < 0) n.natAbs = true) : IsCanonical (.number (.whole n))
  | string (s : String) : IsCanonical (.string s)
  | array {items : List Json} (h : ∀ v ∈ items, IsCanonical v) : IsCanonical (.array items)
  | object {members : List (String × Json)} (order : keysSorted members)
      (h : ∀ member ∈ members, IsCanonical member.2) : IsCanonical (.object members)

theorem elements_renderItems {items : List Json} (ne : items ≠ [])
    (h : ∀ v ∈ items, Value v (render v)) : Elements items (renderItems items) := by
  induction items with
  | nil => exact absurd rfl ne
  | cons v items ih =>
    obtain ⟨first, others⟩ := List.forall_mem_cons.mp h
    cases items with
    | nil => exact .single first.element
    | cons next items => exact .cons first.element (ih nofun others)

theorem member_render (key : String) {v : Json} (h : Value v (render v)) :
    Member key v (quote key ++ ':' :: render v) :=
  .mk isGap_nil (quoted_quote key) isGap_nil h.element

theorem members_renderMembers {members : List (String × Json)} (ne : members ≠ [])
    (h : ∀ member ∈ members, Value member.2 (render member.2)) :
    Members members (renderMembers members) := by
  induction members with
  | nil => exact absurd rfl ne
  | cons member members ih =>
    obtain ⟨key, v⟩ := member
    obtain ⟨first, others⟩ := List.forall_mem_cons.mp h
    cases members with
    | nil => exact .single (member_render key first)
    | cons next members => exact .cons (member_render key first) (ih nofun others)

/-- Printing follows the grammar. -/
theorem value_render {v : Json} (h : IsCanonical v) : Value v (render v) := by
  induction h with
  | null => exact .null
  | bool b => cases b with
    | false => exact .false
    | true => exact .true
  | number fit => exact .number (numeral_numberText fit)
  | string s => exact .string (quoted_quote s)
  | @array items _ ih =>
    by_cases ne : items = []
    · subst ne
      exact .emptyArray isGap_nil
    · exact .array (elements_renderItems ne ih)
  | @object members _ _ ih =>
    by_cases ne : members = []
    · subst ne
      exact .emptyObject isGap_nil
    · exact .object (members_renderMembers ne ih)

theorem element_text {v : Json} (h : IsCanonical v) : Element v v.text.toList := by
  rw [text, String.toList_ofList]
  exact (value_render h).element

theorem sortedItems_eq (items : List Json) : sortedItems items = items.map sorted := by
  induction items with
  | nil => rfl
  | cons v items ih => rw [sortedItems, ih, List.map_cons]

theorem sortedMembers_eq (members : List (String × Json)) :
    sortedMembers members = members.map fun member => (member.1, sorted member.2) := by
  induction members with
  | nil => rfl
  | cons member members ih => rw [sortedMembers, ih, List.map_cons]

/-- A key behind all others is put at the end. -/
theorem put_eq_append {members : List (String × Json)} {key : String} (value : Json)
    (h : ∀ member ∈ members, member.1 < key) :
    put key value members = members ++ [(key, value)] := by
  induction members with
  | nil => rfl
  | cons member members ih =>
    obtain ⟨first, others⟩ := List.forall_mem_cons.mp h
    have apart : ¬key = member.1 := fun same => lt_irrefl _ (same ▸ first)
    rw [put, if_neg apart, if_neg (not_lt_of_gt first), ih others, List.cons_append]

theorem foldl_put_eq_append {front behind : List (String × Json)}
    (h : keysSorted (front ++ behind)) :
    behind.foldl (fun members member => put member.1 member.2 members) front = front ++ behind := by
  induction behind generalizing front with
  | nil => rw [List.foldl_nil, List.append_nil]
  | cons member behind ih =>
    have last : ∀ earlier ∈ front, earlier.1 < member.1 := by
      intro earlier hearlier
      rw [keysSorted, List.map_append, List.pairwise_append] at h
      exact h.2.2 _ (List.mem_map_of_mem hearlier) _ List.mem_cons_self
    rw [List.append_cons] at h ⊢
    rw [List.foldl_cons, put_eq_append member.2 last, ih h]

theorem ofMembers_eq {members : List (String × Json)} (h : keysSorted members) :
    ofMembers members = .object members :=
  congrArg Json.object (@foldl_put_eq_append [] members h)

theorem sorted_eq {v : Json} (h : IsCanonical v) : sorted v = v := by
  induction h with
  | @array items _ ih =>
    rw [sorted, sortedItems_eq, List.map_congr_left ih, List.map_id']
  | @object members order _ ih =>
    have same : members.map (fun member => (member.1, sorted member.2)) = members := by
      refine (List.map_congr_left fun member hmember => ?_).trans (List.map_id members)
      exact Prod.ext rfl (ih member hmember)
    rw [sorted, sortedMembers_eq, same, ofMembers_eq order]
  | _ => rfl

/-- Reading undoes printing. -/
theorem parse?_text {v : Json} (h : IsCanonical v) : parse? v.text = some v := by
  rw [parse?, parseRaw?_of_element (element_text h), Option.map_some, sorted_eq h]

end PodNetwork.Json
