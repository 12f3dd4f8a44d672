import PodNetwork.Text.Timestamp

/-! Times that are printed and read again.

Only a time whose year, in universal time, has four digits is printed so that it can be read, and
then it is read as the same time. -/
namespace PodNetwork.Timestamp

/-! ### Numbers of a width -/

theorem toList_padded (width n : Nat) :
    (padded width n).toList =
      List.replicate (width - (Nat.toDigits 10 n).length) '0' ++ Nat.toDigits 10 n := by
  have digits : (toString n).toList = Nat.toDigits 10 n := Nat.toList_repr
  have length : (toString n).length = (Nat.toDigits 10 n).length := by
    rw [← digits, String.length_toList]
  rw [padded, String.toList_append, String.toList_ofList, digits, length]

/-- A number that fits is read back from its digits. -/
theorem digits?_padded {width n : Nat} (positive : 0 < width) (fits : n < Nat.pow 10 width)
    (rest : List Char) : digits? width ((padded width n).toList ++ rest) = some (n, rest) := by
  have short : (Nat.toDigits 10 n).length ≤ width :=
    (Nat.length_toDigits_le_iff (by decide) positive).mpr fits
  have length : (padded width n).toList.length = width := by
    rw [toList_padded, List.length_append, List.length_replicate]
    omega
  have digits : (padded width n).toList.all Char.isDigit = true := by
    rw [toList_padded, List.all_append, List.all_replicate, Bool.and_eq_true]
    refine ⟨by split <;> rfl, List.all_eq_true.mpr fun c hc => ?_⟩
    exact Nat.isDigit_of_mem_toDigits (by decide) (by decide) hc
  have value : Nat.ofDigitChars 10 (padded width n).toList 0 = n := by
    rw [toList_padded, Nat.ofDigitChars_append, Nat.ofDigitChars_replicate_zero, Nat.mul_zero,
      Nat.ofDigitChars_ten_toDigits]
  unfold digits?
  rw [List.take_left' length, List.drop_left' length]
  simp only [length, digits, decide_true, Bool.and_self, ↓reduceIte]
  exact congrArg (fun n => some (n, rest)) value

/-! ### The calendar -/

/-- The year, within four centuries, of a number of days. -/
def yearOf (d : Nat) : Nat := (d - d / 1460 + d / 36524 - d / 146096) / 365

def daysBefore (year : Nat) : Nat := 365 * year + year / 4 - year / 100

theorem yearOf_mono {a b : Nat} (h : a ≤ b) (within : b < 146097) : yearOf a ≤ yearOf b := by
  refine Nat.div_le_div_right ?_
  omega

theorem yearOf_lt {d : Nat} (h : d < 146097) : yearOf d < 400 := by
  have last := yearOf_mono (Nat.le_of_lt_succ h) (by decide)
  exact Nat.lt_of_le_of_lt last (by decide)

theorem yearOf_daysBefore : ∀ year < 400, yearOf (daysBefore year) = year := by decide +kernel

/-- The day before a year belongs to the year before it. -/
theorem yearOf_daysBefore_pred : ∀ year < 400, yearOf (daysBefore (year + 1) - 1) = year := by
  decide +kernel

theorem daysBefore_le {d : Nat} (h : d < 146097) : daysBefore (yearOf d) ≤ d := by
  have range := yearOf_lt h
  refine Nat.not_lt.mp fun later => ?_
  cases known : yearOf d with
  | zero =>
    rw [known] at later
    exact Nat.not_lt_zero d later
  | succ year =>
    rw [known] at later range
    have before := yearOf_daysBefore_pred year (by omega)
    have first : yearOf d ≤ yearOf (daysBefore (year + 1) - 1) := by
      refine yearOf_mono (by omega) ?_
      unfold daysBefore
      omega
    omega

theorem le_daysBefore {d : Nat} (h : d < 146097) : d ≤ daysBefore (yearOf d + 1) := by
  have range := yearOf_lt h
  by_cases last : yearOf d = 399
  · rw [last]
    exact Nat.le_of_lt_succ h
  · refine Nat.not_lt.mp fun later => ?_
    have next := yearOf_daysBefore (yearOf d + 1) (by omega)
    have first := yearOf_mono (Nat.le_of_lt later) h
    omega

/-- The number of a day whose month is counted from March. -/
theorem dayOf_march (year : Int) {m : Nat} (h : m < 12) (day : Nat) :
    dayOf (if (if m < 10 then m + 3 else m - 9) ≤ 2 then year + 1 else year)
        (if m < 10 then m + 3 else m - 9) (day + 1) =
      365 * year + year / 4 - year / 100 + year / 400 + ((153 * m + 2) / 5 : Nat) + day := by
  unfold dayOf
  by_cases first : m < 10
  · have month : (m + 3 + 9) % 12 = m := by omega
    have after : ¬m + 3 ≤ 2 := by omega
    simp only [first, after, month, ↓reduceIte]
    omega
  · have month : (m - 9 + 9) % 12 = m := by omega
    have before : m - 9 ≤ 2 := by omega
    simp only [first, before, month, ↓reduceIte]
    omega

theorem day_of_year_le {d : Nat} (h : d < 146097) : d - daysBefore (yearOf d) ≤ 366 := by
  have ended := le_daysBefore h
  have year : daysBefore (yearOf d + 1) ≤ daysBefore (yearOf d) + 366 := by
    unfold daysBefore
    omega
  omega

/-- The date of a day is the date of that day. -/
theorem dayOf_dateOf (days : Int) :
    dayOf (dateOf days).1 (dateOf days).2.1 (dateOf days).2.2 = days := by
  have within : (days % 146097).toNat < 146097 := by omega
  have split : days = days / 146097 * 146097 + ((days % 146097).toNat : Int) := by omega
  have range := yearOf_lt within
  have begun := daysBefore_le within
  have short := day_of_year_le within
  generalize hd : (days % 146097).toNat = d at *
  generalize hy : yearOf d = y at *
  generalize hrest : d - daysBefore y = rest at *
  have month : (5 * rest + 2) / 153 < 12 := by omega
  have date := dayOf_march (y + days / 146097 * 400) month
    (rest - (153 * ((5 * rest + 2) / 153) + 2) / 5)
  have fours : ((y : Int) + days / 146097 * 400) / 4 = y / 4 + days / 146097 * 100 := by omega
  have centuries : ((y : Int) + days / 146097 * 400) / 100 = y / 100 + days / 146097 * 4 := by
    omega
  have eras : ((y : Int) + days / 146097 * 400) / 400 = days / 146097 := by omega
  rw [fours, centuries, eras] at date
  have whole : 365 * ((y : Int) + days / 146097 * 400) + (y / 4 + days / 146097 * 100) -
      (y / 100 + days / 146097 * 4) + days / 146097 + ((153 * ((5 * rest + 2) / 153) + 2) / 5 : Nat) +
      (rest - (153 * ((5 * rest + 2) / 153) + 2) / 5 : Nat) = days := by
    unfold daysBefore at *
    omega
  subst hd hy hrest
  exact date.trans whole

/-- Months and days have two digits. -/
theorem dateOf_lt (days : Int) : (dateOf days).2.1 < 100 ∧ (dateOf days).2.2 < 100 := by
  have short := @day_of_year_le (days % 146097).toNat (by omega)
  unfold yearOf daysBefore at short
  unfold dateOf
  dsimp only
  constructor
  · split <;> omega
  · omega

/-! ### Reading what was printed -/

/-- A time within its day, of which a leap second follows the last second of a minute. -/
structure Sound (t : Timestamp) : Prop where
  second_lt : t.second < 86400
  leap : t.leap = true → t.second % 60 = 59

/-- Offsets are of whole minutes. -/
theorem offset?_mod {cs : List Char} {offset : Int} (h : offset? cs = some offset) :
    offset % 60 = 0 := by
  have clock (negative : Bool) {r : List Char}
      (h : ((digits? 2 r).bind fun hours => (char? [':'] hours.2).bind fun r =>
        (digits? 2 r).bind fun minutes =>
          if minutes.2.isEmpty && minutes.1 < 60 && hours.1 < 24 then
            some (if negative then -((3600 * hours.1 + 60 * minutes.1 : Nat) : Int)
              else ((3600 * hours.1 + 60 * minutes.1 : Nat) : Int))
          else none) = some offset) : offset % 60 = 0 := by
    simp only [Option.bind_eq_some_iff] at h
    obtain ⟨⟨hours, _⟩, -, _, -, ⟨minutes, _⟩, -, h⟩ := h
    split at h
    · obtain rfl := Option.some.inj h
      split <;> omega
    · cases h
  unfold offset? at h
  split at h
  · obtain rfl := Option.some.inj h
    rfl
  · obtain rfl := Option.some.inj h
    rfl
  · dsimp only at h
    split at h
    · exact clock false h
    · split at h
      · exact clock true h
      · cases h
  · cases h

/-- Times that are read are sound. -/
theorem sound_of_parse? {s : String} {t : Timestamp} (h : parse? s = some t) : t.Sound := by
  simp only [parse?, ofChars?, bind, Option.bind_eq_some_iff] at h
  obtain ⟨⟨year, _⟩, -, _, -, ⟨month, _⟩, -, _, -, ⟨day, _⟩, -, _, -, ⟨hour, _⟩, -, _, -,
    ⟨minute, _⟩, -, _, -, ⟨second, _⟩, -, _, -, offset, hoffset, h⟩ := h
  have whole := offset?_mod hoffset
  split at h
  · obtain rfl := Option.some.inj h
    constructor
    · dsimp only
      omega
    · intro leap
      have sixty : second = 60 := by simpa using leap
      subst sixty
      dsimp only
      omega
  · cases h

/-- The digits of a date and of a time of day are read as the time that they are. -/
theorem ofChars?_digits {year month day hour minute second : Nat} (hyear : year < 10000)
    (hmonth : month < 100) (hday : day < 100) (hhour : hour < 100) (hminute : minute < 100)
    (hsecond : second < 100) {t : Timestamp}
    (h : ofChars? ((padded 4 year).toList ++ '-' :: ((padded 2 month).toList ++ '-' ::
      ((padded 2 day).toList ++ 'T' :: ((padded 2 hour).toList ++ ':' ::
        ((padded 2 minute).toList ++ ':' :: ((padded 2 second).toList ++ ['Z'])))))) = some t) :
    let seconds := dayOf year month day * 86400 +
      ((3600 * hour + 60 * minute + min second 59 : Nat) : Int)
    t = ⟨seconds / 86400, (seconds % 86400).toNat, second = 60⟩ := by
  have years (r) := @digits?_padded 4 year (by decide) hyear r
  have pair {n : Nat} (hn : n < 100) (r) := @digits?_padded 2 n (by decide) hn r
  have dash (r) : char? ['-'] ('-' :: r) = some r := rfl
  have mark (r) : char? ['T', 't', ' '] ('T' :: r) = some r := rfl
  have colon (r) : char? [':'] (':' :: r) = some r := rfl
  have fraction : skipFraction ['Z'] = some ['Z'] := rfl
  have universal : offset? ['Z'] = some 0 := rfl
  simp only [ofChars?, bind, years, pair hmonth, pair hday, pair hhour, pair hminute, pair hsecond,
    dash, mark, colon, fraction, universal, Option.bind_some] at h
  split at h
  · obtain rfl := Option.some.inj h
    simp only [Int.sub_zero]
  · cases h

/-- The seconds of a time on its clock, where a leap second has the number sixty. -/
def clockSecond (t : Timestamp) : Nat := t.second % 60 + if t.leap then 1 else 0

theorem clockSecond_lt (t : Timestamp) : t.clockSecond < 100 := by
  unfold clockSecond
  split <;> omega

theorem Sound.leap_eq {t : Timestamp} (sound : t.Sound) : t.leap = decide (t.clockSecond = 60) := by
  unfold clockSecond
  cases known : t.leap with
  | false => simp; omega
  | true => simp [sound.leap known]

theorem Sound.min_clockSecond {t : Timestamp} (sound : t.Sound) :
    min t.clockSecond 59 = t.second % 60 := by
  unfold clockSecond
  cases known : t.leap with
  | false => simp only [Bool.false_eq_true, ↓reduceIte]; omega
  | true =>
    have last := sound.leap known
    simp only [↓reduceIte]
    omega

/-- What is printed of a time whose year has four digits. -/
theorem toList_text {t : Timestamp} {year : Nat} (hyear : (dateOf t.day).1 = year)
    (short : year < 10000) : t.text.toList =
      (padded 4 year).toList ++ '-' :: ((padded 2 (dateOf t.day).2.1).toList ++ '-' ::
        ((padded 2 (dateOf t.day).2.2).toList ++ 'T' :: ((padded 2 (t.second / 3600)).toList ++ ':' ::
          ((padded 2 (t.second / 60 % 60)).toList ++ ':' ::
            ((padded 2 t.clockSecond).toList ++ ['Z']))))) := by
  have bounds : 0 ≤ (dateOf t.day).1 ∧ (dateOf t.day).1 ≤ 9999 := by omega
  have same : (dateOf t.day).1.toNat = year := by omega
  have dash : "-".toList = ['-'] := rfl
  have mark : "T".toList = ['T'] := rfl
  have colon : ":".toList = [':'] := rfl
  have universal : "Z".toList = ['Z'] := rfl
  unfold text clockSecond
  simp only [Bool.and_eq_true, decide_eq_true_eq, bounds, and_self, ↓reduceIte, same,
    String.toList_append, dash, mark, colon, universal, List.append_assoc, List.cons_append,
    List.nil_append]

/-- A year that does not have four digits cannot be read. -/
theorem parse?_text_of_long {t : Timestamp}
    (long : (dateOf t.day).1 < 0 ∨ 9999 < (dateOf t.day).1) : parse? t.text = none := by
  have beyond : ¬(0 ≤ (dateOf t.day).1 ∧ (dateOf t.day).1 ≤ 9999) := by omega
  have minus : "-".toList = ['-'] := rfl
  have plus : "+".toList = ['+'] := rfl
  have signed : ∃ sign rest, t.text.toList = sign :: rest ∧ sign.isDigit = false := by
    unfold text
    simp only [Bool.and_eq_true, decide_eq_true_eq, beyond, ↓reduceIte, String.toList_append,
      List.append_assoc]
    split
    · exact ⟨'-', _, by rw [minus, List.singleton_append], rfl⟩
    · exact ⟨'+', _, by rw [plus, List.singleton_append], rfl⟩
  obtain ⟨sign, rest, text_eq, undigit⟩ := signed
  have unread : digits? 4 (sign :: rest) = none := by
    simp [digits?, List.take_succ_cons, undigit]
  rw [parse?, text_eq, ofChars?, unread]
  rfl

/-- A time that is printed can only be read as the same time. -/
theorem eq_of_parse?_text {t t' : Timestamp} (sound : t.Sound) (h : parse? t.text = some t') :
    t' = t := by
  by_cases long : (dateOf t.day).1 < 0 ∨ 9999 < (dateOf t.day).1
  · rw [parse?_text_of_long long] at h
    cases h
  obtain ⟨year, hyear⟩ := Int.eq_ofNat_of_zero_le (show 0 ≤ (dateOf t.day).1 by omega)
  have short : year < 10000 := by omega
  obtain ⟨month, day⟩ := dateOf_lt t.day
  have daily := sound.second_lt
  have date := dayOf_dateOf t.day
  rw [hyear] at date
  rw [parse?, toList_text hyear short] at h
  have read := ofChars?_digits short month day (by omega) (by omega) t.clockSecond_lt h
  rw [date] at read
  have clock : 3600 * (t.second / 3600) + 60 * (t.second / 60 % 60) + min t.clockSecond 59 =
      t.second := by
    rw [sound.min_clockSecond]
    omega
  rw [clock] at read
  rw [read, Timestamp.mk.injEq]
  exact ⟨by omega, by omega, sound.leap_eq.symm⟩

end PodNetwork.Timestamp
