import MarketLink.Proofs.Number.Decimal
import MarketLink.Proofs.Time.Calendar
import MarketLink.Proofs.Time.Form
import Mathlib.Data.List.TakeDrop

set_option autoImplicit false

namespace MarketLink.Time

open Number Text

/-- An instant that there is: it is in range, and at most one leap second goes with its second. -/
structure Instant.Exists (t : Instant) : Prop where
  inRange : isInRange t.secs = true
  nanos_lt : t.nanos < 2000000000

instance (t : Instant) : Decidable t.Exists :=
  decidable_of_iff (isInRange t.secs = true ∧ t.nanos < 2000000000)
    ⟨fun ⟨inRange, nanos_lt⟩ => ⟨inRange, nanos_lt⟩, fun here => ⟨here.inRange, here.nanos_lt⟩⟩

/-- The whole second in which an instant lies. A leap second is one of its own behind the last
second of a minute; anywhere else it is on the clock the second that follows. -/
def Instant.second (t : Instant) : Instant :=
  if t.secs % 60 = 59 then ⟨t.secs, t.nanos / 1000000000 * 1000000000⟩
  else ⟨t.secs + (t.nanos / 1000000000 : Nat), 0⟩

theorem instant?_clock {t : Instant} (here : t.Exists) : t.clock.instant? 0 = some t.second := by
  have inRange := here.inRange
  have nanos := here.nanos_lt
  have day := dayNumber_ofDayNumber (t.secs / 86400)
  unfold Instant.clock Clock.instant? Instant.second
  dsimp only
  rw [day]
  have secs : t.secs / 86400 * 86400 + ((t.secs % 86400).toNat / 3600 : Nat) * 3600 +
      ((t.secs % 86400).toNat / 60 % 60 : Nat) * 60 +
      (min ((t.secs % 86400).toNat % 60 + t.nanos / 1000000000) 59 : Nat) - 0 =
      if t.secs % 60 = 59 then t.secs else t.secs + (t.nanos / 1000000000 : Nat) := by
    split <;> omega
  have rest : (if (t.secs % 86400).toNat % 60 + t.nanos / 1000000000 = 60 then 1000000000 else 0) =
      if t.secs % 60 = 59 then t.nanos / 1000000000 * 1000000000 else 0 := by
    split <;> split <;> omega
  -- the last second in range ends a minute, so none follows it
  have still : isInRange (if t.secs % 60 = 59 then t.secs
      else t.secs + (t.nanos / 1000000000 : Nat)) = true := by
    unfold isInRange at inRange ⊢
    simp only [Bool.and_eq_true, decide_eq_true_eq] at inRange ⊢
    split <;> omega
  rw [secs, if_pos still, rest]
  split <;> rfl

theorem isValid_clock {t : Instant} (here : t.Exists) (low : leastYear ≤ t.clock.date.year)
    (high : t.clock.date.year ≤ greatestYear) : t.clock.isValid = true := by
  have nanos := here.nanos_lt
  have date : t.clock.date.isValid = true := (exists_ofDayNumber _).isValid low high
  have hour : t.clock.hour < 24 := by
    unfold Instant.clock
    dsimp only
    omega
  have minute : t.clock.minute < 60 := by
    unfold Instant.clock
    dsimp only
    omega
  have second : t.clock.second ≤ 60 := by
    unfold Instant.clock
    dsimp only
    omega
  simp only [Clock.isValid, date, Bool.true_and, Bool.and_eq_true, decide_eq_true_eq]
  exact ⟨⟨hour, minute⟩, second⟩

theorem isBlank_of_isDigit {c : Char} (digit : c.isDigit = true) : isBlank c = false := by
  rw [Char.isDigit_iff_toNat] at digit
  have bounds : 48 ≤ c.toNat ∧ c.toNat ≤ 57 := digit
  simp [isBlank]
  omega

theorem toList_padded (width n : Nat) :
    (padded width n).toList = leadingZeros (width - (Nat.toDigits 10 n).length) n := by
  unfold padded
  rw [String.toList_ofList]
  rfl

theorem length_padded {width n : Nat} (some_digit : 0 < width) (fits : n < 10 ^ width) :
    (padded width n).toList.length = width := by
  have few := (Nat.length_toDigits_le_iff (by decide) some_digit).mpr fits
  rw [toList_padded, leadingZeros, List.length_append, List.length_replicate]
  omega

theorem padded_injective {width m n : Nat}
    (same : (padded width m).toList = (padded width n).toList) :
    m = n := by
  rw [toList_padded, toList_padded] at same
  rw [← ofDigitChars_leadingZeros (width - (Nat.toDigits 10 m).length) m, same,
    ofDigitChars_leadingZeros]

theorem isDigit_padded {width n : Nat} {c : Char} (member : c ∈ (padded width n).toList) :
    c.isDigit = true := by
  rw [toList_padded] at member
  exact isDigit_leadingZeros member

section Reading

variable {ds cs : List Char}

theorem skipBlanks_digits (digits : ∀ c ∈ ds, c.isDigit = true) (some_digit : ds ≠ []) :
    skipBlanks (ds ++ cs) = ds ++ cs := by
  cases ds with
  | nil => exact absurd rfl some_digit
  | cons c ds =>
    rw [List.forall_mem_cons] at digits
    unfold skipBlanks
    rw [List.cons_append, List.dropWhile_cons_of_neg]
    rw [isBlank_of_isDigit digits.1]
    decide

theorem padded_ne_nil (width n : Nat) : (padded width n).toList ≠ [] := by
  rw [toList_padded, leadingZeros]
  exact List.append_ne_nil_of_right_ne_nil _ Nat.toDigits_ne_nil

theorem readDigitsUpTo_padded {width n : Nat} (some_digit : 0 < width) (fits : n < 10 ^ width)
    (cs : List Char) : readDigitsUpTo width ((padded width n).toList ++ cs) = some (n, cs) := by
  have length := length_padded some_digit fits
  have all : (padded width n).toList.takeWhile Char.isDigit = (padded width n).toList :=
    List.takeWhile_eq_self_iff.mpr fun _ => isDigit_padded
  have value : (padded width n).toList.foldl (fun n c => n * 10 + digitValue c) 0 = n :=
    calc (padded width n).toList.foldl (fun n c => n * 10 + digitValue c) 0
        = Nat.ofDigitChars 10 (padded width n).toList 0 := by
          rw [Nat.ofDigitChars_eq_foldl]
          congr 1
          funext n c
          rw [Nat.mul_comm]
          rfl
      _ = n := by rw [toList_padded, ofDigitChars_leadingZeros]
  unfold readDigitsUpTo
  dsimp only
  rw [List.take_left' length, all, length, List.drop_left' length, value,
    if_neg (by simpa using padded_ne_nil width n)]

theorem readPair_padded {n : Nat} (fits : n < 100) (cs : List Char) :
    readPair ((padded 2 n).toList ++ cs) = some (n, cs) := by
  unfold readPair
  rw [skipBlanks_digits (fun _ => isDigit_padded) (padded_ne_nil 2 n)]
  exact readDigitsUpTo_padded (by decide) fits cs

theorem readYear_padded {n : Nat} (fits : n < 10000) (cs : List Char) :
    readYear ((padded 4 n).toList ++ cs) = some ((n : Int), cs) := by
  have some_digit := padded_ne_nil 4 n
  have read : readDigitsUpTo 4 ((padded 4 n).toList ++ cs) = some (n, cs) :=
    readDigitsUpTo_padded (by decide) fits cs
  have first : ∀ c rest, (padded 4 n).toList ++ cs = c :: rest → c.isDigit = true := by
    intro c rest same
    cases padding : (padded 4 n).toList with
    | nil => exact absurd padding some_digit
    | cons d ds =>
      rw [padding, List.cons_append] at same
      cases same
      exact isDigit_padded (padding ▸ List.mem_cons_self)
  unfold readYear
  rw [skipBlanks_digits (fun _ => isDigit_padded) some_digit]
  split
  · rename_i same
    exact absurd (first _ _ same) (by decide)
  · rename_i same
    exact absurd (first _ _ same) (by decide)
  · rw [read]
    rfl

end Reading

/-- The characters of a day: those of its year, then two digits each for its month and its day. -/
def Date.digits (date : Date) : List Char :=
  (yearText date.year).toList ++ ((padded 2 date.month).toList ++ (padded 2 date.day).toList)

def Clock.digits (c : Clock) : List Char :=
  (padded 2 c.hour).toList ++
    ':' :: ((padded 2 c.minute).toList ++ ':' :: (padded 2 c.second).toList)

theorem toList_stamp (t : Instant) :
    t.stamp.toList = t.clock.date.digits ++ '-' :: t.clock.digits := by
  unfold Instant.stamp Clock.timeText Date.digits Clock.digits
  simp

def yearSign (year : Int) : List Char :=
    if year < 0 then ['-'] else if 9999 < year then ['+'] else []

theorem toList_yearText (year : Int) :
    (yearText year).toList = yearSign year ++ (padded 4 year.natAbs).toList := by
  unfold yearText yearSign
  by_cases negative : year < 0
  · rw [if_pos negative, if_pos negative, String.toList_append]
    rfl
  · rw [if_neg negative, if_neg negative]
    by_cases large : 9999 < year
    · rw [if_pos large, if_pos large, String.toList_append]
      rfl
    · rw [if_neg large, if_neg large, List.nil_append]

theorem minus_mem_yearSign_iff {year : Int} : '-' ∈ yearSign year ↔ year < 0 := by
  unfold yearSign
  split
  · simp [*]
  · split <;> simp [*]

theorem yearText_injective {m n : Int} (same : (yearText m).toList = (yearText n).toList) :
    m = n := by
  rw [toList_yearText, toList_yearText] at same
  have digits : ∀ k, ∀ c ∈ (padded 4 k).toList, c.isDigit = true := fun _ _ => isDigit_padded
  have unsigned : ∀ year, (yearSign year).filter Char.isDigit = [] := by
    intro year
    unfold yearSign
    split
    · rfl
    · split <;> rfl
  -- the digits give the size, and a minus sign can only be that of the year
  have size : m.natAbs = n.natAbs := by
    have kept := congrArg (List.filter Char.isDigit) same
    rw [List.filter_append, List.filter_append, unsigned, unsigned, List.nil_append,
      List.nil_append, List.filter_eq_self.mpr (digits _),
      List.filter_eq_self.mpr (digits _)] at kept
    exact padded_injective kept
  have negative : ∀ year, '-' ∈ yearSign year ++ (padded 4 year.natAbs).toList ↔ year < 0 := by
    intro year
    have none : '-' ∉ (padded 4 year.natAbs).toList :=
      fun member => absurd (digits _ _ member) (by decide)
    rw [List.mem_append, or_iff_left none, minus_mem_yearSign_iff]
  have sign : m < 0 ↔ n < 0 := by rw [← negative m, same, negative n]
  omega

/-- Month, day and time of day take two digits each. -/
structure Clock.Ordinary (c : Clock) : Prop where
  month : c.date.month < 100
  day : c.date.day < 100
  hour : c.hour < 100
  minute : c.minute < 100
  second : c.second < 100

theorem ordinary_clock {t : Instant} (here : t.Exists) : t.clock.Ordinary := by
  have date : t.clock.date.Exists := exists_ofDayNumber _
  have nanos := here.nanos_lt
  refine ⟨Nat.lt_of_le_of_lt date.month_le (by decide), Nat.lt_of_le_of_lt date.day_le (by decide),
    ?_, ?_, ?_⟩
  all_goals
    unfold Instant.clock
    dsimp only
    omega

section Shown

variable {c d : Clock}

theorem length_two {n : Nat} (fits : n < 100) : (padded 2 n).toList.length = 2 :=
  length_padded (by decide) fits

theorem Clock.Ordinary.length_digits (ordinary : c.Ordinary) : c.digits.length = 8 := by
  unfold Clock.digits
  simp only [List.length_append, List.length_cons, length_two ordinary.hour,
    length_two ordinary.minute, length_two ordinary.second]

theorem digits_injective (first : c.Ordinary) (second : d.Ordinary) (same : c.digits = d.digits) :
    c.hour = d.hour ∧ c.minute = d.minute ∧ c.second = d.second := by
  obtain ⟨hour, rest⟩ :=
    List.append_inj same ((length_two first.hour).trans (length_two second.hour).symm)
  obtain ⟨minute, rest⟩ := List.append_inj (List.cons.inj rest).2
    ((length_two first.minute).trans (length_two second.minute).symm)
  exact ⟨padded_injective hour, padded_injective minute, padded_injective (List.cons.inj rest).2⟩

theorem date_digits_injective (first : c.Ordinary) (second : d.Ordinary)
    (same : c.date.digits = d.date.digits) : c.date = d.date := by
  have four : ∀ {c : Clock}, c.Ordinary →
      ((padded 2 c.date.month).toList ++ (padded 2 c.date.day).toList).length = 4 := by
    intro c ordinary
    rw [List.length_append, length_two ordinary.month, length_two ordinary.day]
  obtain ⟨year, rest⟩ := List.append_inj' same ((four first).trans (four second).symm)
  obtain ⟨month, day⟩ :=
    List.append_inj rest ((length_two first.month).trans (length_two second.month).symm)
  calc c.date = ⟨c.date.year, c.date.month, c.date.day⟩ := rfl
    _ = ⟨d.date.year, d.date.month, d.date.day⟩ := by
      rw [yearText_injective year, padded_injective month, padded_injective day]

/-- The text of an instant shows its second and nothing else. -/
theorem stamp_injective {t u : Instant} (first : t.Exists) (second : u.Exists)
    (same : t.stamp = u.stamp) : t.second = u.second := by
  have inOrder := ordinary_clock first
  have alsoInOrder := ordinary_clock second
  have characters := congrArg String.toList same
  rw [toList_stamp, toList_stamp] at characters
  have lengths : ('-' :: t.clock.digits).length = ('-' :: u.clock.digits).length := by
    rw [List.length_cons, List.length_cons, inOrder.length_digits, alsoInOrder.length_digits]
  obtain ⟨date, time⟩ := List.append_inj' characters lengths
  obtain ⟨hour, minute, sec⟩ := digits_injective inOrder alsoInOrder (List.cons.inj time).2
  have clocks : t.clock = u.clock :=
    calc t.clock = ⟨t.clock.date, t.clock.hour, t.clock.minute, t.clock.second⟩ := rfl
      _ = ⟨u.clock.date, u.clock.hour, u.clock.minute, u.clock.second⟩ := by
        rw [date_digits_injective inOrder alsoInOrder date, hour, minute, sec]
  have shown := instant?_clock first
  rw [clocks, instant?_clock second] at shown
  exact (Option.some.inj shown).symm

end Shown

theorem mem_digits {c : Clock} {x : Char} (member : x ∈ c.digits) : x.isDigit = true ∨ x = ':' := by
  unfold Clock.digits at member
  simp only [List.mem_append, List.mem_cons] at member
  rcases member with hour | rfl | minute | rfl | second
  · exact Or.inl (isDigit_padded hour)
  · exact Or.inr rfl
  · exact Or.inl (isDigit_padded minute)
  · exact Or.inr rfl
  · exact Or.inl (isDigit_padded second)

theorem mem_yearSign {year : Int} {x : Char} (member : x ∈ yearSign year) : x = '-' ∨ x = '+' := by
  unfold yearSign at member
  split at member
  · exact Or.inl (List.mem_singleton.mp member)
  · split at member
    · exact Or.inr (List.mem_singleton.mp member)
    · cases member

/-- The text of an instant is made of digits, signs and colons. -/
theorem mem_stamp {t : Instant} {x : Char} (member : x ∈ t.stamp.toList) :
    x.isDigit = true ∨ x = '-' ∨ x = '+' ∨ x = ':' := by
  rw [toList_stamp, List.mem_append, List.mem_cons] at member
  rcases member with date | rfl | time
  · unfold Date.digits at date
    rw [toList_yearText, List.mem_append, List.mem_append, List.mem_append] at date
    rcases date with (sign | year) | month | day
    · exact Or.inr ((mem_yearSign sign).imp_right Or.inl)
    · exact Or.inl (isDigit_padded year)
    · exact Or.inl (isDigit_padded month)
    · exact Or.inl (isDigit_padded day)
  · exact Or.inr (Or.inl rfl)
  · exact (mem_digits time).imp_right fun colon => Or.inr (Or.inr colon)

theorem solid_stamp (t : Instant) : ∀ c ∈ t.stamp.toList, isBlank c = false := by
  intro c member
  rcases mem_stamp member with digit | rfl | rfl | rfl
  · exact isBlank_of_isDigit digit
  · decide
  · decide
  · decide

theorem trimBlanks_of_ends {cs : List Char} (first : ∀ c, cs.head? = some c → isBlank c = false)
    (last : ∀ c, cs.getLast? = some c → isBlank c = false) : trimBlanks cs = cs := by
  have kept : ∀ ds : List Char, (∀ c, ds.head? = some c → isBlank c = false) →
      skipBlanks ds = ds := by
    intro ds front
    cases ds with
    | nil => rfl
    | cons c ds =>
      unfold skipBlanks
      rw [List.dropWhile_cons_of_neg]
      rw [front c rfl]
      decide
  unfold trimBlanks
  rw [kept cs first, kept cs.reverse (List.head?_reverse ▸ last), List.reverse_reverse]

theorem trimBlanks_eq {cs : List Char} (solid : ∀ c ∈ cs, isBlank c = false) : trimBlanks cs = cs :=
  trimBlanks_of_ends (fun _ front => solid _ (List.mem_of_head? front))
    fun _ back => solid _ (List.mem_of_getLast? back)

/-- A text of one word with a minus sign in it is a time when the first such sign has eight bytes in
front of it, and what they say with what follows the sign is then universal time. -/
theorem readStamp_eq {offset : Int} {token : String} {date time : List Char}
    (characters : token.toList = date ++ '-' :: time) (first : '-' ∉ date)
    (solid : ∀ c ∈ token.toList, isBlank c = false) :
    readStamp offset token =
      if (String.ofList date).utf8ByteSize = 8 then
        (readClock (date ++ ' ' :: time)).bind fun clock => clock.instant? 0
      else none := by
  have trimmed : trimBlanks token.toList = date ++ '-' :: time :=
    (trimBlanks_eq solid).trans characters
  rw [characters] at solid
  have minus : '-' ∈ date ++ '-' :: time := List.mem_append_right _ List.mem_cons_self
  have mixed : ¬IsNumeral (date ++ '-' :: time) :=
    fun digits => absurd (digits '-' minus) (by decide)
  have closed : ' ' ∉ time := fun member =>
    absurd (solid ' ' (List.mem_append_right _ (List.mem_cons_of_mem _ member))) (by decide)
  by_cases eight : (String.ofList date).utf8ByteSize = 8
  · rw [if_pos eight, readStamp_of_dashed trimmed mixed first eight closed]
  · have open' : ¬IsDashed (date ++ '-' :: time) := by
      rw [isDashed_iff, span_minus_of_append first]
      exact fun dashed => eight dashed.2.1
    rw [if_neg eight, readStamp_of_words trimmed mixed open', readWordStamp_eq, wordClock?,
      words_of_solid (ne_nil_of_not_numeral mixed) solid]
    rfl

section FourDigits

variable {date : Date} {c : Clock}

theorem date_digits_eq (low : 0 ≤ date.year) (high : date.year ≤ 9999) :
    date.digits = (padded 4 date.year.natAbs).toList ++
      ((padded 2 date.month).toList ++ (padded 2 date.day).toList) := by
  have sign : yearSign date.year = [] := by
    unfold yearSign
    rw [if_neg (by omega), if_neg (by omega)]
  unfold Date.digits
  rw [toList_yearText, sign, List.nil_append]

theorem mem_date_digits (low : 0 ≤ date.year) (high : date.year ≤ 9999) {x : Char}
    (member : x ∈ date.digits) : x.isDigit = true := by
  rw [date_digits_eq low high, List.mem_append, List.mem_append] at member
  rcases member with year | month | day
  · exact isDigit_padded year
  · exact isDigit_padded month
  · exact isDigit_padded day

theorem length_date_digits (low : 0 ≤ date.year) (high : date.year ≤ 9999)
    (month : date.month < 100) (day : date.day < 100) : date.digits.length = 8 := by
  rw [date_digits_eq low high, List.length_append, List.length_append,
    length_padded (by decide) (by omega), length_two month, length_two day]

theorem readDate_digits (low : 0 ≤ date.year) (high : date.year ≤ 9999) (month : date.month < 100)
    (day : date.day < 100) (cs : List Char) : readDate (date.digits ++ cs) = some (date, cs) := by
  have year := readYear_padded (n := date.year.natAbs) (by omega)
  have whole : (date.year.natAbs : Int) = date.year := by omega
  unfold readDate
  rw [date_digits_eq low high, List.append_assoc, List.append_assoc, year]
  simp only [Option.bind_eq_bind, Option.bind_some, readPair_padded month,
    readPair_padded day, whole]

theorem readClock_digits (ordinary : c.Ordinary) (low : 0 ≤ c.date.year) (high : c.date.year ≤ 9999)
    (valid : c.isValid = true) : readClock (c.date.digits ++ ' ' :: c.digits) = some c := by
  have blank : skipBlanks (' ' :: c.digits) = c.digits := by
    have front : skipBlanks (' ' :: c.digits) = skipBlanks c.digits :=
      List.dropWhile_cons_of_pos (by decide)
    rw [front]
    exact skipBlanks_digits (fun _ => isDigit_padded) (padded_ne_nil 2 c.hour)
  have seconds := readPair_padded ordinary.second []
  rw [List.append_nil] at seconds
  unfold readClock
  rw [readDate_digits low high ordinary.month ordinary.day]
  simp only [Option.bind_eq_bind, Option.bind_some, blank]
  unfold Clock.digits
  simp only [readPair_padded ordinary.hour, Option.bind_some, readColon,
    readPair_padded ordinary.minute, seconds, valid, List.isEmpty_nil, Bool.and_self,
    ↓reduceIte]

theorem utf8ByteSize_digits {cs : List Char} (digits : ∀ c ∈ cs, c.isDigit = true) :
    (String.ofList cs).utf8ByteSize = cs.length := by
  induction cs with
  | nil => rfl
  | cons c rest ih =>
    rw [List.forall_mem_cons] at digits
    have bounds := Char.isDigit_iff_toNat.mp digits.1
    have small : c.val ≤ 127 := UInt32.le_iff_toNat_le.mpr (Nat.le_trans bounds.2 (by decide))
    rw [String.ofList_cons, String.utf8ByteSize_append, String.utf8ByteSize_singleton,
      Char.utf8Size_eq_one_iff.mpr small, ih digits.2, List.length_cons, Nat.add_comm]

/-- A time with a year of four digits is read as its second, whatever the offset. -/
theorem readStamp_stamp {t : Instant} (here : t.Exists) (low : 0 ≤ t.clock.date.year)
    (high : t.clock.date.year ≤ 9999) (offset : Int) :
    readStamp offset t.stamp = some t.second := by
  have ordinary := ordinary_clock here
  have valid : t.clock.isValid = true :=
    isValid_clock here (Int.le_trans (by decide) low) (Int.le_trans high (by decide))
  have dates : ∀ x ∈ t.clock.date.digits, x.isDigit = true := fun _ => mem_date_digits low high
  have apart : '-' ∉ t.clock.date.digits := fun member => absurd (dates _ member) (by decide)
  have eight : (String.ofList t.clock.date.digits).utf8ByteSize = 8 :=
    (utf8ByteSize_digits dates).trans (length_date_digits low high ordinary.month ordinary.day)
  rw [readStamp_eq (toList_stamp t) apart (solid_stamp t), if_pos eight,
    readClock_digits ordinary low high valid]
  exact instant?_clock here

end FourDigits

/-- A year with a plus sign has five digits or more. -/
theorem four_lt_length_padded {n : Nat} (large : 9999 < n) : 4 < (padded 4 n).toList.length := by
  have many : 4 < (Nat.toDigits 10 n).length :=
    Nat.lt_of_not_le (mt (Nat.length_toDigits_le_iff (by decide) (by decide)).mp
    (Nat.not_lt.mpr large))
  rw [toList_padded, leadingZeros, List.length_append]
  omega

/-- A time whose year has a sign cannot be read: that sign is the first minus sign, or the one
behind the day has more than eight bytes in front of it. -/
theorem readStamp_of_signed {t : Instant} (here : t.Exists)
    (signed : t.clock.date.year < 0 ∨ 9999 < t.clock.date.year) (offset : Int) :
    readStamp offset t.stamp = none := by
  have ordinary := ordinary_clock here
  have characters := toList_stamp t
  rcases signed with negative | large
  · have sign : yearSign t.clock.date.year = ['-'] := if_pos negative
    have front : t.stamp.toList = [] ++ '-' :: ((padded 4 t.clock.date.year.natAbs).toList ++
        ((padded 2 t.clock.date.month).toList ++ (padded 2 t.clock.date.day).toList ++
          '-' :: t.clock.digits)) := by
      rw [characters]
      unfold Date.digits
      rw [toList_yearText, sign, List.append_assoc, List.append_assoc, List.singleton_append,
        List.nil_append]
    rw [readStamp_eq front List.not_mem_nil (solid_stamp t), if_neg (by decide)]
  · have sign : yearSign t.clock.date.year = ['+'] := by
      unfold yearSign
      rw [if_neg (by omega), if_pos large]
    have shape : t.clock.date.digits = '+' :: ((padded 4 t.clock.date.year.natAbs).toList ++
        ((padded 2 t.clock.date.month).toList ++ (padded 2 t.clock.date.day).toList)) := by
      unfold Date.digits
      rw [toList_yearText, sign, List.append_assoc, List.singleton_append]
    have digits : ∀ c ∈ (padded 4 t.clock.date.year.natAbs).toList ++
        ((padded 2 t.clock.date.month).toList ++ (padded 2 t.clock.date.day).toList),
        c.isDigit = true := by
      simp only [List.forall_mem_append]
      exact ⟨fun _ => isDigit_padded, fun _ => isDigit_padded, fun _ => isDigit_padded⟩
    have apart : '-' ∉ t.clock.date.digits := by
      rw [shape, List.mem_cons]
      rintro (plus | digit)
      · exact absurd plus (by decide)
      · exact absurd (digits _ digit) (by decide)
    have year : 4 < (padded 4 t.clock.date.year.natAbs).toList.length :=
      four_lt_length_padded (by omega)
    have large : (String.ofList t.clock.date.digits).utf8ByteSize ≠ 8 := by
      rw [shape, String.ofList_cons, String.utf8ByteSize_append, String.utf8ByteSize_singleton,
        utf8ByteSize_digits digits, List.length_append, List.length_append,
        length_two ordinary.month, length_two ordinary.day]
      omega
    rw [readStamp_eq characters apart (solid_stamp t), if_neg large]

theorem clean_stamp (t : Instant) : Clean t.stamp := by
  intro member
  rcases mem_stamp member with digit | sign | sign | colon
  · exact absurd digit (by decide)
  · exact absurd sign (by decide)
  · exact absurd sign (by decide)
  · exact absurd colon (by decide)

theorem stamp_ne_empty (t : Instant) : t.stamp ≠ "" := by
  intro empty
  have characters := toList_stamp t
  rw [empty] at characters
  exact absurd characters.symm (List.append_ne_nil_of_right_ne_nil _ (List.cons_ne_nil _ _))

end MarketLink.Time
