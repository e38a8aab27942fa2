import MarketLink.Proofs.Time.Stamp

set_option autoImplicit false

namespace MarketLink.Time

open Number Text

/-- A time field that says itself which instant it means: digits that are no day, a minus sign
behind a day, or a third word that names universal time. -/
def IsAbsolute (token : String) : Prop :=
  let cs := trimBlanks token.toList
  (IsNumeral cs ∧ cs.length ≠ 8) ∨ (¬IsNumeral cs ∧ (IsDashed cs ∨ HasUniversalZone cs))

instance (token : String) : Decidable (IsAbsolute token) := inferInstanceAs (Decidable (_ ∨ _))

def Instant.moved? (t : Instant) (seconds : Int) : Option Instant :=
  if isInRange (t.secs + seconds) then some ⟨t.secs + seconds, t.nanos⟩ else none

def Clock.shown (c : Clock) : Instant where
  secs := c.date.dayNumber * 86400 + c.hour * 3600 + c.minute * 60 + min c.second 59
  nanos := if c.second = 60 then 1000000000 else 0

theorem Clock.instant?_eq (c : Clock) (offset : Int) :
    c.instant? offset = c.shown.moved? (-offset) := rfl

theorem Instant.moved?_eq_some {t u : Instant} {seconds : Int} (moved : t.moved? seconds = some u) :
    u.secs = t.secs + seconds ∧ u.nanos = t.nanos := by
  unfold Instant.moved? at moved
  split at moved
  · cases moved
    exact ⟨rfl, rfl⟩
  · cases moved

section Offsets

variable {token : String}

theorem readStamp_of_absolute (absolute : IsAbsolute token) (a b : Int) :
    readStamp a token = readStamp b token := by
  rcases absolute with ⟨numeral, count⟩ | ⟨mixed, said⟩
  · have seconds :
      ∀ offset, readStamp offset token = readDigitStamp offset (trimBlanks token.toList) :=
      readStamp_of_numeral rfl numeral
    rw [seconds a, seconds b, readDigitStamp, readDigitStamp, if_neg count, if_neg count]
  · by_cases dashed : IsDashed (trimBlanks token.toList)
    · obtain ⟨date, time, trimmed, first, eight, closed⟩ := dashed
      rw [trimmed] at mixed
      rw [readStamp_of_dashed trimmed mixed first eight closed,
        readStamp_of_dashed trimmed mixed first eight closed]
    · have zoned := said.resolve_left dashed
      rw [readStamp_of_words rfl mixed dashed, readStamp_of_words rfl mixed dashed,
        readWordStamp_eq, readWordStamp_eq, if_pos zoned, if_pos zoned]

theorem readStamp_of_not_absolute (bare : ¬IsAbsolute token) :
    ∃ clock? : Option Clock, ∀ offset, readStamp offset token =
      clock?.bind fun clock => clock.instant? offset := by
  unfold IsAbsolute at bare
  rw [not_or, not_and_not_right, not_and_or, not_not, not_or] at bare
  obtain ⟨day, words⟩ := bare
  by_cases numeral : IsNumeral (trimBlanks token.toList)
  · refine ⟨readMidnight (trimBlanks token.toList), fun offset => ?_⟩
    rw [readStamp_of_numeral rfl numeral, readDigitStamp, if_pos (day numeral)]
  · obtain ⟨open', unzoned⟩ := words.resolve_left numeral
    refine ⟨wordClock? (trimBlanks token.toList), fun offset => ?_⟩
    rw [readStamp_of_words rfl numeral open', readWordStamp_eq, if_neg unzoned]

end Offsets

theorem readStamp_wholeText {n : Int} (some_second : 0 ≤ n) (inRange : isInRange n = true)
    (count : (wholeText n).length ≠ 8) (offset : Int) :
    readStamp offset (wholeText n) = some ⟨n, 0⟩ := by
  have digits : IsNumeral (wholeText n).toList := by
    intro c member
    rw [toList_wholeText, if_neg (Int.not_lt.mpr some_second)] at member
    exact isDigit_toDigits member
  have trimmed : trimBlanks (wholeText n).toList = (wholeText n).toList :=
    trimBlanks_eq fun c member => isBlank_of_isDigit (digits c member)
  have holds : int64.Holds n := by
    unfold isInRange at inRange
    simp only [Bool.and_eq_true, decide_eq_true_eq] at inRange
    exact ⟨Int.le_trans (by decide) inRange.1, Int.le_trans inRange.2 (by decide)⟩
  have count : (wholeText n).toList.length ≠ 8 := String.length_toList ▸ count
  rw [readStamp_of_numeral trimmed digits, readDigitStamp, if_neg count, String.ofList_toList,
    readWhole_wholeText holds]
  exact if_pos inRange

def Date.midnight (date : Date) : Clock := ⟨date, 0, 0, 0⟩

theorem digits_midnight (date : Date) : date.midnight.digits = "00:00:00".toList := by
  have zero : (padded 2 0).toList = ['0', '0'] := by decide
  unfold Clock.digits Date.midnight
  rw [zero]
  rfl

theorem shown_midnight (date : Date) : date.midnight.shown = ⟨date.dayNumber * 86400, 0⟩ := by
  unfold Clock.shown Date.midnight
  simp

section Days

variable {date : Date}

theorem exists_of_isValid (valid : date.isValid = true) : date.Exists := by
  unfold Date.isValid at valid
  simp only [Bool.and_eq_true, decide_eq_true_eq] at valid
  exact ⟨valid.1.2, valid.2⟩

theorem ordinary_midnight (valid : date.isValid = true) : date.midnight.Ordinary := by
  have here := exists_of_isValid valid
  exact ⟨Nat.lt_of_le_of_lt here.month_le (by decide), Nat.lt_of_le_of_lt here.day_le (by decide),
    Nat.zero_lt_succ _, Nat.zero_lt_succ _, Nat.zero_lt_succ _⟩

theorem dayNumber_bounds (here : date.Exists) (low : 0 ≤ date.year) (high : date.year ≤ 9999) :
    -800000 ≤ date.dayNumber ∧ date.dayNumber ≤ 3000000 := by
  have month := here.month_le
  have day := here.day_le
  unfold Date.dayNumber daysBeforeMarch daysBeforeMonth
  dsimp only
  split <;> omega

/-- The start of a day whose year has four digits is in range at every offset. -/
theorem instant?_midnight (valid : date.isValid = true) (low : 0 ≤ date.year)
    (high : date.year ≤ 9999) {offset : Int} (west : -86400 < offset) (east : offset < 86400) :
    date.midnight.instant? offset = some ⟨date.dayNumber * 86400 - offset, 0⟩ := by
  obtain ⟨first, last⟩ := dayNumber_bounds (exists_of_isValid valid) low high
  have inRange : isInRange (date.dayNumber * 86400 - offset) = true := by
    unfold isInRange
    simp only [Bool.and_eq_true, decide_eq_true_eq]
    omega
  rw [Clock.instant?_eq, shown_midnight, Instant.moved?, ← Int.sub_eq_add_neg, if_pos inRange]

theorem readStamp_day (valid : date.isValid = true) (low : 0 ≤ date.year) (high : date.year ≤ 9999)
    (offset : Int) :
    readStamp offset (String.ofList date.digits) = date.midnight.instant? offset := by
  have ordinary := ordinary_midnight valid
  have digits : IsNumeral date.digits := fun _ => mem_date_digits low high
  have count := length_date_digits low high ordinary.month ordinary.day
  have trimmed : trimBlanks (String.ofList date.digits).toList = date.digits := by
    rw [String.toList_ofList]
    exact trimBlanks_eq fun c member => isBlank_of_isDigit (digits c member)
  have read : readMidnight date.digits = some date.midnight := by
    have day := readDate_digits low high ordinary.month ordinary.day []
    rw [List.append_nil] at day
    unfold readMidnight
    rw [day]
    exact if_pos valid
  rw [readStamp_of_numeral trimmed digits, readDigitStamp, if_pos count, read, Option.bind_some]

/-- Digits, a blank and a time of day are two words, and none of the other forms. -/
theorem readStamp_of_two_words {digits time : List Char} (numeral : IsNumeral digits)
    (filled : digits ≠ []) (some_time : time ≠ []) (solid : ∀ c ∈ time, isBlank c = false)
    (apart : '-' ∉ time) (offset : Int) :
    readStamp offset (String.ofList (digits ++ ' ' :: time)) =
      (readClock (digits ++ ' ' :: time)).bind fun clock => clock.instant? offset := by
  have front : ∀ c ∈ digits, isBlank c = false :=
    fun c member => isBlank_of_isDigit (numeral c member)
  have trimmed : trimBlanks (String.ofList (digits ++ ' ' :: time)).toList =
      digits ++ ' ' :: time := by
    rw [String.toList_ofList]
    refine trimBlanks_of_ends ?_ ?_
    · intro c first
      rw [List.head?_append, List.head?_eq_some_head filled, Option.some_or] at first
      exact front c (Option.some.inj first ▸ List.head_mem filled)
    · intro c last
      rw [List.getLast?_append, List.getLast?_cons, List.getLast?_eq_some_getLast some_time] at last
      exact solid c (Option.some.inj last ▸ List.getLast_mem some_time)
  have mixed : ¬IsNumeral (digits ++ ' ' :: time) := fun all =>
    absurd (all ' ' (List.mem_append_right _ List.mem_cons_self)) (by decide)
  have open' : ¬IsDashed (digits ++ ' ' :: time) := by
    rw [isDashed_iff, List.mem_append, List.mem_cons]
    rintro ⟨day | sign | behind, -⟩
    · exact absurd (numeral '-' day) (by decide)
    · exact absurd sign (by decide)
    · exact apart behind
  have words : words (digits ++ ' ' :: time) = [digits, time] := by
    rw [words_append_blank filled front (by decide), words_of_solid some_time solid]
  have unzoned : ¬HasUniversalZone (digits ++ ' ' :: time) := by
    unfold HasUniversalZone
    rw [words]
    simp
  rw [readStamp_of_words trimmed mixed open', readWordStamp_eq, wordClock?, words, if_neg unzoned]

theorem readStamp_day_words (valid : date.isValid = true) (low : 0 ≤ date.year)
    (high : date.year ≤ 9999) (offset : Int) :
    readStamp offset (String.ofList date.digits ++ " 00:00:00") =
      date.midnight.instant? offset := by
  have ordinary := ordinary_midnight valid
  have filled : date.digits ≠ [] := by
    rw [← List.length_pos_iff, length_date_digits low high ordinary.month ordinary.day]
    decide
  have words : " 00:00:00" = String.ofList (' ' :: "00:00:00".toList) := by decide
  have clockValid : date.midnight.isValid = true := by
    unfold Clock.isValid Date.midnight
    rw [valid]
    rfl
  have clock : readClock (date.digits ++ ' ' :: "00:00:00".toList) = some date.midnight := by
    rw [← digits_midnight date]
    exact readClock_digits (c := date.midnight) ordinary low high clockValid
  have solid : ("00:00:00".toList.all fun c => !isBlank c) = true := by decide
  have solid : ∀ c ∈ "00:00:00".toList, isBlank c = false := fun c member =>
    (Bool.not_eq_true' _).mp (List.all_eq_true.mp solid c member)
  rw [words, ← String.ofList_append,
    readStamp_of_two_words (fun _ => mem_date_digits low high) filled
    (by decide) solid (by decide), clock, Option.bind_some]

end Days

/-- An absolute time is read alike at all offsets. Any other time is read at none of them, or shows
a clock whose instant is moved by the offset and given if it is in range, so that at any two offsets
instant and offset have the same sum and the part of a second is the same. Seconds from the epoch
mean themselves, and a day means its start. -/
theorem offsets_move_times_without_a_zone_alone (token : String) :
    (IsAbsolute token → ∀ a b, readStamp a token = readStamp b token) ∧
    (¬IsAbsolute token →
      (∀ offset, readStamp offset token = none) ∨
      ∃ shown : Instant, ∀ offset, readStamp offset token = shown.moved? (-offset)) ∧
    (¬IsAbsolute token → ∀ a b t u, readStamp a token = some t → readStamp b token = some u →
      t.secs + a = u.secs + b ∧ t.nanos = u.nanos) ∧
    (∀ n, 0 ≤ n → isInRange n = true → (wholeText n).length ≠ 8 →
      ∀ offset, readStamp offset (wholeText n) = some ⟨n, 0⟩) ∧
    ∀ date : Date, date.isValid = true → 0 ≤ date.year → date.year ≤ 9999 →
      ∀ offset, -86400 < offset → offset < 86400 →
        readStamp offset (String.ofList date.digits) = some ⟨date.dayNumber * 86400 - offset, 0⟩ ∧
        readStamp offset (String.ofList date.digits ++ " 00:00:00") =
          some ⟨date.dayNumber * 86400 - offset, 0⟩ := by
  have moved : ¬IsAbsolute token → (∀ offset, readStamp offset token = none) ∨
      ∃ shown : Instant, ∀ offset, readStamp offset token = shown.moved? (-offset) := by
    intro bare
    obtain ⟨clock?, read⟩ := readStamp_of_not_absolute bare
    cases clock? with
    | none => exact Or.inl read
    | some clock => exact Or.inr ⟨clock.shown, read⟩
  refine ⟨readStamp_of_absolute, moved, ?_, ?_, ?_⟩
  · intro bare a b t u first second
    rcases moved bare with none | ⟨shown, read⟩
    · rw [none a] at first
      cases first
    · obtain ⟨secs, nanos⟩ := Instant.moved?_eq_some ((read a).symm.trans first)
      obtain ⟨others, parts⟩ := Instant.moved?_eq_some ((read b).symm.trans second)
      exact ⟨by omega, nanos.trans parts.symm⟩
  · intro n some_second inRange count offset
    exact readStamp_wholeText some_second inRange count offset
  · intro date valid low high offset west east
    rw [readStamp_day valid low high, readStamp_day_words valid low high,
      instant?_midnight valid low high west east]
    exact ⟨rfl, rfl⟩

/-- A named zone with spaces around it, a leap second in a zone whose name has a minus sign in it
and says nothing, the last clock in range that is behind universal time, seconds, and a leap day. -/
theorem zone_names_and_signs_are_told_apart :
    (IsAbsolute " 20240102  10:00:00 GMT " ∧
      readStamp 3600 " 20240102  10:00:00 GMT " = readStamp (-3600) " 20240102  10:00:00 GMT ") ∧
    (¬IsAbsolute "20240102 10:00:60 Etc/GMT-5" ∧
      ∃ t u, readStamp 3600 "20240102 10:00:60 Etc/GMT-5" = some t ∧
        readStamp (-3600) "20240102 10:00:60 Etc/GMT-5" = some u ∧
        t.secs + 3600 = u.secs + -3600 ∧ t.nanos = u.nanos ∧ t.nanos = 1000000000) ∧
    (¬IsAbsolute "+262142 123123:30:00" ∧
      (readStamp 0 "+262142 123123:30:00").isSome = true ∧
      readStamp (-3600) "+262142 123123:30:00" = none ∧
      ∃ shown : Instant, ∀ offset, readStamp offset "+262142 123123:30:00" =
        shown.moved? (-offset)) ∧
    readStamp 3600 (wholeText 1704189600) = some ⟨1704189600, 0⟩ ∧
    readStamp (-86399) (String.ofList (Date.digits ⟨2024, 2, 29⟩)) =
      some ⟨Date.dayNumber ⟨2024, 2, 29⟩ * 86400 - -86399, 0⟩ := by
  have named : IsAbsolute " 20240102  10:00:00 GMT " := by decide
  have leap : ¬IsAbsolute "20240102 10:00:60 Etc/GMT-5" := by decide
  have last : ¬IsAbsolute "+262142 123123:30:00" := by decide
  have east : readStamp 3600 "20240102 10:00:60 Etc/GMT-5" = some ⟨1704186059, 1000000000⟩ := by
    decide
  have west : readStamp (-3600) "20240102 10:00:60 Etc/GMT-5" = some ⟨1704193259, 1000000000⟩ := by
    decide
  have there : (readStamp 0 "+262142 123123:30:00").isSome = true := by decide
  obtain ⟨same, -, -, seconds, days⟩ :=
    offsets_move_times_without_a_zone_alone " 20240102  10:00:00 GMT "
  obtain ⟨-, -, sums, -, -⟩ := offsets_move_times_without_a_zone_alone "20240102 10:00:60 Etc/GMT-5"
  obtain ⟨-, clocks, -, -, -⟩ := offsets_move_times_without_a_zone_alone "+262142 123123:30:00"
  obtain ⟨sum, nanos⟩ := sums leap 3600 (-3600) _ _ east west
  refine ⟨⟨named, same named 3600 (-3600)⟩, ⟨leap, _, _, east, west, sum, nanos, rfl⟩,
    ⟨last, there, by decide, ?_⟩, ?_, ?_⟩
  · refine (clocks last).resolve_left fun none => ?_
    rw [none 0] at there
    cases there
  · exact seconds 1704189600 (by decide) (by decide) (by decide) 3600
  · exact (days ⟨2024, 2, 29⟩ (by decide) (by decide) (by decide) (-86399) (by decide)
      (by decide)).1

end MarketLink.Time
