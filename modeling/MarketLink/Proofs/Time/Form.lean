import MarketLink.Time.Stamp
import Mathlib.Data.List.TakeDrop
import Mathlib.Data.List.TakeWhile

set_option autoImplicit false

namespace MarketLink.Time

open Number Text

def IsNumeral (cs : List Char) : Prop := ∀ c ∈ cs, c.isDigit = true

instance (cs : List Char) : Decidable (IsNumeral cs) := List.decidableBAll _ cs

/-- Eight bytes in front of the first minus sign, and no space behind it. -/
def IsDashed (cs : List Char) : Prop :=
  ∃ date time, cs = date ++ '-' :: time ∧ '-' ∉ date ∧ (String.ofList date).utf8ByteSize = 8 ∧
  ' ' ∉ time

def HasUniversalZone (cs : List Char) : Prop :=
  (words cs)[2]? = some "UTC".toList ∨ (words cs)[2]? = some "GMT".toList

instance (cs : List Char) : Decidable (HasUniversalZone cs) := inferInstanceAs (Decidable (_ ∨ _))

theorem span_minus_cases (cs : List Char) :
    ('-' ∉ cs ∧ cs.span (· ≠ '-') = (cs, [])) ∨
      ∃ date time, cs = date ++ '-' :: time ∧ '-' ∉ date ∧
      cs.span (· ≠ '-') = (date, '-' :: time) := by
  rw [List.span_eq_takeWhile_dropWhile]
  have apart : '-' ∉ cs.takeWhile (· ≠ '-') := fun member => by
    simpa using List.mem_takeWhile_imp member
  have whole := List.takeWhile_append_dropWhile (p := (· ≠ '-')) (l := cs)
  cases behind : cs.dropWhile (· ≠ '-') with
  | nil =>
    rw [behind, List.append_nil] at whole
    rw [whole] at apart ⊢
    exact Or.inl ⟨apart, rfl⟩
  | cons c time =>
    have sign : c = '-' := by
      have stopped := List.head?_dropWhile_not (p := (· ≠ '-')) (l := cs)
      rw [behind] at stopped
      simpa using stopped
    subst sign
    rw [behind] at whole
    exact Or.inr ⟨_, time, whole.symm, apart, rfl⟩

theorem span_minus_of_append {date time : List Char} (first : '-' ∉ date) :
    (date ++ '-' :: time).span (· ≠ '-') = (date, '-' :: time) := by
  have apart : ∀ c ∈ date, decide (c ≠ '-') = true := by
    intro c member
    refine decide_eq_true ?_
    rintro rfl
    exact first member
  rw [List.span_eq_takeWhile_dropWhile, List.takeWhile_append_of_pos apart,
    List.dropWhile_append_of_pos apart]
  simp

theorem isDashed_iff {cs : List Char} :
    IsDashed cs ↔ '-' ∈ cs ∧ (String.ofList (cs.span (· ≠ '-')).1).utf8ByteSize = 8 ∧
      ' ' ∉ (cs.span (· ≠ '-')).2 := by
  constructor
  · rintro ⟨date, time, rfl, first, eight, closed⟩
    rw [span_minus_of_append first, List.mem_cons, not_or]
    exact ⟨List.mem_append_right _ List.mem_cons_self, eight, by decide, closed⟩
  · rintro ⟨minus, eight, closed⟩
    rcases span_minus_cases cs with ⟨none, _⟩ | ⟨date, time, whole, first, cut⟩
    · exact absurd minus none
    · rw [cut, List.mem_cons, not_or] at closed
      rw [cut] at eight
      exact ⟨date, time, whole, first, eight, closed.2⟩

instance (cs : List Char) : Decidable (IsDashed cs) := decidable_of_iff' _ isDashed_iff

section Forms

variable {token : String} {cs : List Char}

theorem readStamp_of_numeral (trimmed : trimBlanks token.toList = cs) (numeral : IsNumeral cs)
    (offset : Int) : readStamp offset token = readDigitStamp offset cs := by
  unfold readStamp
  rw [trimmed]
  dsimp only
  by_cases empty : cs = []
  · subst empty
    rfl
  · rw [if_neg (mt List.isEmpty_iff.mp empty), if_pos (List.all_eq_true.mpr numeral)]

theorem ne_nil_of_not_numeral (mixed : ¬IsNumeral cs) : cs ≠ [] := by
  rintro rfl
  exact mixed nofun

theorem readStamp_of_dashed {date time : List Char}
    (trimmed : trimBlanks token.toList = date ++ '-' :: time)
    (mixed : ¬IsNumeral (date ++ '-' :: time)) (first : '-' ∉ date)
    (eight : (String.ofList date).utf8ByteSize = 8) (closed : ' ' ∉ time)
    (offset : Int) :
    readStamp offset token =
      (readClock (date ++ ' ' :: time)).bind fun clock => clock.instant? 0 := by
  have filled : ¬(date ++ '-' :: time).isEmpty = true :=
    mt List.isEmpty_iff.mp (ne_nil_of_not_numeral mixed)
  have said : (String.ofList date).utf8ByteSize = 8 ∧ (!time.contains ' ') = true := by
    refine ⟨eight, ?_⟩
    rw [Bool.not_eq_true', ← Bool.not_eq_true, List.contains_iff_mem]
    exact closed
  unfold readStamp
  rw [trimmed]
  dsimp only
  rw [if_neg filled, if_neg (mt List.all_eq_true.mp mixed), span_minus_of_append first]
  exact if_pos said

theorem readStamp_of_words (trimmed : trimBlanks token.toList = cs) (mixed : ¬IsNumeral cs)
    (open' : ¬IsDashed cs) (offset : Int) : readStamp offset token = readWordStamp offset cs := by
  have filled : ¬cs.isEmpty = true := mt List.isEmpty_iff.mp (ne_nil_of_not_numeral mixed)
  unfold readStamp
  rw [trimmed]
  dsimp only
  rw [if_neg filled, if_neg (mt List.all_eq_true.mp mixed)]
  rcases span_minus_cases cs with ⟨_, cut⟩ | ⟨date, time, whole, first, cut⟩
  · rw [cut]
  · rw [cut]
    refine if_neg ?_
    rintro ⟨eight, closed⟩
    rw [Bool.not_eq_true', ← Bool.not_eq_true, List.contains_iff_mem] at closed
    exact open' ⟨date, time, whole, first, eight, closed⟩

def wordClock? (cs : List Char) : Option Clock :=
  match words cs with
  | date :: time :: _ => readClock (date ++ ' ' :: time)
  | _ => none

/-- Words are a clock at the offset, or in universal time if the third of them says so. -/
theorem readWordStamp_eq (offset : Int) (cs : List Char) :
    readWordStamp offset cs = (wordClock? cs).bind fun clock =>
      clock.instant? (if HasUniversalZone cs then 0 else offset) := by
  unfold readWordStamp wordClock?
  rcases same : words cs with _ | ⟨date, _ | ⟨time, zone⟩⟩
  · rfl
  · rfl
  · have zoned : (zone.head?.map isUniversalZone).getD false = true ↔ HasUniversalZone cs := by
      unfold HasUniversalZone isUniversalZone
      rw [same]
      cases zone with
      | nil => simp
      | cons name more => simp
    simp only [zoned]

end Forms

end MarketLink.Time
