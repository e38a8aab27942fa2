import MarketLink.Number.Whole
import MarketLink.Proofs.Text.Clean

set_option autoImplicit false

namespace MarketLink.Number

open Text

def signed (negative : Bool) (size : Nat) : Int := if negative then -(size : Int) else size

theorem le_ofDigitChars (cs : List Char) (read : Nat) : read ≤ Nat.ofDigitChars 10 cs read := by
  rw [Nat.ofDigitChars_eq_ofDigitChars_zero]
  have factor : 1 ≤ 10 ^ cs.length := Nat.one_le_pow _ _ (by decide)
  exact Nat.le_trans (Nat.le_mul_of_pos_left read factor) (Nat.le_add_right _ _)

theorem appendDigit_signed (negative : Bool) (read : Nat) (c : Char) :
    appendDigit negative (signed negative read) c = signed negative (10 * read + digitValue c) := by
  unfold appendDigit signed
  cases negative
  · simp only [Bool.false_eq_true, ↓reduceIte]
    omega
  · simp only [↓reduceIte]
    omega

theorem WholeRange.Holds.of_le {range : WholeRange} {negative : Bool} {size more : Nat}
    (holds : range.Holds (signed negative more)) (less : size ≤ more) :
    range.Holds (signed negative size) := by
  have least := range.least_le_zero
  have greatest := range.zero_le_greatest
  unfold Holds signed at *
  cases negative
  · simp only [Bool.false_eq_true, ↓reduceIte] at *
    omega
  · simp only [↓reduceIte] at *
    omega

/-- Digits are read onto a number as what they stand for behind it, if the range holds the
result. -/
theorem readDigits_digits {range : WholeRange} {negative : Bool} {cs : List Char}
    (digits : ∀ c ∈ cs, c.isDigit = true) {read : Nat}
    (holds : range.Holds (signed negative (Nat.ofDigitChars 10 cs read))) :
    readDigits range negative (signed negative read) cs =
      .ok (signed negative (Nat.ofDigitChars 10 cs read)) := by
  induction cs generalizing read with
  | nil => rfl
  | cons c rest ih =>
    rw [List.forall_mem_cons] at digits
    have onward : Nat.ofDigitChars 10 (c :: rest) read =
        Nat.ofDigitChars 10 rest (10 * read + digitValue c) := Nat.ofDigitChars_cons
    rw [onward] at holds ⊢
    obtain ⟨least, greatest⟩ := holds.of_le (le_ofDigitChars rest _)
    rw [readDigits, if_pos digits.1, appendDigit_signed, if_neg (Int.not_lt.mpr least),
      if_neg (Int.not_lt.mpr greatest)]
    exact ih digits.2 holds

/-- The signs that may stand in front of digits. A minus sign belongs only to ranges with negative
numbers. -/
def signs (range : WholeRange) : Bool → List (List Char)
  | false => [[], ['+']]
  | true => if range.least = 0 then [] else [['-']]

/-- Characters are the text of a number of a range: digits, with a sign in front of them or
without. -/
def Denotes (range : WholeRange) (cs : List Char) (n : Int) : Prop :=
  ∃ negative, ∃ sign ∈ signs range negative, ∃ digits, cs = sign ++ digits ∧ digits ≠ [] ∧
    (∀ c ∈ digits, c.isDigit = true) ∧ n = signed negative (Nat.ofDigitChars 10 digits 0) ∧
    range.Holds n

/-- What is read onto a number is digits alone, and stands for what they do behind it. -/
theorem digits_of_readDigits {range : WholeRange} {negative : Bool} {cs : List Char} {read : Nat}
    {n : Int} (found : readDigits range negative (signed negative read) cs = .ok n) :
    (∀ c ∈ cs, c.isDigit = true) ∧ n = signed negative (Nat.ofDigitChars 10 cs read) := by
  induction cs generalizing read with
  | nil => exact ⟨nofun, (Except.ok.inj found).symm⟩
  | cons c rest ih =>
    rw [readDigits] at found
    by_cases digit : c.isDigit = true
    · rw [if_pos digit, appendDigit_signed] at found
      split at found
      · cases found
      · split at found
        · cases found
        · obtain ⟨digits, same⟩ := ih found
          exact ⟨List.forall_mem_cons.mpr ⟨digit, digits⟩,
            same.trans (by rw [Nat.ofDigitChars_cons]; rfl)⟩
    · rw [if_neg digit] at found
      cases found

theorem signed_zero (negative : Bool) : signed negative 0 = 0 := by
  cases negative <;> rfl

theorem readDigits_eq_ok_iff {range : WholeRange} {negative : Bool} {cs : List Char} {n : Int} :
    readDigits range negative 0 cs = .ok n ↔
      (∀ c ∈ cs, c.isDigit = true) ∧ n = signed negative (Nat.ofDigitChars 10 cs 0) ∧
      range.Holds n := by
  rw [← signed_zero negative]
  constructor
  · intro found
    obtain ⟨digits, same⟩ := digits_of_readDigits found
    have zero : range.Holds (signed negative 0) := by
      rw [signed_zero]
      exact ⟨range.least_le_zero, range.zero_le_greatest⟩
    exact ⟨digits, same, readDigits_holds _ _ _ _ _ zero found⟩
  · rintro ⟨digits, rfl, holds⟩
    exact readDigits_digits digits holds

/-- A range reads those of its numbers that are written with digits, and nothing else. -/
theorem readWhole_eq_ok_iff {range : WholeRange} {s : String} {n : Int} :
    readWhole range s = .ok n ↔ Denotes range s.toList n := by
  unfold readWhole
  generalize s.toList = cs
  constructor
  · intro found
    split at found
    · cases found
    · rename_i rest
      split at found
      · cases found
      · rename_i some_digit
        exact ⟨false, ['+'], by simp [signs], rest, rfl, by simpa using some_digit,
          readDigits_eq_ok_iff.mp found⟩
    · rename_i rest
      split at found
      · cases found
      · rename_i some_digit
        simp only [Bool.or_eq_true, List.isEmpty_iff, beq_iff_eq, not_or] at some_digit
        exact ⟨true, ['-'], by simp [signs, some_digit.2], rest, rfl, some_digit.1,
          readDigits_eq_ok_iff.mp found⟩
    · rename_i filled _ _
      exact ⟨false, [], by simp [signs], _, rfl, filled, readDigits_eq_ok_iff.mp found⟩
  · rintro ⟨negative, sign, allowed, digits, rfl, some_digit, number⟩
    have found := readDigits_eq_ok_iff.mpr number
    cases negative with
    | true =>
      have least : ¬range.least = 0 := fun zero => by simp [signs, zero] at allowed
      obtain rfl : sign = ['-'] := by simpa [signs, least] using allowed
      simpa [some_digit, least] using found
    | false =>
      have signed : sign = [] ∨ sign = ['+'] := by simpa [signs] using allowed
      rcases signed with rfl | rfl
      · -- the first character is a digit and so no sign
        obtain ⟨c, rest, rfl⟩ := List.exists_cons_of_ne_nil some_digit
        have digit := number.1 c List.mem_cons_self
        rw [List.nil_append]
        split
        · rename_i same
          cases same
        · rename_i same
          cases same
          exact absurd digit (by decide)
        · rename_i same
          cases same
          exact absurd digit (by decide)
        · exact found
      · simpa [some_digit] using found

theorem isDigit_toDigits {n : Nat} {c : Char} (member : c ∈ Nat.toDigits 10 n) : c.isDigit = true :=
  Nat.isDigit_of_mem_toDigits (by decide) (by decide) member

theorem toList_wholeText (n : Int) :
    (wholeText n).toList = (if n < 0 then ['-'] else []) ++ Nat.toDigits 10 n.natAbs := by
  unfold wholeText
  rw [Int.toString_eq_repr, Int.repr_eq_if]
  by_cases negative : n < 0
  · rw [if_neg (by omega), if_pos negative, String.toList_append, Nat.toList_repr]
    congr 2
    omega
  · rw [if_pos (by omega), if_neg negative, Nat.toList_repr, List.nil_append]
    congr 1
    omega

/-- A range reads every number that it holds back from its text. -/
theorem readWhole_wholeText {range : WholeRange} {n : Int} (holds : range.Holds n) :
    readWhole range (wholeText n) = .ok n := by
  rw [readWhole_eq_ok_iff, toList_wholeText]
  refine ⟨decide (n < 0), _, ?_, _, rfl, Nat.toDigits_ne_nil, fun _ => isDigit_toDigits, ?_, holds⟩
  · have least := holds.1
    by_cases negative : n < 0
    · have below : ¬range.least = 0 := by omega
      simp [signs, negative, below]
    · simp [signs, negative]
  · rw [Nat.ofDigitChars_ten_toDigits, signed]
    by_cases negative : n < 0
    · rw [if_pos (decide_eq_true negative)]
      omega
    · rw [if_neg (by simpa using negative)]
      omega

theorem wholeText_injective {m n : Int} (same : wholeText m = wholeText n) : m = n := by
  -- a range that holds both
  let range : WholeRange :=
    { least := -(m.natAbs + n.natAbs : Nat), greatest := (m.natAbs + n.natAbs : Nat),
      least_le_zero := by omega, zero_le_greatest := by omega }
  have first : range.Holds m := ⟨by simp only [range]; omega, by simp only [range]; omega⟩
  have second : range.Holds n := ⟨by simp only [range]; omega, by simp only [range]; omega⟩
  have read := readWhole_wholeText first
  rw [same, readWhole_wholeText second] at read
  exact (Except.ok.inj read).symm

theorem wholeText_ne_empty (n : Int) : wholeText n ≠ "" := by
  intro empty
  have characters := toList_wholeText n
  rw [empty] at characters
  have digits := (List.append_eq_nil_iff.mp characters.symm).2
  exact Nat.toDigits_ne_nil digits

theorem clean_wholeText (n : Int) : Clean (wholeText n) := by
  unfold Clean
  rw [toList_wholeText, List.mem_append, not_or]
  constructor
  · split <;> decide
  · exact fun member => absurd (isDigit_toDigits member) (by decide)

end MarketLink.Number
