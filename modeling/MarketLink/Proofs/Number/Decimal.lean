import MarketLink.Number.Decimal
import MarketLink.Proofs.Number.Whole
import Mathlib.Data.List.TakeWhile

set_option autoImplicit false

namespace MarketLink.Number

open Text

def leadingZeros (count n : Nat) : List Char := List.replicate count '0' ++ Nat.toDigits 10 n

theorem isDigit_leadingZeros {count n : Nat} {c : Char} (member : c ∈ leadingZeros count n) :
    c.isDigit = true := by
  rcases List.mem_append.mp member with zero | digit
  · rw [List.eq_of_mem_replicate zero]
    rfl
  · exact isDigit_toDigits digit

theorem ofDigitChars_leadingZeros (count n : Nat) :
    Nat.ofDigitChars 10 (leadingZeros count n) 0 = n := by
  unfold leadingZeros
  rw [Nat.ofDigitChars_append, Nat.ofDigitChars_replicate_zero, Nat.mul_zero,
    Nat.ofDigitChars_ten_toDigits]

namespace Decimal

variable {negative point digit : Bool} {mantissa scale : Nat} {cs : List Char}

theorem readPlainFrom_whole (digits : ∀ c ∈ cs, c.isDigit = true)
    (room : Nat.ofDigitChars 10 cs mantissa < mantissaLimit) (rest : List Char) :
    readPlainFrom negative mantissa 0 false digit (cs ++ rest) =
      readPlainFrom negative (Nat.ofDigitChars 10 cs mantissa) 0 false
        (digit || !cs.isEmpty) rest := by
  induction cs generalizing mantissa digit with
  | nil => simp
  | cons c cs ih =>
    rw [List.forall_mem_cons] at digits
    have onward : Nat.ofDigitChars 10 (c :: cs) mantissa =
        Nat.ofDigitChars 10 cs (mantissa * 10 + digitValue c) := by
      rw [Nat.ofDigitChars_cons, Nat.mul_comm]
      rfl
    rw [onward] at room ⊢
    have fits : ¬mantissaLimit ≤ mantissa * 10 + digitValue c := by
      have less := le_ofDigitChars cs (mantissa * 10 + digitValue c)
      omega
    rw [List.cons_append, readPlainFrom, if_pos digits.1]
    simp only [Bool.false_and, Bool.false_eq_true, ↓reduceIte, fits]
    rw [ih digits.2 room]
    simp

/-- Digits behind the point are read onto the mantissa, a place for each, while there are places
left. -/
theorem readPlainFrom_places (digits : ∀ c ∈ cs, c.isDigit = true)
    (room : Nat.ofDigitChars 10 cs mantissa < mantissaLimit) (places : scale + cs.length ≤ 28) :
    readPlainFrom negative mantissa scale true true cs =
      make? negative (Nat.ofDigitChars 10 cs mantissa) (scale + cs.length) := by
  induction cs generalizing mantissa scale with
  | nil => simp [readPlainFrom]
  | cons c cs ih =>
    rw [List.forall_mem_cons] at digits
    rw [List.length_cons] at places ⊢
    have onward : Nat.ofDigitChars 10 (c :: cs) mantissa =
        Nat.ofDigitChars 10 cs (mantissa * 10 + digitValue c) := by
      rw [Nat.ofDigitChars_cons, Nat.mul_comm]
      rfl
    rw [onward] at room ⊢
    have fits : ¬mantissaLimit ≤ mantissa * 10 + digitValue c := by
      have less := le_ofDigitChars cs (mantissa * 10 + digitValue c)
      omega
    have left : (scale == 28) = false := beq_false_of_ne (by omega)
    rw [readPlainFrom, if_pos digits.1]
    simp only [left, fits, decide_false, Bool.or_self, Bool.and_false, Bool.false_eq_true,
      ↓reduceIte]
    rw [ih digits.2 room (by omega)]
    congr 1
    omega

def magnitudeText (d : Decimal) : List Char :=
  d.paddedDigits.take (d.paddedDigits.length - d.scale) ++
    (if d.scale = 0 then [] else '.' :: d.paddedDigits.drop (d.paddedDigits.length - d.scale))

theorem toList_text (d : Decimal) :
    d.text.toList = (if d.negative then ['-'] else []) ++ d.magnitudeText := by
  unfold text magnitudeText
  rw [String.toList_ofList, List.append_assoc]

theorem paddedDigits_eq (d : Decimal) :
    d.paddedDigits = leadingZeros (d.scale + 1 - (Nat.toDigits 10 d.mantissa).length) d.mantissa :=
      rfl

theorem scale_lt_length (d : Decimal) : d.scale < d.paddedDigits.length := by
  unfold paddedDigits
  rw [List.length_append, List.length_replicate]
  omega

/-- Only digits and the point stand behind the sign, and first of all a digit. -/
theorem exists_magnitudeText (d : Decimal) :
    ∃ first rest, d.magnitudeText = first :: rest ∧ first.isDigit = true ∧
      ∀ c ∈ rest, c.isDigit = true ∨ c = '.' := by
  have longer := d.scale_lt_length
  have digits : ∀ c ∈ d.paddedDigits, c.isDigit = true := fun c member =>
    isDigit_leadingZeros (d.paddedDigits_eq ▸ member)
  cases padded : d.paddedDigits with
  | nil =>
    rw [padded, List.length_nil] at longer
    omega
  | cons first others =>
    rw [padded] at longer digits
    rw [List.forall_mem_cons] at digits
    obtain ⟨whole, size⟩ : ∃ whole, (first :: others).length - d.scale = whole + 1 :=
      ⟨(first :: others).length - d.scale - 1, by omega⟩
    refine ⟨first, others.take whole ++ (if d.scale = 0 then [] else '.' :: others.drop whole), ?_,
      digits.1, ?_⟩
    · unfold magnitudeText
      rw [padded, size, List.take_succ_cons, List.drop_succ_cons, List.cons_append]
    · intro c member
      rcases List.mem_append.mp member with front | back
      · exact Or.inl (digits.2 c (List.mem_of_mem_take front))
      · split at back
        · cases back
        · rcases List.mem_cons.mp back with rfl | behind
          · exact Or.inr rfl
          · exact Or.inl (digits.2 c (List.mem_of_mem_drop behind))

theorem readPlainFrom_magnitudeText (d : Decimal) :
    readPlainFrom d.negative 0 0 false false d.magnitudeText =
      make? d.negative d.mantissa d.scale := by
  obtain ⟨whole, size⟩ : ∃ whole, whole = d.paddedDigits.length - d.scale := ⟨_, rfl⟩
  have longer := d.scale_lt_length
  have digits : ∀ c ∈ d.paddedDigits, c.isDigit = true := fun c member =>
    isDigit_leadingZeros (d.paddedDigits_eq ▸ member)
  have value : Nat.ofDigitChars 10 d.paddedDigits 0 = d.mantissa := by
    rw [d.paddedDigits_eq, ofDigitChars_leadingZeros]
  have parts : Nat.ofDigitChars 10 (d.paddedDigits.drop whole)
      (Nat.ofDigitChars 10 (d.paddedDigits.take whole) 0) = d.mantissa := by
    rw [← Nat.ofDigitChars_append, List.take_append_drop, value]
  have room : Nat.ofDigitChars 10 (d.paddedDigits.take whole) 0 < mantissaLimit := by
    have less := le_ofDigitChars (d.paddedDigits.drop whole)
      (Nat.ofDigitChars 10 (d.paddedDigits.take whole) 0)
    have bound := d.mantissa_lt
    omega
  have some_digit : (d.paddedDigits.take whole).isEmpty = false := by
    rw [List.isEmpty_eq_false_iff, ← List.length_pos_iff, List.length_take]
    omega
  unfold magnitudeText
  rw [← size, readPlainFrom_whole (fun c member => digits c (List.mem_of_mem_take member)) room,
    some_digit, Bool.not_false, Bool.or_true]
  by_cases plain : d.scale = 0
  · have all : d.paddedDigits.drop whole = [] := List.drop_eq_nil_of_le (by omega)
    rw [all, Nat.ofDigitChars_nil] at parts
    rw [if_pos plain, parts, readPlainFrom, if_pos rfl, ← plain]
  · have length : (d.paddedDigits.drop whole).length = d.scale := by
      rw [List.length_drop]
      omega
    have last : d.mantissa < mantissaLimit := d.mantissa_lt
    rw [if_neg plain, readPlainFrom, if_neg (by decide), if_pos rfl, if_neg (by decide),
      readPlainFrom_places (fun c member => digits c (List.mem_of_mem_drop member)) (parts ▸ last)
        (by rw [length, Nat.zero_add]; exact d.scale_le), parts, length, Nat.zero_add]

theorem mem_text {d : Decimal} {c : Char} (member : c ∈ d.text.toList) :
    c.isDigit = true ∨ c = '-' ∨ c = '.' := by
  obtain ⟨first, rest, same, digit, others⟩ := d.exists_magnitudeText
  rw [d.toList_text, same] at member
  rcases List.mem_append.mp member with sign | size
  · split at sign
    · exact Or.inr (Or.inl (List.mem_singleton.mp sign))
    · cases sign
  · rcases List.mem_cons.mp size with rfl | behind
    · exact Or.inl digit
    · exact (others c behind).imp_right Or.inr

theorem clean_text (d : Decimal) : Clean d.text := by
  intro member
  rcases mem_text member with digit | sign | point
  · exact absurd digit (by decide)
  · exact absurd sign (by decide)
  · exact absurd point (by decide)

theorem text_ne_empty (d : Decimal) : d.text ≠ "" := by
  obtain ⟨first, rest, same, -⟩ := d.exists_magnitudeText
  intro empty
  have characters := d.toList_text
  rw [empty, same] at characters
  exact List.cons_ne_nil _ _ (List.append_eq_nil_iff.mp characters.symm).2

theorem read?_text (d : Decimal) : read? d.text = make? d.negative d.mantissa d.scale := by
  obtain ⟨first, rest, same, digit, -⟩ := d.exists_magnitudeText
  have plain : ∀ c ∈ d.text.toList, (!isPowerLetter c) = true := by
    intro c member
    rw [Bool.not_eq_true']
    cases power : isPowerLetter c with
    | false => rfl
    | true =>
      have letter : c = 'e' ∨ c = 'E' := by simpa [isPowerLetter] using power
      rcases letter with rfl | rfl <;> rcases mem_text member with other | other | other <;>
        exact absurd other (by decide)
  have read := d.readPlainFrom_magnitudeText
  unfold read?
  dsimp only
  rw [List.dropWhile_eq_nil_iff.mpr plain]
  dsimp only
  rw [d.toList_text, same]
  rw [same] at read
  unfold readPlain?
  cases negative : d.negative with
  | true =>
    rw [negative] at read
    exact read
  | false =>
    rw [negative] at read
    simp only [Bool.false_eq_true, ↓reduceIte, List.nil_append]
    -- the first character is a digit and so no sign
    split
    · rename_i sign
      cases sign
      exact absurd digit (by decide)
    · rename_i sign
      cases sign
      exact absurd digit (by decide)
    · exact read

theorem stripped_same (mantissa scale : Nat) :
    (stripped mantissa scale).1 * Nat.pow 10 scale =
      mantissa * Nat.pow 10 (stripped mantissa scale).2 := by
  fun_induction stripped mantissa scale with
  | case1 => rfl
  | case2 mantissa scale ends ih =>
    have whole : mantissa = mantissa / 10 * 10 := by omega
    have place : Nat.pow 10 (scale + 1) = Nat.pow 10 scale * 10 := rfl
    rw [place, ← Nat.mul_assoc, ih, Nat.mul_right_comm, ← whole]
  | case3 => rfl

theorem stripped_normal (mantissa scale : Nat) :
    (stripped mantissa scale).2 = 0 ∨ (stripped mantissa scale).1 % 10 ≠ 0 := by
  fun_induction stripped mantissa scale with
  | case1 => exact Or.inl rfl
  | case2 mantissa scale ends ih => exact ih
  | case3 mantissa scale ends => exact Or.inr ends

/-- No zero ends the places of a decimal, and zero has no sign. -/
structure IsNormal (d : Decimal) : Prop where
  places : d.scale = 0 ∨ d.mantissa % 10 ≠ 0
  sign : d.mantissa = 0 → d.negative = false

theorem isNormal_normalized (d : Decimal) : d.normalized.IsNormal := by
  refine ⟨stripped_normal _ _, fun zero => ?_⟩
  have none : d.mantissa = 0 := (stripped_fst_eq_zero_iff _ _).mp zero
  simp only [normalized, none, bne_self_eq_false, Bool.and_false]

theorem IsNormal.make?_eq {d : Decimal} (normal : d.IsNormal) :
    make? d.negative d.mantissa d.scale = some d := by
  have sign : (d.negative && d.mantissa != 0) = d.negative := by
    by_cases zero : d.mantissa = 0
    · rw [normal.sign zero, Bool.false_and]
    · rw [bne_iff_ne.mpr zero, Bool.and_true]
  unfold make?
  rw [dif_pos ⟨d.mantissa_lt, d.scale_le⟩]
  simp only [sign]

theorem read?_text_normalized (d : Decimal) : read? d.normalized.text = some d.normalized :=
  d.normalized.read?_text.trans d.isNormal_normalized.make?_eq

theorem sameNumber_normalized (d : Decimal) : d.normalized.sameNumber d = true := by
  unfold sameNumber
  rw [Bool.and_eq_true]
  refine ⟨?_, beq_iff_eq.mpr (stripped_same d.mantissa d.scale)⟩
  rw [Bool.or_eq_true, beq_iff_eq, beq_iff_eq]
  by_cases zero : d.mantissa = 0
  · exact Or.inr ((stripped_fst_eq_zero_iff _ _).mpr zero)
  · refine Or.inl ?_
    show (d.negative && d.mantissa != 0) = d.negative
    rw [bne_iff_ne.mpr zero, Bool.and_true]

end Decimal

end MarketLink.Number
