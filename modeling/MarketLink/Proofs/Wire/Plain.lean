import MarketLink.Message.Outbound
import Mathlib.Data.Nat.Digits.Defs

set_option autoImplicit false

namespace MarketLink.Number

/-- A text that holds no zero byte and takes up at most so many bytes. -/
structure Plain (text : String) (limit : Nat) : Prop where
  clean : '\x00' ∉ text.toList
  short : text.utf8ByteSize ≤ limit

section Plain

variable {first second text : String} {m n : Nat}

theorem Plain.append (plain : Plain first m) (also : Plain second n) :
    Plain (first ++ second) (m + n) := by
  refine ⟨?_, ?_⟩
  · rw [String.toList_append, List.mem_append, not_or]
    exact ⟨plain.clean, also.clean⟩
  · rw [String.utf8ByteSize_append]
    exact Nat.add_le_add plain.short also.short

theorem Plain.mono (plain : Plain text m) (more : m ≤ n) : Plain text n :=
  ⟨plain.clean, plain.short.trans more⟩

theorem utf8ByteSize_ofList_le (cs : List Char) :
    (String.ofList cs).utf8ByteSize ≤ 4 * cs.length := by
  induction cs with
  | nil => exact Nat.le_refl 0
  | cons c rest ih =>
    have size := c.utf8Size_le_four
    rw [String.ofList_cons, String.utf8ByteSize_append, String.utf8ByteSize_singleton,
      List.length_cons]
    omega

theorem plain_ofList {cs : List Char} (clean : '\x00' ∉ cs) :
    Plain (String.ofList cs) (4 * cs.length) := by
  refine ⟨?_, utf8ByteSize_ofList_le cs⟩
  rw [String.toList_ofList]
  exact clean

theorem plain_zeros (n : Nat) : Plain (zeros n) (4 * n) := by
  have clean : '\x00' ∉ List.replicate n '0' := fun member =>
    absurd (List.eq_of_mem_replicate member) (by decide)
  have plain := plain_ofList clean
  rw [List.length_replicate] at plain
  exact plain

theorem clean_toDigits (n : Nat) : '\x00' ∉ Nat.toDigits 10 n := fun member =>
  absurd (Nat.isDigit_of_mem_toDigits (by decide) (by decide) member) (by decide)

end Plain

structure Digits.Within (d : Digits) (length : Nat) (low high : Int) : Prop where
  digits : d.digits < 10 ^ length
  low : low ≤ d.exponent
  high : d.exponent ≤ high

theorem Digits.zero_within {length : Nat} {low high : Int} (below : low ≤ 0) (above : 0 ≤ high) :
    (⟨0, 0⟩ : Digits).Within length low high :=
  ⟨Nat.pow_pos (by decide), below, above⟩

theorem Digits.Within.strip {d : Digits} {length : Nat} {low high : Int}
    (within : d.Within length low high) (fuel : Nat) :
    (d.strip fuel).Within length low (high + fuel) := by
  induction fuel generalizing d high with
  | zero => exact ⟨within.digits, within.low, within.high.trans (by omega)⟩
  | succ fuel ih =>
    unfold Digits.strip
    split
    · have fewer : d.digits / 10 < 10 ^ length :=
        Nat.lt_of_le_of_lt (Nat.div_le_self _ _) within.digits
      have more : d.exponent + 1 ≤ high + 1 := Int.add_le_add_right within.high 1
      have less : low ≤ d.exponent + 1 := Int.le_trans within.low (by omega)
      have stripped := ih (d := ⟨d.digits / 10, d.exponent + 1⟩) ⟨fewer, less, more⟩
      refine ⟨stripped.digits, stripped.low, stripped.high.trans ?_⟩
      push_cast
      omega
    · refine ⟨within.digits, within.low, within.high.trans ?_⟩
      omega

theorem length_toDigits_quotient {value places : Nat} (bounded : value < 10 ^ places)
    (shift denominator : Nat) (some_digit : 0 < places + shift) :
    (Nat.toDigits 10 (value * Nat.pow 10 shift / denominator)).length ≤ places + shift := by
  refine (Nat.length_toDigits_le_iff (by decide) some_digit).mpr ?_
  rw [Nat.pow_add]
  exact Nat.lt_of_le_of_lt (Nat.div_le_self _ _)
    (Nat.mul_lt_mul_of_pos_right bounded (Nat.pow_pos (by decide)))

theorem Interval.magnitude_eq (i : Interval) {shift : Nat} (same : 400 = shift) :
    i.magnitude =
      ((Nat.toDigits 10 (i.value * Nat.pow 10 shift / i.denominator)).length : Int) - shift := by
  unfold Interval.magnitude
  rw [same]
  omega

theorem Interval.magnitude_bounds {i : Interval} {places : Nat} (bounded : i.value < 10 ^ places) :
    -400 ≤ i.magnitude ∧ i.magnitude ≤ places := by
  obtain ⟨shift, same⟩ : ∃ shift, 400 = shift := ⟨400, rfl⟩
  have length := length_toDigits_quotient bounded shift i.denominator (by omega)
  rw [i.magnitude_eq same]
  omega

/-- The digits lie next to the value, at a scale that is bounded with the magnitude. -/
theorem Interval.decimalOfCount_within {i : Interval} {places reach count : Nat} {magnitude : Int}
    (bounded : i.value < 10 ^ places) (least : (count : Int) - magnitude ≤ reach)
    (most : magnitude ≤ places) {d : Digits} (found : i.decimalOfCount magnitude count = some d) :
    d.Within (places + reach + 1) (-reach) places := by
  let place : Int := magnitude - count
  let below : Nat := i.value * 10 ^ (-place).toNat / (i.denominator * 10 ^ place.toNat)
  have scale : 10 ^ (-place).toNat ≤ 10 ^ reach := Nat.pow_le_pow_right (by decide) (by omega)
  have small : below < 10 ^ (places + reach) := by
    rw [Nat.pow_add]
    calc below ≤ i.value * 10 ^ (-place).toNat := Nat.div_le_self _ _
      _ ≤ i.value * 10 ^ reach := Nat.mul_le_mul_left _ scale
      _ < 10 ^ places * 10 ^ reach := Nat.mul_lt_mul_of_pos_right bounded (Nat.pow_pos (by decide))
  have room : 10 ^ (places + reach) < 10 ^ (places + reach + 1) :=
    Nat.pow_lt_pow_right (by decide) (by omega)
  -- whichever neighbour is taken, it is the quotient or the next number
  have inside : ∀ digits, digits ≤ below + 1 →
      (⟨digits, place⟩ : Digits).Within (places + reach + 1) (-reach) places := by
    intro digits near
    have fewer : digits < 10 ^ (places + reach + 1) := by omega
    have low : -(reach : Int) ≤ place := by omega
    have high : place ≤ places := by omega
    exact ⟨fewer, low, high⟩
  unfold Interval.decimalOfCount at found
  dsimp only at found
  split at found
  · split at found
    · exact Option.some.inj found ▸ inside below (by omega)
    · exact Option.some.inj found ▸ inside (below + 1) (by omega)
  · exact Option.some.inj found ▸ inside below (by omega)
  · exact Option.some.inj found ▸ inside (below + 1) (by omega)
  · cases found

theorem Interval.shortest_within {i : Interval} {places : Nat} (bounded : i.value < 10 ^ places) :
    i.shortest.Within (places + 418) (-417) (places + 18) := by
  obtain ⟨least, most⟩ := Interval.magnitude_bounds bounded
  unfold Interval.shortest
  refine Digits.Within.strip ?_ 18
  cases found : (List.range' 1 17).findSome? (i.decimalOfCount i.magnitude) with
  | none => exact Digits.zero_within (by omega) (by omega)
  | some d =>
    obtain ⟨count, member, given⟩ := List.exists_of_findSome?_eq_some found
    have few : count ≤ 17 := by
      rw [List.mem_range'_1] at member
      omega
    have near : (count : Int) - i.magnitude ≤ (417 : Nat) := by omega
    exact Interval.decimalOfCount_within bounded near most given

theorem Interval.value_ofBinary_lt {mantissa bits shift : Nat} {exponent : Int}
    (small : 4 * mantissa < 2 ^ bits) (near : exponent ≤ shift) (narrow : Bool) :
    (Interval.ofBinary mantissa exponent narrow).value < 10 ^ (bits + shift) := by
  have up : 2 ^ exponent.toNat ≤ 2 ^ shift := Nat.pow_le_pow_right (by decide) (by omega)
  calc (Interval.ofBinary mantissa exponent narrow).value
      = 4 * mantissa * 2 ^ exponent.toNat := rfl
    _ ≤ 4 * mantissa * 2 ^ shift := Nat.mul_le_mul_left _ up
    _ < 2 ^ bits * 2 ^ shift := Nat.mul_lt_mul_of_pos_right small (Nat.pow_pos (by decide))
    _ = 2 ^ (bits + shift) := (Nat.pow_add 2 bits shift).symm
    _ ≤ 10 ^ (bits + shift) := Nat.pow_le_pow_left (by decide) _

theorem exponentBits_le (x : Float) : exponentBits x ≤ 2047 := by
  unfold exponentBits
  rw [UInt64.toNat_and]
  exact Nat.and_le_right

theorem fractionBits_le (x : Float) : fractionBits x ≤ 4503599627370495 := by
  unfold fractionBits
  rw [UInt64.toNat_and]
  exact Nat.and_le_right

/-- The mantissa of a double has fifty-three bits, and the greatest power of two is that of
infinity. -/
theorem shortestDigits_within (x : Float) :
    (shortestDigits x).Within (56 + 972 + 418) (-417) (56 + 972 + 18) := by
  have exponent := exponentBits_le x
  have fraction := fractionBits_le x
  unfold shortestDigits
  dsimp only
  split
  · split
    · exact Digits.zero_within (by omega) (by omega)
    · refine Interval.shortest_within (Interval.value_ofBinary_lt ?_ ?_ false)
      · omega
      · omega
  · refine Interval.shortest_within (Interval.value_ofBinary_lt ?_ ?_ _)
    · unfold leadingBit
      omega
    · omega

theorem plain_positional {d : Digits} {length reach : Nat} (within : d.Within length (-reach) reach)
    (some_digit : 0 < length) : Plain (positional "" d) (2 + 4 * length + 4 * reach) := by
  have low := within.low
  have high := within.high
  have digits : (Nat.toDigits 10 d.digits).length ≤ length :=
    (Nat.length_toDigits_le_iff (by decide) some_digit).mpr within.digits
  have clean := clean_toDigits d.digits
  have whole := plain_ofList clean
  have zero : Plain "0." 2 := ⟨by decide, by decide⟩
  have point : Plain "." 1 := ⟨by decide, by decide⟩
  have nothing : Plain "" 0 := ⟨by decide, by decide⟩
  unfold positional
  dsimp only
  split
  · exact ((zero.append (plain_zeros _)).append whole).mono (by omega)
  · split
    · exact ((whole.append (plain_zeros _)).append nothing).mono (by omega)
    · have parts : ∀ k, Plain (String.ofList ((Nat.toDigits 10 d.digits).take k) ++ "." ++
          String.ofList ((Nat.toDigits 10 d.digits).drop k)) (2 + 4 * length + 4 * reach) := by
        intro k
        have front := plain_ofList fun member => clean (List.mem_of_mem_take (i := k) member)
        have back := plain_ofList fun member => clean (List.mem_of_mem_drop (i := k) member)
        refine ((front.append point).append back).mono ?_
        rw [List.length_take, List.length_drop]
        omega
      exact parts _

theorem plain_realText (x : Float) : Plain (realText x) 10000 := by
  have within := shortestDigits_within x
  have wide : (shortestDigits x).Within (56 + 972 + 418) (-(1046 : Nat)) (1046 : Nat) :=
    ⟨within.digits, Int.le_trans (by decide) within.low, within.high⟩
  have finite := plain_positional wide (by decide)
  have sign : Plain (if isNegative x then "-" else "") 1 := by
    cases isNegative x <;> exact ⟨by decide, by decide⟩
  have word : Plain "inf" 3 := ⟨by decide, by decide⟩
  have none : Plain "NaN" 10000 := ⟨by decide, by decide⟩
  have longest : 1 + (2 + 4 * (56 + 972 + 418) + 4 * 1046) ≤ 10000 := by decide
  unfold realText realTextWith
  cases x.isNaN with
  | true => exact none
  | false =>
    cases x.isFinite with
    | true => exact (sign.append finite).mono longest
    | false => exact (sign.append word).mono (Nat.le_trans (by decide) longest)

end MarketLink.Number

namespace MarketLink.Wire

open MarketLink.Message MarketLink.Number

namespace Writer

/-- The frame is not spoiled, has a field, and takes up at most so many bytes. -/
structure Fits (w : Writer) (limit : Nat) : Prop where
  sound : w.fault = none
  filled : 0 < w.size
  short : w.size ≤ limit

section Fits

variable {w : Writer} {m n : Nat}

theorem text_of_sound (sound : w.fault = none) {s : String} (clean : '\x00' ∉ s.toList) :
    w.text s = { w with fields := s :: w.fields } := by
  unfold text
  rw [sound, if_neg (by decide), if_neg (by simpa using clean)]

theorem size_of_text (sound : w.fault = none) {s : String} (clean : '\x00' ∉ s.toList) :
    (w.text s).size = s.utf8ByteSize + 1 + w.size := by
  rw [text_of_sound sound clean]
  rfl

theorem Fits.text (fits : w.Fits m) {s : String} (plain : Plain s n) :
    (w.text s).Fits (n + 1 + m) := by
  have size := size_of_text fits.sound plain.clean
  have short := plain.short
  have before := fits.short
  refine ⟨?_, by omega, by omega⟩
  rw [text_of_sound fits.sound plain.clean]
  exact fits.sound

theorem Fits.real (fits : w.Fits m) (x : Float) : (w.real x).Fits (10001 + m) := by
  have infinite : Plain (if isNegative x then "-Infinity" else "Infinity") 10000 := by
    cases isNegative x <;> exact ⟨by decide, by decide⟩
  unfold Writer.real
  split
  · exact fits.text infinite
  · exact fits.text (plain_realText x)

theorem Fits.finish (fits : w.Fits m) (room : m ≤ frameLimit) : ∃ frame, w.finish = .ok frame := by
  have filled : w.size ≠ 0 := Nat.ne_of_gt fits.filled
  have inside : ¬ frameLimit < w.size := Nat.not_lt.mpr (fits.short.trans room)
  refine ⟨header w.size ++ w.payload, ?_⟩
  unfold Writer.finish
  rw [fits.sound]
  dsimp only
  rw [if_neg filled, if_neg inside]

end Fits

end Writer

/-- Ticks can be asked for even if nothing is said about the contract. -/
theorem reqMarketData_blank (snapshot : Bool) :
    ∃ frame, reqMarketData 1 {} "" snapshot false = .ok frame := by
  have nothing : Plain "" 0 := ⟨by decide, by decide⟩
  have yes : Plain "1" 1 := ⟨by decide, by decide⟩
  have no : Plain "0" 1 := ⟨by decide, by decide⟩
  have chosen : Plain (if snapshot then "1" else "0") 1 := by
    cases snapshot
    · exact no
    · exact yes
  have front : (Writer.ofCode .reqMarketData |>.int 11 |>.int 1 |>.int 0).Fits 9 :=
    ⟨by decide, by decide, by decide⟩
  have contract := ((((front.text nothing).text nothing).text nothing).real 0).text nothing
    |>.text nothing |>.text nothing |>.text nothing |>.text nothing |>.text nothing |>.text nothing
  have whole := contract.text no |>.text nothing |>.text chosen |>.text no |>.text nothing
  exact whole.finish (by decide)

end MarketLink.Wire
