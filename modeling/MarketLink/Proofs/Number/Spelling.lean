import MarketLink.Number.Real
import Mathlib.Data.List.TakeWhile
import MarketLink.Proofs.Text.Clean

set_option autoImplicit false

namespace MarketLink.Number

open Text

/-- A double with a text that is read as it; the empty text stands for zero. -/
structure Spelled where
  token : String
  value : Float
  reads : (if token.isEmpty then some 0 else readReal? token) = some value

variable {cs : List Char}

theorem not_mem_of_digits (digits : ∀ c ∈ cs, c.isDigit = true) : '\x00' ∉ cs := fun member =>
  absurd (digits _ member) (by decide)

theorem not_mem_cons {c : Char} (front : c ≠ '\x00') (behind : '\x00' ∉ cs) : '\x00' ∉ c :: cs :=
  List.not_mem_cons_of_ne_of_not_mem front.symm behind

theorem not_mem_of_readExponent? {n : Int} (read : readExponent? cs = some n) : '\x00' ∉ cs := by
  have digits : ∀ {ds : List Char} {negative : Bool},
    (if ds.isEmpty || !ds.all Char.isDigit then none
      else some (if negative then -(digitsValue ds : Int) else digitsValue ds)) = some n →
      '\x00' ∉ ds := by
    intro ds negative read
    rw [Option.ite_none_left_eq_some, Bool.or_eq_true, not_or, Bool.not_eq_true', Bool.not_eq_false,
      List.all_eq_true] at read
    exact not_mem_of_digits read.1.2
  cases cs with
  | nil => exact List.not_mem_nil
  | cons c rest =>
    unfold readExponent? at read
    by_cases letter : c = 'e' ∨ c = 'E'
    · have front : c ≠ '\x00' := by rcases letter with rfl | rfl <;> decide
      refine not_mem_cons front ?_
      dsimp only at read
      rw [if_pos letter] at read
      split at read
      · exact not_mem_cons (by decide) (digits read)
      · exact not_mem_cons (by decide) (digits read)
      · exact digits read
    · dsimp only at read
      rw [if_neg letter] at read
      cases read

theorem not_mem_of_readMagnitude? {x : Float} (read : readMagnitude? cs = some x) :
    '\x00' ∉ cs := by
  have parts : ∀ ds : List Char, '\x00' ∉ ds.dropWhile Char.isDigit → '\x00' ∉ ds := by
    intro ds behind member
    rw [← List.takeWhile_append_dropWhile (p := Char.isDigit) (l := ds)] at member
    rcases List.mem_append.mp member with digit | other
    · exact absurd (List.mem_takeWhile_imp digit) (by decide)
    · exact behind other
  refine parts cs ?_
  unfold readMagnitude? at read
  dsimp only at read
  split at read
  · rename_i more point
    rw [Option.ite_none_left_eq_some] at read
    obtain ⟨n, exponent, -⟩ := Option.map_eq_some_iff.mp read.2
    rw [point]
    exact not_mem_cons (by decide) (parts more (not_mem_of_readExponent? exponent))
  · rw [Option.ite_none_left_eq_some] at read
    obtain ⟨n, exponent, -⟩ := Option.map_eq_some_iff.mp read.2
    exact not_mem_of_readExponent? exponent

theorem clean_of_readReal? {s : String} {x : Float} (read : readReal? s = some x) : Clean s := by
  have name : ∀ {known : String} {ds : List Char}, '\x00' ∉ known.toList →
      String.ofList (ds.map Char.toLower) = known → '\x00' ∉ ds := by
    rintro known ds clean rfl member
    rw [String.toList_ofList] at clean
    exact clean (List.mem_map_of_mem (f := Char.toLower) member)
  unfold readReal? at read
  obtain ⟨size, magnitude, -⟩ := Option.map_eq_some_iff.mp read
  have unsigned : ∀ {ds : List Char},
      (if String.ofList (ds.map Char.toLower) = "inf" ∨
          String.ofList (ds.map Char.toLower) = "infinity"
        then some infinity
        else if String.ofList (ds.map Char.toLower) = "nan" then some notANumber
        else readMagnitude? ds) = some size → '\x00' ∉ ds := by
    intro ds magnitude
    split at magnitude
    · rename_i known
      rcases known with known | known
      · exact name (by decide) known
      · exact name (by decide) known
    · split at magnitude
      · rename_i known
        exact name (by decide) known
      · exact not_mem_of_readMagnitude? magnitude
  have behind := unsigned magnitude
  unfold Clean
  split at behind
  · rename_i sign
    rw [sign]
    exact not_mem_cons (by decide) behind
  · rename_i sign
    rw [sign]
    exact not_mem_cons (by decide) behind
  · exact behind

theorem Spelled.clean (x : Spelled) : Clean x.token := by
  by_cases empty : x.token.isEmpty = true
  · rw [String.isEmpty_iff.mp empty]
    decide
  · have read := x.reads
    rw [if_neg empty] at read
    exact clean_of_readReal? read

end MarketLink.Number
