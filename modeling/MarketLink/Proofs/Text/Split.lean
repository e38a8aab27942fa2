import Mathlib.Data.String.Basic
import MarketLink.Message.Inbound

set_option autoImplicit false

namespace MarketLink.Text

open String (utf8Len)

/-- The loop, when the part under way has the characters `part`, the latest first. -/
theorem splitOnAux_comma (done part rest : List Char) (parts : List String) :
    (String.ofList (done ++ part.reverse ++ rest)).splitOnAux "," ⟨utf8Len done⟩
        ⟨utf8Len (done ++ part.reverse)⟩ 0 parts =
      parts.reverse ++ (List.splitOnPPrepend (· == ',') rest part).map String.ofList := by
  have taken := String.extract_of_valid done part.reverse rest
  rw [← String.utf8Len_append] at taken
  rw [String.splitOnAux]
  cases rest with
  | nil =>
    rw [if_pos ((String.atEnd_of_valid _ _).mpr rfl)]
    dsimp only
    rw [taken]
    simp
  | cons c rest =>
    have found := String.get_of_valid (done ++ part.reverse) (c :: rest)
    have onward := String.next_of_valid (done ++ part.reverse) c rest
    have separator : String.Pos.Raw.get "," 0 = ',' := by decide
    rw [if_neg (mt (String.atEnd_of_valid _ _).mp (List.cons_ne_nil _ _)), found, List.headD_cons,
      separator]
    by_cases comma : c = ','
    · -- the part ends, and the next one begins behind the comma
      subst comma
      have last : String.Pos.Raw.atEnd "," (String.Pos.Raw.next "," 0) = true := by decide
      have back : (⟨utf8Len (done ++ part.reverse) + ','.utf8Size⟩ : String.Pos.Raw).unoffsetBy
          (String.Pos.Raw.next "," 0) = ⟨utf8Len (done ++ part.reverse)⟩ := rfl
      have behind := splitOnAux_comma (done ++ part.reverse ++ [',']) [] rest
        (String.ofList part.reverse :: parts)
      rw [List.reverse_nil, List.append_nil, String.utf8Len_append, String.utf8Len_cons,
        String.utf8Len_nil, Nat.zero_add, List.append_assoc _ [','], List.singleton_append]
        at behind
      rw [if_pos (beq_self_eq_true _)]
      dsimp only
      rw [onward, if_pos last, back, taken, behind, List.splitOnPPrepend_cons_eq_if,
        if_pos (beq_self_eq_true _), List.reverse_cons, List.append_assoc, List.singleton_append,
        List.map_cons, List.splitOnP_eq_splitOnPPrepend]
    · have still : (⟨utf8Len (done ++ part.reverse)⟩ : String.Pos.Raw).unoffsetBy 0 =
        ⟨utf8Len (done ++ part.reverse)⟩ := rfl
      have behind := splitOnAux_comma done (c :: part) rest parts
      rw [List.reverse_cons, ← List.append_assoc, String.utf8Len_append, String.utf8Len_cons,
        String.utf8Len_nil, Nat.zero_add, List.append_assoc _ [c], List.singleton_append] at behind
      rw [if_neg (by simpa using comma), still, onward, behind, List.splitOnPPrepend_cons_eq_if,
        if_neg (by simpa using comma)]

theorem splitOn_comma (s : String) : s.splitOn "," = (s.toList.splitOn ',').map String.ofList := by
  have whole := splitOnAux_comma [] [] s.toList []
  rw [List.reverse_nil, List.nil_append, List.nil_append, List.reverse_nil, List.nil_append,
    String.ofList_toList] at whole
  exact whole

end MarketLink.Text

namespace MarketLink.Message

open Text

/-- A name for a list with commas: it is not empty, has no comma, and no blank at either end. -/
structure Listable (name : String) : Prop where
  filled : name ≠ ""
  trimmed : trim name = name
  single : ',' ∉ name.toList

instance (name : String) : Decidable (Listable name) :=
  decidable_of_iff (name ≠ "" ∧ trim name = name ∧ ',' ∉ name.toList)
    ⟨fun ⟨filled, trimmed, single⟩ => ⟨filled, trimmed, single⟩,
      fun listable => ⟨listable.filled, listable.trimmed, listable.single⟩⟩

theorem splitList_intercalate {names : List String} (listable : ∀ name ∈ names, Listable name) :
    splitList (",".intercalate names) = names := by
  unfold splitList
  rw [splitOn_comma, String.toList_intercalate]
  by_cases empty : names = []
  · rw [empty]
    decide
  · have single : ∀ cs ∈ names.map String.toList, ',' ∉ cs :=
      List.forall_mem_map.mpr fun name member => (listable name member).single
    have commas : ",".toList = [','] := rfl
    have back : (names.map String.toList).map String.ofList = names := by
      rw [List.map_map]
      exact (List.map_congr_left fun name _ => String.ofList_toList).trans (List.map_id names)
    have trimmed : names.map trim = names :=
      (List.map_congr_left fun name member => (listable name member).trimmed).trans
      (List.map_id names)
    rw [commas, List.splitOn_intercalate ',' single (mt List.map_eq_nil_iff.mp empty), back,
      trimmed, List.filter_eq_self]
    intro name member
    simpa using (listable name member).filled

end MarketLink.Message
