import MarketLink.Text.Bytes

set_option autoImplicit false

namespace MarketLink.Text

/-- A text without the character zero. -/
def Clean (s : String) : Prop := '\x00' ∉ s.toList

instance (s : String) : Decidable (Clean s) := inferInstanceAs (Decidable (_ ∉ _))

theorem toBytes_eq (s : String) : toBytes s = s.toList.flatMap String.utf8EncodeChar := by
  unfold toBytes
  rw [← String.utf8Encode_toList]
  simp [List.utf8Encode]

theorem zero_mem_utf8EncodeChar_iff {c : Char} : 0 ∈ String.utf8EncodeChar c ↔ c = '\x00' := by
  constructor
  · intro member
    have zero : c.toNat = 0 := by
      dsimp only [String.utf8EncodeChar] at member
      rw [Char.toNat_val] at member
      -- every other byte has its high bit set, or is the character itself
      repeat' split at member
      all_goals
        simp [← UInt8.toNat_inj] at member
        omega
    exact Char.ext (UInt32.toNat_inj.mp zero)
  · rintro rfl
    decide

theorem zero_mem_toBytes_iff {s : String} : 0 ∈ toBytes s ↔ ¬Clean s := by
  rw [toBytes_eq, List.mem_flatMap]
  unfold Clean
  rw [Classical.not_not]
  constructor
  · rintro ⟨c, member, zero⟩
    exact zero_mem_utf8EncodeChar_iff.mp zero ▸ member
  · intro member
    exact ⟨_, member, zero_mem_utf8EncodeChar_iff.mpr rfl⟩

theorem toBytes_injective {s t : String} (same : toBytes s = toBytes t) : s = t := by
  have back := ofBytes?_toBytes s
  rw [same, ofBytes?_toBytes] at back
  exact (Option.some.inj back).symm

end MarketLink.Text
