
set_option autoImplicit false

namespace MarketLink

abbrev Bytes := List UInt8

namespace Text

def toBytes (s : String) : Bytes := s.toByteArray.data.toList

def ofBytes? (bytes : Bytes) : Option String := String.fromUTF8? ⟨bytes.toArray⟩

theorem length_toBytes (s : String) : (toBytes s).length = s.utf8ByteSize :=
  Array.length_toList

theorem ofBytes?_toBytes (s : String) : ofBytes? (toBytes s) = some s := by
  have same : (⟨(toBytes s).toArray⟩ : ByteArray) = s.toByteArray := by simp [toBytes]
  simp only [ofBytes?, same, String.fromUTF8?, s.isValidUTF8, ↓reduceDIte]
  rfl

theorem ofBytes?_eq_some_iff {bytes : Bytes} {s : String} :
    ofBytes? bytes = some s ↔ bytes = toBytes s := by
  constructor
  · intro read
    simp only [ofBytes?, String.fromUTF8?] at read
    split at read
    · obtain rfl := Option.some.inj read
      simp [toBytes, String.fromUTF8]
    · cases read
  · rintro rfl
    exact ofBytes?_toBytes s

end Text

end MarketLink
