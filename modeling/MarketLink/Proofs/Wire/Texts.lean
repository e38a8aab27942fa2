import MarketLink.Proofs.Text.Clean
import MarketLink.Proofs.Wire.Framing
import MarketLink.Proofs.Wire.Plain

set_option autoImplicit false

namespace MarketLink.Wire

open Text

/-- The bytes of some fields, each behind the others and with a zero byte at its end. -/
def joined (texts : List String) : Bytes := texts.flatMap fun s => toBytes s ++ [0]

section Joined

variable {s : String} {first second texts : List String}

@[simp] theorem joined_nil : joined [] = [] := rfl

theorem joined_cons : joined (s :: texts) = toBytes s ++ 0 :: joined texts := by
  unfold joined
  rw [List.flatMap_cons, List.append_assoc, List.singleton_append]

theorem joined_append : joined (first ++ second) = joined first ++ joined second :=
  List.flatMap_append

theorem length_joined : (joined texts).length = (texts.map fun s => s.utf8ByteSize + 1).sum := by
  unfold joined
  rw [List.length_flatMap]
  simp only [List.length_append, length_toBytes, List.length_singleton]

theorem joined_eq_nil_iff : joined texts = [] ↔ texts = [] := by
  cases texts with
  | nil => exact ⟨fun _ => rfl, fun _ => rfl⟩
  | cons s texts =>
    rw [joined_cons]
    constructor
    · intro empty
      exact absurd empty (List.append_ne_nil_of_right_ne_nil _ (List.cons_ne_nil _ _))
    · intro empty
      cases empty

theorem fieldsOnto_append {bytes : Bytes} (solid : 0 ∉ bytes) (current rest : Bytes) :
    fieldsOnto current (bytes ++ 0 :: rest) = (current.reverse ++ bytes) :: fieldsOnto [] rest := by
  induction bytes generalizing current with
  | nil => rw [List.nil_append, fieldsOnto, if_pos rfl, List.append_nil]
  | cons b bytes ih =>
    rw [List.mem_cons, not_or] at solid
    rw [List.cons_append, fieldsOnto, if_neg (Ne.symm solid.1), ih solid.2, List.reverse_cons,
      List.append_assoc, List.singleton_append]

theorem fieldsOf_joined (clean : ∀ s ∈ texts, Clean s) :
    fieldsOf (joined texts) = texts.map toBytes := by
  unfold fieldsOf
  induction texts with
  | nil => rfl
  | cons s texts ih =>
    rw [List.forall_mem_cons] at clean
    have solid : 0 ∉ toBytes s := fun zero => zero_mem_toBytes_iff.mp zero clean.1
    rw [joined_cons, fieldsOnto_append solid, ih clean.2]
    rfl

theorem joined_injective (clean : ∀ s ∈ first, Clean s) (also : ∀ s ∈ second, Clean s)
    (same : joined first = joined second) : first = second := by
  have fields := fieldsOf_joined clean
  rw [same, fieldsOf_joined also] at fields
  exact ((List.map_inj_right fun _ _ => toBytes_injective).mp fields).symm

end Joined

namespace Writer

variable {w : Writer} {ss : List String}

def texts (w : Writer) (ss : List String) : Writer := ss.foldl text w

theorem texts_cons {s : String} : w.texts (s :: ss) = (w.text s).texts ss := rfl

theorem texts_of_fault (spoiled : w.fault ≠ none) : w.texts ss = w := by
  have still : ∀ s, w.text s = w := fun s => if_pos (Option.isSome_iff_ne_none.mpr spoiled)
  induction ss with
  | nil => rfl
  | cons s ss ih => rw [texts_cons, still, ih]

theorem texts_of_clean (sound : w.fault = none) (clean : ∀ s ∈ ss, Clean s) :
    w.texts ss = { w with fields := ss.reverse ++ w.fields } := by
  induction ss generalizing w with
  | nil => rfl
  | cons s ss ih =>
    rw [List.forall_mem_cons] at clean
    have before := text_of_sound sound clean.1
    rw [texts_cons, ih (before ▸ sound) clean.2, before, List.reverse_cons, List.append_assoc,
      List.singleton_append]

/-- The first text with a zero spoils the frame, whatever follows. -/
theorem fault_texts (sound : w.fault = none) (unclean : ¬∀ s ∈ ss, Clean s) :
    (w.texts ss).fault = some .embeddedNul := by
  induction ss generalizing w with
  | nil => exact absurd nofun unclean
  | cons s ss ih =>
    rw [List.forall_mem_cons] at unclean
    by_cases clean : Clean s
    · have before := text_of_sound sound clean
      exact ih (w := w.text s) (before ▸ sound) fun rest => unclean ⟨clean, rest⟩
    · have member : '\x00' ∈ s.toList := Classical.not_not.mp clean
      have spoiled : w.text s = { w with fault := some .embeddedNul } := by
        unfold text
        rw [sound, if_neg (by decide), if_pos (by simpa using member)]
      have after : (w.text s).fault ≠ none := by
        rw [spoiled]
        exact Option.some_ne_none _
      rw [texts_cons, texts_of_fault after, spoiled]

theorem length_payload : w.payload.length = w.size := by
  have size : w.size = (w.fields.map fun s => s.utf8ByteSize + 1).sum := by
    unfold Writer.size
    induction w.fields with
    | nil => rfl
    | cons s fields ih => rw [List.foldr_cons, ih, List.map_cons, List.sum_cons]
  have joined : w.payload = joined w.fields.reverse := rfl
  rw [joined, length_joined, size, List.map_reverse, List.sum_reverse]

/-- Texts without a zero are finished as the frame of their bytes, whose length is known
beforehand. -/
theorem finish_texts_of_clean (clean : ∀ s ∈ ss, Clean s) :
    (empty.texts ss).finish = encodeFrame (joined ss) := by
  have written : empty.texts ss = ⟨ss.reverse, none⟩ := by
    rw [texts_of_clean rfl clean]
    exact congrArg (Writer.mk · none) (List.append_nil _)
  have payload : (⟨ss.reverse, none⟩ : Writer).payload = joined ss := by
    unfold Writer.payload
    rw [List.reverse_reverse]
    rfl
  have length : (⟨ss.reverse, none⟩ : Writer).size = (joined ss).length := by
    rw [← length_payload, payload]
  rw [written, finish, encodeFrame_eq]
  dsimp only
  rw [length, payload]

theorem finish_texts_of_not_clean (unclean : ¬∀ s ∈ ss, Clean s) :
    (empty.texts ss).finish = .error .embeddedNul := by
  rw [finish, fault_texts rfl unclean]

/-- What is finished: a frame with all texts, unless one has a zero or they are too long together. A
zero goes before the length. -/
theorem finish_texts (some_text : ss ≠ []) :
    (empty.texts ss).finish =
      if ∀ s ∈ ss, Clean s then
        if frameLimit < (joined ss).length then .error (.frameTooLarge (joined ss).length)
        else .ok (header (joined ss).length ++ joined ss)
      else .error .embeddedNul := by
  by_cases clean : ∀ s ∈ ss, Clean s
  · have filled : (joined ss).length ≠ 0 := fun zero =>
      some_text (joined_eq_nil_iff.mp (List.length_eq_zero_iff.mp zero))
    rw [if_pos clean, finish_texts_of_clean clean, encodeFrame_eq, if_neg filled]
  · rw [if_neg clean, finish_texts_of_not_clean clean]

end Writer

theorem splitFrame_joined {texts : List String} (some_text : texts ≠ [])
    (room : (joined texts).length ≤ frameLimit) :
    splitFrame (header (joined texts).length ++ joined texts) = .ok (some (joined texts, [])) := by
  have framable : Framable (joined texts) := ⟨mt joined_eq_nil_iff.mp some_text, room⟩
  have cut := splitFrame_frame framable []
  rw [List.append_nil] at cut
  exact cut

end MarketLink.Wire
