import MarketLink.Proofs.Wire.Chunks

set_option autoImplicit false

namespace MarketLink.Wire

/-- A payload that a frame can hold. -/
def Framable (payload : Bytes) : Prop := payload ≠ [] ∧ payload.length ≤ frameLimit

instance (payload : Bytes) : Decidable (Framable payload) := inferInstanceAs (Decidable (_ ∧ _))

/-- Appends the frame of a payload to a buffer: its length is checked before anything is written. -/
def appendFrame (payload buffer : Bytes) : Except WireError Unit × Bytes :=
  match checkLength payload.length with
  | .error e => (.error e, buffer)
  | .ok _ => (.ok (), buffer ++ header payload.length ++ payload)

/-- The buffer after some payloads have been appended to it, each whatever became of those before
it. -/
def appendAll (payloads : List Bytes) (buffer : Bytes) : Bytes :=
  payloads.foldl (fun buffer payload => (appendFrame payload buffer).2) buffer

/-- Cuts the frame in front off a buffer, once all of it is there. -/
def detachFrame (buffer : Bytes) : Except WireError (Option Bytes) × Bytes :=
  match buffer with
  | a :: b :: c :: d :: rest =>
    match checkLength (announced a b c d) with
    | .error e => (.error e, buffer)
    | .ok _ =>
      if buffer.length < 4 + announced a b c d then (.ok none, buffer)
      else (.ok (some (rest.take (announced a b c d))), rest.drop (announced a b c d))
  | _ => (.ok none, buffer)

/-- Frames are cut off a buffer up to the first call that gives none, which may have failed. -/
inductive Drains : Bytes → Cut → Prop where
  | missing {buffer after : Bytes} (none_there : detachFrame buffer = (.ok none, after)) :
      Drains buffer ⟨[], after, none⟩
  | refused {buffer after : Bytes} {e : WireError}
    (failed : detachFrame buffer = (.error e, after)) :
      Drains buffer ⟨[], after, some e⟩
  | frame {buffer payload after : Bytes} {cut : Cut}
      (found : detachFrame buffer = (.ok (some payload), after)) (onward : Drains after cut) :
      Drains buffer { cut with frames := payload :: cut.frames }

theorem checkLength_eq_ok_iff {length : Nat} :
    checkLength length = .ok () ↔ 0 < length ∧ length ≤ frameLimit := by
  unfold checkLength
  split
  · constructor
    · intro same
      cases same
    · omega
  · split
    · constructor
      · intro same
        cases same
      · omega
    · exact ⟨fun _ => by omega, fun _ => rfl⟩

theorem framable_iff {payload : Bytes} :
    Framable payload ↔ checkLength payload.length = .ok () := by
  rw [checkLength_eq_ok_iff, List.length_pos_iff]
  rfl

theorem appendFrame_eq (payload buffer : Bytes) :
    appendFrame payload buffer =
      match encodeFrame payload with
      | .error e => (.error e, buffer)
      | .ok frame => (.ok (), buffer ++ frame) := by
  unfold appendFrame encodeFrame
  dsimp only
  cases checkLength payload.length with
  | error e => rfl
  | ok _ => exact congrArg (Prod.mk _) (List.append_assoc _ _ _)

theorem appendFrame_of_framable {payload : Bytes} (framable : Framable payload) (buffer : Bytes) :
    appendFrame payload buffer = (.ok (), buffer ++ (header payload.length ++ payload)) := by
  unfold appendFrame
  rw [framable_iff.mp framable]
  exact congrArg (Prod.mk _) (List.append_assoc _ _ _)

theorem appendFrame_of_not_framable {payload : Bytes} (framable : ¬Framable payload)
    (buffer : Bytes) :
    (appendFrame payload buffer).2 = buffer := by
  unfold appendFrame
  cases checked : checkLength payload.length with
  | error e => rfl
  | ok _ => exact absurd (framable_iff.mpr checked) framable

/-- Cutting a buffer in place gives what is found at its front, and leaves it alone otherwise. -/
theorem detachFrame_eq (buffer : Bytes) :
    detachFrame buffer =
      match splitFrame buffer with
      | .error e => (.error e, buffer)
      | .ok none => (.ok none, buffer)
      | .ok (some (payload, after)) => (.ok (some payload), after) := by
  match buffer with
  | [] | [_] | [_, _] | [_, _, _] => rfl
  | a :: b :: c :: d :: rest =>
    have taken : takePayload (announced a b c d) rest =
        if (rest.take (announced a b c d)).length = announced a b c d then
          some (rest.take (announced a b c d), rest.drop (announced a b c d))
        else none := by
      unfold takePayload
      rw [List.splitAt_eq]
    dsimp only [detachFrame, splitFrame]
    cases checkLength (announced a b c d) with
    | error e => rfl
    | ok _ =>
      dsimp only
      rw [taken, List.length_take, List.length_cons, List.length_cons, List.length_cons,
        List.length_cons]
      by_cases short : rest.length < announced a b c d
      · rw [if_pos (by omega), if_neg (by omega)]
      · rw [if_neg (by omega), if_pos (by omega)]

/-- There is one way in which a buffer drains: what the loop over it comes to. -/
theorem drains_iff {buffer : Bytes} {cut : Cut} : Drains buffer cut ↔ cut = cutFrames buffer := by
  constructor
  · intro drains
    induction drains with
    | @missing buffer after none_there =>
      rw [detachFrame_eq] at none_there
      split at none_there
      · cases none_there
      · rename_i found
        cases none_there
        exact (cutOnto_of_none found []).symm
      · cases none_there
    | @refused buffer after e failed =>
      rw [detachFrame_eq] at failed
      split at failed
      · rename_i found
        cases failed
        exact (cutOnto_of_error found []).symm
      · cases failed
      · cases failed
    | @frame buffer payload after cut found onward ih =>
      rw [detachFrame_eq] at found
      split at found
      · cases found
      · cases found
      · rename_i there
        cases found
        rw [cutFrames, cutOnto_of_frame there, ← List.nil_append [payload], cutOnto_append_done, ih]
        rfl
  · rintro rfl
    induction size : buffer.length using Nat.strongRecOn generalizing buffer with
    | ind size ih =>
      have call := detachFrame_eq buffer
      cases found : splitFrame buffer with
      | error e =>
        rw [found] at call
        rw [cutFrames, cutOnto_of_error found]
        exact .refused call
      | ok front =>
        cases front with
        | none =>
          rw [found] at call
          rw [cutFrames, cutOnto_of_none found]
          exact .missing call
        | some front =>
          obtain ⟨payload, after⟩ := front
          rw [found] at call
          have shorter := length_of_splitFrame found
          have onward := ih after.length (size ▸ shorter) rfl
          rw [cutFrames, cutOnto_of_frame found, ← List.nil_append [payload], cutOnto_append_done]
          exact .frame call onward

theorem announced_header {length : Nat} (small : length ≤ frameLimit) :
    announced (UInt8.ofNat (length / 16777216)) (UInt8.ofNat (length / 65536))
      (UInt8.ofNat (length / 256)) (UInt8.ofNat length) = length := by
  unfold announced
  unfold frameLimit at small
  simp only [UInt8.toNat_ofNat']
  omega

theorem header_of_announced {length : Nat} {a b c d : UInt8} (same : length = announced a b c d) :
    header length = [a, b, c, d] := by
  have high := a.toNat_lt
  have upper := b.toNat_lt
  have lower := c.toNat_lt
  have low := d.toNat_lt
  unfold header
  unfold announced at same
  simp only [List.cons.injEq, and_true, ← UInt8.toNat_inj, UInt8.toNat_ofNat']
  omega

theorem splitFrame_frame {payload : Bytes} (framable : Framable payload) (more : Bytes) :
    splitFrame (header payload.length ++ payload ++ more) = .ok (some (payload, more)) := by
  have same := announced_header framable.2
  refine splitFrame_eq_frame_iff.mpr ⟨_, _, _, _, rfl, ?_, same.symm⟩
  rw [same]
  exact framable_iff.mp framable

theorem appendAll_eq (payloads : List Bytes) (buffer : Bytes) :
    appendAll payloads buffer =
      buffer ++ (payloads.filter Framable).flatMap fun payload =>
        header payload.length ++ payload := by
  unfold appendAll
  induction payloads generalizing buffer with
  | nil => exact (List.append_nil buffer).symm
  | cons payload rest ih =>
    rw [List.foldl_cons, ih]
    by_cases framable : Framable payload
    · rw [appendFrame_of_framable framable, List.filter_cons_of_pos (by simpa using framable),
        List.flatMap_cons, List.append_assoc]
    · rw [appendFrame_of_not_framable framable, List.filter_cons_of_neg (by simpa using framable)]

theorem filter_framable {payloads : List Bytes} (all : ∀ payload ∈ payloads, Framable payload) :
    payloads.filter Framable = payloads :=
  List.filter_eq_self.mpr fun payload member => decide_eq_true (all payload member)

theorem cutOnto_frames {payloads : List Bytes} (all : ∀ payload ∈ payloads, Framable payload)
    (done : List Bytes) (more : Bytes) :
    cutOnto done ((payloads.flatMap fun payload => header payload.length ++ payload) ++ more) =
      cutOnto (payloads.reverse ++ done) more := by
  induction payloads generalizing done with
  | nil => rfl
  | cons payload rest ih =>
    rw [List.forall_mem_cons] at all
    rw [List.flatMap_cons, List.append_assoc, cutOnto_of_frame (splitFrame_frame all.1 _), ih all.2,
      List.reverse_cons, List.append_assoc, List.singleton_append]

/-- The loop loses no byte: the frames that it adds, written again, and the bytes left are the
buffer. -/
theorem frames_cutOnto (done : List Bytes) (buffer : Bytes) :
    ∃ frames, (cutOnto done buffer).frames = done.reverse ++ frames ∧
      (∀ frame ∈ frames, Framable frame) ∧
      buffer = (frames.flatMap fun frame => header frame.length ++ frame) ++
        (cutOnto done buffer).rest := by
  fun_induction cutOnto done buffer with
  | case1 done buffer e refused => exact ⟨[], (List.append_nil _).symm, List.forall_mem_nil _, rfl⟩
  | case2 done buffer missing => exact ⟨[], (List.append_nil _).symm, List.forall_mem_nil _, rfl⟩
  | case3 done buffer payload after found ih =>
    obtain ⟨frames, same, all, whole⟩ := ih
    obtain ⟨a, b, c, d, rfl, accepted, long⟩ := splitFrame_eq_frame_iff.mp found
    have framable : Framable payload := framable_iff.mpr (long ▸ accepted)
    refine ⟨payload :: frames, ?_, List.forall_mem_cons.mpr ⟨framable, all⟩, ?_⟩
    · rw [same, List.reverse_cons, List.append_assoc, List.singleton_append]
    · have bytes : header payload.length = [a, b, c, d] := header_of_announced long
      rw [List.flatMap_cons, List.append_assoc, List.append_assoc, ← whole, bytes]
      rfl

/-- Cutting stops in front of a length that no payload has, with the error of that length, and
without an error at any other bytes. -/
theorem stop_cutFrames_iff {buffer : Bytes} {e : WireError} :
    (cutFrames buffer).stop = some e ↔
      ∃ a b c d more, (cutFrames buffer).rest = a :: b :: c :: d :: more ∧
        (announced a b c d = 0 ∧ e = .emptyFrame ∨
          frameLimit < announced a b c d ∧ e = .frameTooLarge (announced a b c d)) := by
  have last := splitFrame_rest_cutOnto [] buffer
  rw [← cutFrames] at last
  have error : ∀ length, checkLength length = .error e ↔
      length = 0 ∧ e = .emptyFrame ∨ frameLimit < length ∧ e = .frameTooLarge length := by
    intro length
    unfold checkLength
    split
    · rename_i zero
      simp [zero, eq_comm]
    · rename_i some_byte
      split
      · rename_i large
        simp [some_byte, large, eq_comm]
      · rename_i small
        simp [some_byte, small]
  simp only [← error, ← splitFrame_eq_error_iff]
  rw [last]
  cases (cutFrames buffer).stop with
  | none => simp
  | some found => simp

/-- Of the payloads appended to a buffer exactly those are refused that are empty or longer than the
limit, and they leave it as it was; cutting gives back the others in order, and leaves nothing. From
any bytes whatever, cutting takes frames which, appended again, make up the bytes together with
those left over; the call that stops leaves these as they are, and fails exactly at a length that no
payload has. -/
theorem framing_loses_no_byte (payloads : List Bytes) (bytes : Bytes) :
    (∀ payload buffer, appendFrame payload buffer =
      if payload = [] then (.error .emptyFrame, buffer)
      else if frameLimit < payload.length then (.error (.frameTooLarge payload.length), buffer)
      else (.ok (), buffer ++ (header payload.length ++ payload))) ∧
    (∀ cut, Drains (appendAll payloads []) cut ↔ cut = ⟨payloads.filter Framable, [], none⟩) ∧
    ∃ cut, (∀ other, Drains bytes other ↔ other = cut) ∧
      appendAll cut.frames [] ++ cut.rest = bytes ∧
      (∀ frame ∈ cut.frames, 1 ≤ frame.length ∧ frame.length ≤ frameLimit) ∧
      detachFrame cut.rest =
        ((match cut.stop with
          | none => .ok none
          | some e => .error e), cut.rest) ∧
      ∀ e, cut.stop = some e ↔
        ∃ a b c d more, cut.rest = a :: b :: c :: d :: more ∧
          (announced a b c d = 0 ∧ e = .emptyFrame ∨
            frameLimit < announced a b c d ∧ e = .frameTooLarge (announced a b c d)) := by
  obtain ⟨frames, same, all, whole⟩ := frames_cutOnto [] bytes
  rw [List.reverse_nil, List.nil_append, ← cutFrames] at same
  refine ⟨?_, ?_, cutFrames bytes, ?_, ?_, ?_, ?_, ?_⟩
  · intro payload buffer
    by_cases empty : payload = []
    · rw [if_pos empty, empty]
      rfl
    · have some_byte : payload.length ≠ 0 := mt List.length_eq_zero_iff.mp empty
      rw [if_neg empty]
      by_cases large : frameLimit < payload.length
      · unfold appendFrame checkLength
        rw [if_pos large, if_neg some_byte, if_pos large]
      · rw [if_neg large]
        exact appendFrame_of_framable ⟨empty, Nat.not_lt.mp large⟩ buffer
  · intro cut
    have accepted : ∀ payload ∈ payloads.filter Framable, Framable payload := fun payload member =>
      of_decide_eq_true (List.mem_filter.mp member).2
    have nothing : splitFrame [] = .ok none := rfl
    have cutAll := cutOnto_frames accepted [] []
    rw [List.append_nil, List.append_nil, cutOnto_of_none nothing, List.reverse_reverse] at cutAll
    rw [drains_iff, appendAll_eq, List.nil_append, cutFrames, cutAll]
  · exact fun other => drains_iff
  · rw [same, appendAll_eq, filter_framable all, List.nil_append]
    exact whole.symm
  · intro frame member
    have framable := all frame (same ▸ member)
    exact ⟨List.length_pos_iff.mpr framable.1, framable.2⟩
  · have last := splitFrame_rest_cutOnto [] bytes
    rw [← cutFrames] at last
    rw [detachFrame_eq, last]
    cases (cutFrames bytes).stop <;> rfl
  · exact fun e => stop_cutFrames_iff

/-- An empty payload in the middle is refused. -/
example : appendAll [[7], [], [8, 9]] [] = [0, 0, 0, 1, 7, 0, 0, 0, 2, 8, 9] := by decide

end MarketLink.Wire
