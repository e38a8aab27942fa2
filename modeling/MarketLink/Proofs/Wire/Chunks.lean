import MarketLink.Session.Link

set_option autoImplicit false

namespace MarketLink.Wire

open Text

theorem splitFrame_eq_error_iff {buffer : Bytes} {e : WireError} :
    splitFrame buffer = .error e ↔
      ∃ a b c d rest, buffer = a :: b :: c :: d :: rest ∧
        checkLength (announced a b c d) = .error e := by
  unfold splitFrame
  split
  · rename_i a b c d rest
    split
    · rename_i found refused
      constructor
      · intro same
        cases same
        exact ⟨a, b, c, d, rest, rfl, refused⟩
      · rintro ⟨_, _, _, _, _, same, again⟩
        cases same
        rw [refused] at again
        cases again
        rfl
    · rename_i accepted
      constructor
      · intro same
        cases same
      · rintro ⟨_, _, _, _, _, same, refused⟩
        cases same
        rw [accepted] at refused
        cases refused
  · rename_i short
    constructor
    · intro same
      cases same
    · rintro ⟨a, b, c, d, rest, same, _⟩
      exact absurd same (short a b c d rest)

theorem splitFrame_eq_frame_iff {buffer payload after : Bytes} :
    splitFrame buffer = .ok (some (payload, after)) ↔
      ∃ a b c d, buffer = a :: b :: c :: d :: (payload ++ after) ∧
        checkLength (announced a b c d) = .ok () ∧ payload.length = announced a b c d := by
  unfold splitFrame
  split
  · rename_i a b c d rest
    split
    · rename_i refused
      constructor
      · intro same
        cases same
      · rintro ⟨_, _, _, _, same, accepted, _⟩
        cases same
        rw [refused] at accepted
        cases accepted
    · rename_i accepted
      rw [Except.ok.injEq, takePayload_eq_some_iff]
      constructor
      · rintro ⟨long, rfl⟩
        exact ⟨a, b, c, d, rfl, accepted, long⟩
      · rintro ⟨_, _, _, _, same, _, long⟩
        cases same
        exact ⟨long, rfl⟩
  · rename_i short
    constructor
    · intro same
      cases same
    · rintro ⟨a, b, c, d, same, _⟩
      exact absurd same (short a b c d _)

theorem pos_of_checkLength {length : Nat} (accepted : checkLength length = .ok ()) :
    0 < length := by
  unfold checkLength at accepted
  split at accepted
  · cases accepted
  · omega

theorem checkLength_eq_error {length : Nat} {e : WireError}
    (refused : checkLength length = .error e) :
    e = .emptyFrame ∨ e = .frameTooLarge length ∧ frameLimit < length := by
  unfold checkLength at refused
  split at refused
  · cases refused
    exact Or.inl rfl
  · split at refused
    · rename_i long
      cases refused
      exact Or.inr ⟨rfl, long⟩
    · cases refused

theorem length_of_frame {buffer payload after : Bytes}
    (found : splitFrame buffer = .ok (some (payload, after))) :
    buffer.length = 4 + payload.length + after.length ∧ 1 ≤ payload.length := by
  obtain ⟨a, b, c, d, rfl, accepted, long⟩ := splitFrame_eq_frame_iff.mp found
  have filled := pos_of_checkLength accepted
  simp only [List.length_cons, List.length_append]
  omega

theorem splitFrame_append_of_error {buffer : Bytes} {e : WireError}
    (refused : splitFrame buffer = .error e) (more : Bytes) :
    splitFrame (buffer ++ more) = .error e := by
  obtain ⟨a, b, c, d, rest, rfl, bad⟩ := splitFrame_eq_error_iff.mp refused
  exact splitFrame_eq_error_iff.mpr ⟨a, b, c, d, rest ++ more, rfl, bad⟩

theorem splitFrame_append_of_frame {buffer payload after : Bytes}
    (found : splitFrame buffer = .ok (some (payload, after))) (more : Bytes) :
    splitFrame (buffer ++ more) = .ok (some (payload, after ++ more)) := by
  obtain ⟨a, b, c, d, rfl, accepted, long⟩ := splitFrame_eq_frame_iff.mp found
  refine splitFrame_eq_frame_iff.mpr ⟨a, b, c, d, ?_, accepted, long⟩
  simp only [List.cons_append, List.append_assoc]

theorem cutOnto_eq (done : List Bytes) (buffer : Bytes) :
    cutOnto done buffer =
      match splitFrame buffer with
      | .error e => ⟨done.reverse, buffer, some e⟩
      | .ok none => ⟨done.reverse, buffer, none⟩
      | .ok (some (payload, after)) => cutOnto (payload :: done) after := by
  rw [cutOnto]
  split <;> (rename_i found; rw [found])

theorem cutOnto_of_error {buffer : Bytes} {e : WireError} (refused : splitFrame buffer = .error e)
    (done : List Bytes) : cutOnto done buffer = ⟨done.reverse, buffer, some e⟩ := by
  rw [cutOnto_eq, refused]

theorem cutOnto_of_none {buffer : Bytes} (missing : splitFrame buffer = .ok none)
    (done : List Bytes) : cutOnto done buffer = ⟨done.reverse, buffer, none⟩ := by
  rw [cutOnto_eq, missing]

theorem cutOnto_of_frame {buffer payload after : Bytes}
    (found : splitFrame buffer = .ok (some (payload, after))) (done : List Bytes) :
    cutOnto done buffer = cutOnto (payload :: done) after := by
  rw [cutOnto_eq done buffer, found]

theorem cutOnto_append_done (done front : List Bytes) (buffer : Bytes) :
    cutOnto (done ++ front) buffer =
      { cutOnto done buffer with frames := front.reverse ++ (cutOnto done buffer).frames } := by
  fun_induction cutOnto done buffer with
  | case1 done buffer e refused => rw [cutOnto_of_error refused, List.reverse_append]
  | case2 done buffer missing => rw [cutOnto_of_none missing, List.reverse_append]
  | case3 done buffer payload after found ih => rw [cutOnto_of_frame found, ← ih, List.cons_append]

/-- The loop over a buffer with more bytes behind it goes on where the loop over the buffer
stopped. -/
theorem cutOnto_append (done : List Bytes) (buffer more : Bytes) :
    cutOnto done (buffer ++ more) =
      match (cutOnto done buffer).stop with
      | some e => ⟨(cutOnto done buffer).frames, (cutOnto done buffer).rest ++ more, some e⟩
      | none =>
        cutOnto (cutOnto done buffer).frames.reverse ((cutOnto done buffer).rest ++ more) := by
  fun_induction cutOnto done buffer with
  | case1 done buffer e refused => rw [cutOnto_of_error (splitFrame_append_of_error refused more)]
  -- no whole frame yet: the loop over the longer buffer starts where this one gave up
  | case2 done buffer missing => rw [List.reverse_reverse]
  | case3 done buffer payload after found ih =>
    rw [cutOnto_of_frame (splitFrame_append_of_frame found more)]
    exact ih

theorem stop_cutOnto (done : List Bytes) (buffer : Bytes) {e : WireError}
    (stopped : (cutOnto done buffer).stop = some e) :
    e = .emptyFrame ∨ ∃ length, e = .frameTooLarge length ∧ frameLimit < length := by
  fun_induction cutOnto done buffer with
  | case1 done buffer found refused =>
    cases stopped
    obtain ⟨a, b, c, d, _, _, bad⟩ := splitFrame_eq_error_iff.mp refused
    exact (checkLength_eq_error bad).imp_right fun large => ⟨_, large⟩
  | case2 done buffer missing => cases stopped
  | case3 done buffer payload after found ih => exact ih stopped

/-- The loop ends: each frame takes at least five bytes off the buffer. -/
theorem length_cutOnto (done : List Bytes) (buffer : Bytes) :
    5 * (cutOnto done buffer).frames.length + (cutOnto done buffer).rest.length ≤
      5 * done.length + buffer.length := by
  fun_induction cutOnto done buffer with
  | case1 done buffer e refused => simp only [List.length_reverse, Nat.le_refl]
  | case2 done buffer missing => simp only [List.length_reverse, Nat.le_refl]
  | case3 done buffer payload after found ih =>
    have shorter := length_of_frame found
    rw [List.length_cons] at ih
    omega

theorem length_cutFrames (buffer : Bytes) :
    5 * (cutFrames buffer).frames.length ≤ buffer.length := by
  have bound := length_cutOnto [] buffer
  rw [List.length_nil, ← cutFrames] at bound
  omega

theorem splitFrame_rest_cutOnto (done : List Bytes) (buffer : Bytes) :
    splitFrame (cutOnto done buffer).rest =
      match (cutOnto done buffer).stop with
      | none => .ok none
      | some e => .error e := by
  fun_induction cutOnto done buffer with
  | case1 done buffer e refused => exact refused
  | case2 done buffer missing => exact missing
  | case3 done buffer payload after found ih => exact ih

namespace Cut

def blank : Cut := ⟨[], [], none⟩

/-- One more chunk comes in. It is appended to the bytes that are left, and frames are cut off
again; an error ends the run. -/
def feed (c : Cut) (chunk : Bytes) : Cut :=
  match c.stop with
  | some _ => c
  | none =>
    let more := cutFrames (c.rest ++ chunk)
    ⟨c.frames ++ more.frames, more.rest, more.stop⟩

/-- What chunk by chunk has come of bytes is what comes of them in one piece. Behind an error the
bytes that are left do not matter. -/
structure Agrees (c : Cut) (bytes : Bytes) : Prop where
  frames : c.frames = (cutFrames bytes).frames
  stop : c.stop = (cutFrames bytes).stop
  rest : c.stop = none → c.rest = (cutFrames bytes).rest

theorem agrees_blank : blank.Agrees [] := by
  have empty : cutFrames [] = blank := cutOnto_of_none rfl []
  refine ⟨?_, ?_, fun _ => ?_⟩ <;> rw [empty]

theorem Agrees.feed {c : Cut} {bytes : Bytes} (agrees : c.Agrees bytes) (chunk : Bytes) :
    (c.feed chunk).Agrees (bytes ++ chunk) := by
  have onward := cutOnto_append [] bytes chunk
  rw [← cutFrames, ← cutFrames, ← agrees.stop] at onward
  unfold Cut.feed
  cases stopped : c.stop with
  | some e =>
    rw [stopped] at onward
    refine ⟨?_, ?_, fun running => ?_⟩
    · rw [onward]
      exact agrees.frames
    · rw [onward]
      exact stopped
    · rw [stopped] at running
      cases running
  | none =>
    rw [stopped, ← agrees.rest stopped, ← agrees.frames] at onward
    -- The loop goes on behind the frames that were cut off before.
    have behind := cutOnto_append_done [] c.frames.reverse (c.rest ++ chunk)
    rw [List.nil_append, List.reverse_reverse] at behind
    refine ⟨?_, ?_, fun _ => ?_⟩ <;> rw [onward, behind] <;> rfl

theorem Agrees.feed_all {c : Cut} {bytes : Bytes} (agrees : c.Agrees bytes) (chunks : List Bytes) :
    (chunks.foldl Cut.feed c).Agrees (bytes ++ chunks.flatten) := by
  induction chunks generalizing c bytes with
  | nil =>
    rw [List.flatten_nil, List.append_nil]
    exact agrees
  | cons chunk rest ih =>
    rw [List.foldl_cons, List.flatten_cons, ← List.append_assoc]
    exact ih (agrees.feed chunk)

end Cut

end MarketLink.Wire

namespace MarketLink.Session

open Text Wire

namespace Link

/-- A link that was reading with an empty buffer, after bytes have come in of which this was cut. -/
def after (l : Link) (c : Cut) : Link :=
  let read := { l with buffer := c.rest, arrived := l.arrived ++ c.frames }
  match c.stop with
  | none => read
  | some e => { read with reading := false }.raise (.protocol e)

theorem reading_raise (l : Link) (failure : Failure) : (l.raise failure).reading = l.reading := by
  unfold raise
  split <;> rfl

theorem after_blank {l : Link} (empty : l.buffer = []) : l.after Cut.blank = l := by
  simp only [after, Cut.blank, List.append_nil, ← empty]

theorem receive_after {l : Link} (reading : l.reading = true) (c : Cut) (chunk : Bytes) :
    (l.after c).receive chunk = l.after (c.feed chunk) := by
  unfold after Cut.feed receive
  cases stopped : c.stop with
  | some e =>
    have ended := reading_raise
      { l with buffer := c.rest, arrived := l.arrived ++ c.frames, reading := false } (.protocol e)
    simp only [ended, stopped, Bool.false_eq_true, ↓reduceIte]
  | none =>
    simp only [reading, ↓reduceIte]
    cases (cutFrames (c.rest ++ chunk)).stop <;> simp only [List.append_assoc]

theorem receive_all {l : Link} (reading : l.reading = true) (c : Cut) (chunks : List Bytes) :
    chunks.foldl receive (l.after c) = l.after (chunks.foldl Cut.feed c) := by
  induction chunks generalizing c with
  | nil => rfl
  | cons chunk rest ih => rw [List.foldl_cons, List.foldl_cons, receive_after reading, ih]

/-- What can be noticed of a link does not show the bytes behind an error. -/
theorem after_congr (l : Link) {c d : Cut} (frames : c.frames = d.frames) (stop : c.stop = d.stop) :
    (l.after c).arrived = (l.after d).arrived ∧ (l.after c).fault = (l.after d).fault ∧
      (l.after c).reading = (l.after d).reading := by
  unfold after
  rw [frames, stop]
  cases d.stop <;> exact ⟨rfl, rfl, rfl⟩

/-- However bytes are cut into chunks, the loop over the chunks finds the frames that are found in
the bytes as one piece, and stops without an error or at the same one; so does a link that reads
them. Each frame shortens the buffer by its header and its payload, so the loop over one buffer
comes to where there is no frame, or an error. -/
theorem chunks_give_the_frames_of_the_whole (chunks : List Bytes) :
    let pieces := chunks.foldl Cut.feed Cut.blank
    let whole := cutFrames chunks.flatten
    (pieces.frames = whole.frames ∧ pieces.stop = whole.stop ∧
      (whole.stop = none → pieces.rest = whole.rest)) ∧
    (∀ e, whole.stop = some e →
      e = .emptyFrame ∨ ∃ length, e = .frameTooLarge length ∧ frameLimit < length) ∧
    (∀ buffer payload after, splitFrame buffer = .ok (some (payload, after)) →
      buffer.length = 4 + payload.length + after.length ∧ 1 ≤ payload.length) ∧
    (∀ buffer, 5 * (cutFrames buffer).frames.length ≤ buffer.length ∧
      splitFrame (cutFrames buffer).rest =
        match (cutFrames buffer).stop with
        | none => .ok none
        | some e => .error e) ∧
    ∀ l : Link, l.reading = true → l.buffer = [] →
      (chunks.foldl receive l).arrived = (l.receive chunks.flatten).arrived ∧
        (chunks.foldl receive l).fault = (l.receive chunks.flatten).fault ∧
        (chunks.foldl receive l).reading = (l.receive chunks.flatten).reading := by
  intro pieces whole
  have agrees : pieces.Agrees chunks.flatten := Cut.agrees_blank.feed_all chunks
  have once : (Cut.blank.feed chunks.flatten).Agrees chunks.flatten :=
    Cut.agrees_blank.feed chunks.flatten
  refine ⟨⟨agrees.frames, agrees.stop, ?_⟩, ?_, ?_, ?_, ?_⟩
  · intro complete
    exact agrees.rest (agrees.stop.trans complete)
  · intro e stopped
    exact stop_cutOnto [] _ stopped
  · intro buffer payload after found
    exact length_of_frame found
  · intro buffer
    exact ⟨length_cutFrames buffer, splitFrame_rest_cutOnto [] buffer⟩
  · intro l reading empty
    have inPieces := receive_all reading Cut.blank chunks
    have atOnce := receive_after reading Cut.blank chunks.flatten
    rw [after_blank empty] at inPieces atOnce
    rw [inPieces, atOnce]
    exact l.after_congr (agrees.frames.trans once.frames.symm) (agrees.stop.trans once.stop.symm)

/-- The cuts go through a header and through a payload. -/
example :
    [[0, 0], [0, 2, 7], [], [8, 0, 0, 0, 0, 9]].foldl Cut.feed Cut.blank =
      ⟨[[7, 8]], [0, 0, 0, 0, 9], some .emptyFrame⟩ := by
  cbv

end Link

end MarketLink.Session
