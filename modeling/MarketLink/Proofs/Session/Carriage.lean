import MarketLink.Proofs.Session.Calls
import MarketLink.Session.Gateway

set_option autoImplicit false

namespace MarketLink

open Wire

def Failure.ofConnection : Failure → Bool
  | .io _ | .protocol _ | .closed | .timeout => true
  | .cancelled | .tooManyRedirects _ | .unsupportedServerVersion _ | .api _ _ | .config _
  | .document _ | .internal _ => false

namespace Session

def Stroke.isFault : Stroke → Bool
  | .fault _ _ => true
  | .wake | .wakeLast | .chunk => false

namespace Link

variable {l : Link}

/-- Nothing more is taken from a link, read from it or written to it. -/
structure IsClosed (l : Link) : Prop where
  gate : l.gate.closing = true
  reading : l.reading = false
  writing : l.writing = .stopped

/-- A link of which nobody has asked that it be closed. -/
structure IsUp (l : Link) : Prop where
  gate : l.gate.closing = false
  shutdown : l.shutdown = false

/-- The writer has gone on, which neither the reader nor the gate notices. -/
structure WroteOn (l after : Link) : Prop where
  reading : after.reading = l.reading
  shutdown : after.shutdown = l.shutdown
  gate : after.gate = l.gate

theorem wroteOn_startWriting (l : Link) : WroteOn l l.startWriting := by
  unfold startWriting
  split <;> exact ⟨rfl, rfl, rfl⟩

theorem wroteOn_startLastWriting (l : Link) : WroteOn l l.startLastWriting := by
  unfold startLastWriting
  split <;> exact ⟨rfl, rfl, rfl⟩

/-- A writer that has set out writes all that is queued, however many chunks that takes. -/
theorem drain_of_draining {last : Bool} (moving : l.writing = .draining last) :
    l.drain =
      { l with
        outbound := []
        written := l.written ++ l.outbound
        writing := if last then .stopped else .resting } := by
  fun_induction drain l with
  | case1 l found draining done =>
    cases moving.symm.trans draining
    have empty : l.outbound = [] := List.isEmpty_iff.mp done
    simp only [writeChunk, moving, empty, List.isEmpty_nil, ↓reduceIte, List.append_nil]
  | case2 l found draining more ih =>
    have chunk : l.writeChunk =
        { l with
          outbound := l.outbound.drop chunkLimit
          written := l.written ++ l.outbound.take chunkLimit } := by
      simp only [writeChunk, moving, more, Bool.false_eq_true, ↓reduceIte]
    rw [ih (by rw [chunk]; exact moving), chunk]
    simp only [List.append_assoc, List.take_append_drop]
  | case3 l still => exact absurd moving (still last)

theorem drain_of_still (still : ∀ last, l.writing ≠ .draining last) : l.drain = l := by
  unfold drain
  split
  · rename_i last moving
    exact absurd moving (still last)
  · rfl

theorem drained (l : Link) :
    WroteOn l l.drain ∧ (l.drain.writing = .resting ∨ l.drain.writing = .stopped) ∧
      (l.writing ≠ .resting → l.writing ≠ .draining false → l.drain.writing = .stopped) := by
  cases writing : l.writing with
  | resting | stopped =>
    rw [drain_of_still (by simp [writing])]
    exact ⟨⟨rfl, rfl, rfl⟩, by simp [writing], by simp [writing]⟩
  | draining last =>
    rw [drain_of_draining writing]
    refine ⟨⟨rfl, rfl, rfl⟩, ?_, ?_⟩ <;> cases last <;> simp

theorem wroteOn_flush (l : Link) : WroteOn l l.flush := by
  have out := wroteOn_startWriting l
  have back := (drained l.startWriting).1
  exact ⟨back.reading.trans out.reading, back.shutdown.trans out.shutdown,
    back.gate.trans out.gate⟩

/-- Closing a link stops both directions, whatever it was about. -/
theorem isClosed_close (l : Link) : l.close.IsClosed := by
  let told := ({ l with gate := l.gate.beginClose.1, shutdown := true } : Link).stopReading
  have out := wroteOn_flush told
  have rests := (drained told.startWriting).2.1
  have again := wroteOn_startLastWriting told.flush
  obtain ⟨gone, _, stopped⟩ := drained told.flush.startLastWriting
  refine ⟨?_, ?_, stopped ?_ ?_⟩
  · rw [close, gone.gate, again.gate, out.gate]
    rfl
  · rw [close, gone.reading, again.reading, out.reading]
    rfl
  all_goals
    rcases rests with resting | stopped
    · rw [startLastWriting, if_pos ⟨resting, out.shutdown⟩]
      simp
    · have stays : told.flush.startLastWriting = told.flush :=
        if_neg fun possible => by cases possible.1.symm.trans stopped
      rw [stays, flush, stopped]
      simp

/-- Whether the bytes of a stream have been written, are still to be, or were lost when the writer
broke off. -/
structure Ships (l : Link) (stream : Bytes) (broken : Bool) : Prop where
  front : l.written <+: stream
  whole : l.writing ≠ .stopped → stream = l.written ++ l.outbound
  woken : l.writing = .resting → l.outbound = [] ∨ l.woken = true
  last : l.writing = .draining true → l.shutdown = true
  stopped : l.writing = .stopped → broken = false → l.shutdown = true ∧ stream = l.written
  shut : l.shutdown = true → l.gate.closing = true

section Ships

variable {stream : Bytes} {broken : Bool}

theorem ships_blank : ({} : Link).Ships [] false :=
  ⟨List.prefix_rfl, fun _ => rfl, fun _ => .inl rfl, nofun, nofun, nofun⟩

theorem Ships.congr {after : Link} (ships : l.Ships stream broken)
    (same : (after.written, after.outbound, after.writing, after.woken, after.shutdown,
      after.gate) =
      (l.written, l.outbound, l.writing, l.woken, l.shutdown, l.gate)) :
    after.Ships stream broken := by
  simp only [Prod.mk.injEq] at same
  obtain ⟨written, outbound, writing, woken, shutdown, gate⟩ := same
  refine ⟨?_, ?_, ?_, ?_, ?_, ?_⟩ <;> simp only [written, outbound, writing, woken, shutdown, gate]
  · exact ships.front
  · exact ships.whole
  · exact ships.woken
  · exact ships.last
  · exact ships.stopped
  · exact ships.shut

theorem Ships.shutting (ships : l.Ships stream broken) :
    ({ l with gate := l.gate.beginClose.1, shutdown := true } : Link).Ships stream broken :=
  ⟨ships.front, ships.whole, ships.woken, fun _ => rfl,
    fun stopped intact => ⟨rfl, (ships.stopped stopped intact).2⟩, fun _ => rfl⟩

/-- A link that is not shut takes a frame behind the others. -/
theorem Ships.queue (ships : l.Ships stream broken) (up : l.shutdown = false) (frame : Bytes) :
    ({ l with outbound := l.outbound ++ frame, woken := true } : Link).Ships
      (stream ++ frame) broken := by
  refine ⟨ships.front.trans (List.prefix_append _ _), ?_, fun _ => .inr rfl, ships.last, ?_,
    ships.shut⟩
  · intro running
    rw [ships.whole running, List.append_assoc]
  · intro stopped intact
    cases up.symm.trans (ships.stopped stopped intact).1

theorem Ships.startWriting (ships : l.Ships stream broken) :
    l.startWriting.Ships stream broken := by
  unfold Link.startWriting
  split
  · rename_i rests
    have whole := ships.whole (by rw [rests.1]; nofun)
    exact ⟨ships.front, fun _ => whole, nofun, nofun, nofun, ships.shut⟩
  · exact ships

theorem Ships.startLastWriting (ships : l.Ships stream broken) :
    l.startLastWriting.Ships stream broken := by
  unfold Link.startLastWriting
  split
  · rename_i rests
    have whole := ships.whole (by rw [rests.1]; nofun)
    exact ⟨ships.front, fun _ => whole, nofun, fun _ => rests.2, nofun, ships.shut⟩
  · exact ships

theorem Ships.writeChunk (ships : l.Ships stream broken) :
    l.writeChunk.Ships stream broken := by
  unfold Link.writeChunk
  split
  · rename_i last moving
    have whole := ships.whole (by rw [moving]; nofun)
    split
    · rename_i done
      have empty : l.outbound = [] := List.isEmpty_iff.mp done
      refine ⟨ships.front, fun _ => whole, fun _ => .inl empty, ?_, ?_, ships.shut⟩
      · cases last <;> nofun
      · intro stopped _
        cases last with
        | false => cases stopped
        | true => exact ⟨ships.last moving, by rw [whole, empty, List.append_nil]⟩
    · have chunked : stream =
          (l.written ++ l.outbound.take chunkLimit) ++ l.outbound.drop chunkLimit := by
        rw [List.append_assoc, List.take_append_drop, whole]
      refine ⟨⟨_, chunked.symm⟩, fun _ => chunked, ?_, ships.last, ?_, ships.shut⟩
      · intro rests
        cases moving.symm.trans rests
      · intro stopped
        cases moving.symm.trans stopped
  · exact ships

theorem Ships.writeFault (ships : l.Ships stream broken) (count : Nat) (failure : Failure) :
    (l.writeFault count failure).Ships stream true := by
  have torn : ∀ last, l.writing = .draining last →
      ({ l with
        outbound := l.outbound.drop chunkLimit
        written := l.written ++ (l.outbound.take chunkLimit).take count
        writing := .stopped } : Link).Ships stream true := by
    intro last moving
    refine ⟨?_, fun running => absurd rfl running, nofun, nofun, nofun, ships.shut⟩
    have front : (l.outbound.take chunkLimit).take count <+: l.outbound :=
      (List.take_prefix _ _).trans (List.take_prefix _ _)
    rw [ships.whole (by rw [moving]; nofun)]
    exact List.prefix_append_right_inj l.written |>.mpr front
  unfold Link.writeFault
  split
  · rename_i last moving
    dsimp only
    split
    · exact torn last moving
    · unfold raise
      split
      · exact torn last moving
      · exact (torn last moving).congr rfl
  · exact ⟨ships.front, ships.whole, ships.woken, ships.last, nofun, ships.shut⟩

theorem Ships.write (ships : l.Ships stream broken) (stroke : Stroke) :
    (l.write stroke).Ships stream (broken || stroke.isFault) := by
  cases stroke with
  | wake => exact (Bool.or_false broken).symm ▸ ships.startWriting
  | wakeLast => exact (Bool.or_false broken).symm ▸ ships.startLastWriting
  | chunk => exact (Bool.or_false broken).symm ▸ ships.writeChunk
  | fault count fault? => exact (Bool.or_true broken).symm ▸ ships.writeFault count _

theorem Ships.drain (ships : l.Ships stream broken) : l.drain.Ships stream broken := by
  fun_induction Link.drain l with
  | case1 l _ _ _ => exact ships.writeChunk
  | case2 l _ _ _ ih => exact ih ships.writeChunk
  | case3 => exact ships

theorem Ships.flush (ships : l.Ships stream broken) : l.flush.Ships stream broken :=
  ships.startWriting.drain

theorem Ships.written_flush (ships : l.Ships stream false) : l.flush.written = stream := by
  rcases (drained l.startWriting).2.1 with rests | stopped
  · have running : l.flush.writing ≠ .stopped := by
      rw [Link.flush, rests]
      decide
    have whole := ships.flush.whole running
    have empty : l.flush.outbound = [] := by
      cases writing : l.writing with
      | stopped =>
        rw [Link.startWriting, if_neg (by simp [writing]), drain_of_still (by simp [writing]),
          writing] at rests
        cases rests
      | draining last =>
        rw [Link.flush, Link.startWriting, if_neg (by simp [writing]), drain_of_draining writing]
      | resting =>
        by_cases woken : l.woken = true
        · rw [Link.flush, Link.startWriting, if_pos ⟨writing, woken⟩, drain_of_draining rfl]
        · have still : l.startWriting = l := if_neg fun possible => woken possible.2
          rw [Link.flush, still, drain_of_still (by simp [writing])]
          exact (ships.woken writing).resolve_right woken
    rw [whole, empty, List.append_nil]
  · exact (ships.flush.stopped stopped rfl).2.symm

theorem Ships.close (ships : l.Ships stream broken) : l.close.Ships stream broken := by
  have told : ({ l with gate := l.gate.beginClose.1, shutdown := true } : Link).stopReading.Ships
      stream broken := ships.shutting.congr rfl
  exact told.flush.startLastWriting.drain

theorem Ships.written_close (ships : l.Ships stream false) : l.close.written = stream :=
  (ships.close.stopped (isClosed_close l).writing rfl).2.symm

end Ships

theorem fault_raise {before : Link} {own failure : Failure}
    (raised : (before.raise own).fault = some failure) (same : before.fault = l.fault)
    (usual : own.ofConnection = true) : l.fault = some failure ∨ failure.ofConnection = true := by
  rw [← same]
  unfold raise at raised
  split at raised
  · exact .inl raised
  · have raised : before.fault.or (some own) = some failure := raised
    cases kept : before.fault with
    | some first =>
      rw [kept] at raised
      exact .inl raised
    | none =>
      rw [kept] at raised
      cases raised
      exact .inr usual

/-- A failure that a link keeps while the writer goes on is one of the connection, or an old one. -/
theorem fault_write {stroke : Stroke} {failure : Failure}
    (raised : (l.write stroke).fault = some failure) :
    l.fault = some failure ∨ failure.ofConnection = true := by
  cases stroke with
  | wake | wakeLast =>
    simp only [write, startWriting, startLastWriting] at raised
    split at raised <;> exact .inl raised
  | chunk =>
    rw [write, (written_writeChunk l).fault] at raised
    exact .inl raised
  | fault count fault? =>
    simp only [write, writeFault] at raised
    split at raised
    · split at raised
      · exact .inl raised
      · exact fault_raise raised rfl (by cases fault? <;> rfl)
    · exact .inl raised

theorem aside_write (l : Link) (stroke : Stroke) :
    ((l.write stroke).buffer, (l.write stroke).arrived, (l.write stroke).reading,
      (l.write stroke).shutdown, (l.write stroke).gate) =
      (l.buffer, l.arrived, l.reading, l.shutdown, l.gate) := by
  cases stroke with
  | wake =>
    unfold write startWriting
    dsimp only
    split <;> rfl
  | wakeLast =>
    unfold write startLastWriting
    dsimp only
    split <;> rfl
  | chunk =>
    unfold write writeChunk
    dsimp only
    split
    · split <;> rfl
    · rfl
  | fault count fault? =>
    unfold write writeFault raise
    dsimp only
    split
    · split
      · rfl
      · split <;> rfl
    · rfl

theorem fault_write_of_intact {stroke : Stroke} (intact : stroke.isFault = false) :
    (l.write stroke).fault = l.fault := by
  cases stroke with
  | wake => exact (written_startWriting l).fault
  | wakeLast =>
    unfold write startLastWriting
    dsimp only
    split <;> rfl
  | chunk => exact (written_writeChunk l).fault
  | fault count fault? => cases intact

theorem fault_close (l : Link) : l.close.fault = l.fault := by
  have last : ∀ l : Link, l.startLastWriting.fault = l.fault := by
    intro l
    unfold startLastWriting
    split <;> rfl
  rw [close, (written_drain _).fault, last, (written_flush _).fault, stopReading]
  split <;> rfl

/-- Taking leaves the link as it is but for the payload. -/
theorem take_fst (l : Link) : ∃ arrived, l.take.1 = { l with arrived } := by
  unfold take
  split
  · exact ⟨_, rfl⟩
  · split
    · exact ⟨_, rfl⟩
    · split <;> exact ⟨_, rfl⟩

/-- A link has received what another one has, of which it has given out some payloads. -/
structure Receives (l inbound : Link) (taken : List Bytes) (broken : Bool) : Prop where
  buffer : l.buffer = inbound.buffer
  arrived : inbound.arrived = taken ++ l.arrived
  reading : l.reading = inbound.reading
  fault : broken = false → l.fault = inbound.fault

section Meet

variable {inbound : Link} {taken : List Bytes} {broken : Bool}

theorem Receives.raise (receives : l.Receives inbound taken broken) (failure : Failure) :
    (l.raise failure).Receives (inbound.raise failure) taken broken := by
  unfold Link.raise
  split
  · exact receives
  · refine ⟨receives.buffer, receives.arrived, receives.reading, fun intact => ?_⟩
    dsimp only
    rw [receives.fault intact]

/-- An act of the gateway reaches both in the same way, as long as neither is told to stop. -/
theorem Receives.meet (receives : l.Receives inbound taken broken) (up : l.shutdown = false)
    (also : inbound.shutdown = false) (act : Act) :
    (l.meet act).Receives (inbound.meet act) taken broken := by
  have fed : ∀ (buffer : Bytes) (frames : List Bytes) (reading : Bool),
      ({ l with buffer, arrived := l.arrived ++ frames, reading } : Link).Receives
        { inbound with buffer, arrived := inbound.arrived ++ frames, reading } taken broken :=
    fun buffer frames reading =>
      ⟨rfl, by rw [receives.arrived, List.append_assoc], rfl, receives.fault⟩
  have deaf : ∀ buffer : Bytes, ({ l with buffer, reading := false } : Link).Receives
      { inbound with buffer, reading := false } taken broken :=
    fun buffer => ⟨rfl, receives.arrived, rfl, receives.fault⟩
  cases act with
  | send payload | sendRaw bytes =>
    simp only [Link.meet, receive, receives.reading, receives.buffer]
    split
    · split
      · exact fed _ _ _
      · exact (fed _ _ _).raise _
    · exact receives
  | finish =>
    simp only [Link.meet, receiveEnd, receives.reading, receives.buffer]
    split
    · split
      · exact deaf _
      · exact (deaf _).raise _
    · exact receives
  | reset =>
    simp only [Link.meet, receiveFault, receives.reading]
    split
    · rw [if_neg (ne_true_of_eq_false up), if_neg (ne_true_of_eq_false also), receives.buffer]
      exact (deaf _).raise _
    · exact receives

/-- What an act of the gateway can change, and what it leaves. -/
structure Met (l after : Link) : Prop where
  sending : (after.written, after.outbound, after.writing, after.woken, after.shutdown,
    after.gate) =
    (l.written, l.outbound, l.writing, l.woken, l.shutdown, l.gate)
  arrived : l.arrived <+: after.arrived
  deaf : l.reading = false → after = l
  kept : ∀ failure, l.fault = some failure → after.fault = some failure
  fault : ∀ failure, after.fault = some failure →
    l.fault = some failure ∨ failure.ofConnection = true

theorem met_meet (l : Link) (act : Act) : Met l (l.meet act) := by
  -- raising a fault is all that is done behind a change of what came in
  have read : ∀ (buffer : Bytes) (frames : List Bytes) (failure : Failure) (reading : Bool),
      failure.ofConnection = true → l.reading = true →
      Met l (({ l with buffer, arrived := l.arrived ++ frames, reading } : Link).raise
      failure) := by
    intro buffer frames failure reading own running
    refine ⟨?_, ?_, ?_, ?_, fun found raised => fault_raise raised rfl own⟩
    · unfold raise
      split <;> rfl
    · unfold raise
      split <;> exact List.prefix_append _ _
    · intro deaf
      cases running.symm.trans deaf
    · intro found kept
      unfold raise
      split
      · exact kept
      · exact congrArg (Option.or · _) kept
  have change : ∀ (buffer : Bytes) (frames : List Bytes) (reading : Bool), l.reading = true →
      Met l { l with buffer, arrived := l.arrived ++ frames, reading } := by
    intro buffer frames reading running
    refine ⟨rfl, List.prefix_append _ _, ?_, fun _ => id, fun _ => .inl⟩
    intro deaf
    cases running.symm.trans deaf
  have same : Met l l := ⟨rfl, List.prefix_rfl, fun _ => rfl, fun _ => id, fun _ => .inl⟩
  have alone : l.arrived = l.arrived ++ [] := (List.append_nil _).symm
  cases act with
  | send payload | sendRaw bytes =>
    simp only [meet, receive]
    split
    · rename_i running
      split
      · exact change _ _ _ running
      · exact read _ _ _ _ rfl running
    · exact same
  | finish =>
    simp only [meet, receiveEnd]
    split
    · rename_i running
      rw [alone]
      split
      · exact change _ _ _ running
      · exact read _ _ _ _ rfl running
    · exact same
  | reset =>
    simp only [meet, receiveFault]
    split
    · rename_i running
      rw [alone]
      split
      · exact change _ _ _ running
      · exact read _ _ _ _ rfl running
    · exact same

end Meet

end Link

end Session

end MarketLink
