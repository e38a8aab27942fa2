import MarketLink.Proofs.Session.Calls
import MarketLink.Proofs.Session.Outflow

set_option autoImplicit false

namespace MarketLink.Session

open Wire

namespace Link

/-- The reader has gone on, and the writing side, the gate and the wish to stop are as they were. -/
structure ReadOn (l after : Link) : Prop where
  outbound : after.outbound = l.outbound
  written : after.written = l.written
  writing : after.writing = l.writing
  woken : after.woken = l.woken
  gate : after.gate = l.gate
  shutdown : after.shutdown = l.shutdown
  reading : l.reading = false → after.reading = false

theorem ReadOn.trans {first second third : Link} (before : ReadOn first second)
    (next : ReadOn second third) : ReadOn first third :=
  ⟨next.outbound.trans before.outbound, next.written.trans before.written,
    next.writing.trans before.writing, next.woken.trans before.woken, next.gate.trans before.gate,
    next.shutdown.trans before.shutdown, fun ended => next.reading (before.reading ended)⟩

theorem readOn_raise (l : Link) (failure : Failure) : ReadOn l (l.raise failure) := by
  unfold raise
  split <;> exact ⟨rfl, rfl, rfl, rfl, rfl, rfl, id⟩

theorem readOn_read (l : Link) (reading : Reading) : ReadOn l (l.read reading) := by
  have same : ReadOn l l := ⟨rfl, rfl, rfl, rfl, rfl, rfl, id⟩
  have ended : ReadOn l { l with reading := false } := ⟨rfl, rfl, rfl, rfl, rfl, rfl, fun _ => rfl⟩
  cases reading with
  | bytes bytes =>
    simp only [read, receive]
    split
    · split
      · exact ⟨rfl, rfl, rfl, rfl, rfl, rfl, id⟩
      · have cut : ReadOn l { l with
            buffer := (cutFrames (l.buffer ++ bytes)).rest
            arrived := l.arrived ++ (cutFrames (l.buffer ++ bytes)).frames
            reading := false } :=
          ⟨rfl, rfl, rfl, rfl, rfl, rfl, fun _ => rfl⟩
        exact cut.trans (readOn_raise _ _)
    · exact same
  | finish =>
    simp only [read, receiveEnd]
    split
    · split
      · exact ended
      · exact ended.trans (readOn_raise _ _)
    · exact same
  | fault fault =>
    simp only [read, receiveFault]
    split
    · split
      · exact ended
      · exact ended.trans (readOn_raise _ _)
    · exact same
  | stop =>
    simp only [read, stopReading]
    split
    · exact ended
    · exact same

end Link

/-- The connection is in use: senders find the link, and its writer goes on. -/
structure Up (s : Session) : Prop where
  attached : s.attached = true
  gate : s.link.gate = {}
  shutdown : s.link.shutdown = false
  writing : s.link.writing = .resting ∨ s.link.writing = .draining false
  woken : s.link.outbound ≠ [] → s.link.woken = true ∨ s.link.writing = .draining false

namespace Outflow

/-- The writer has set out. -/
def Draining (w : Outflow) : Prop := ∃ last, w.session.link.writing = .draining last

def isInside (w : Outflow) : Bool := w.holder.any fun send => send.2.isInside

def holding (w : Outflow) : List Bytes := (w.holder.map Prod.fst).toList

/-- What holds between moves of the sends and of the end of the connection. -/
structure Locked (w : Outflow) : Prop where
  attached : w.session.attached = !w.ending.isDetached
  found : ∀ frame sending, w.holder = some (frame, sending) → sending.hasLink = true →
    w.session.attached = true
  guards : w.session.link.gate.active = if w.isInside then 1 else 0
  shut : w.session.link.gate.closing = w.ending.isShut
  shutdown : w.session.link.shutdown = w.ending.isStopping
  order : w.locked = w.returned.map Prod.fst ++ w.holding

/-- What holds between moves of the writer. -/
structure Writes (w : Outflow) : Prop where
  busy : w.chunk ≠ [] → w.Draining
  last : w.session.link.writing = .draining true → w.session.link.shutdown = true
  pending : w.session.link.outbound ≠ [] → w.session.link.writing ≠ .stopped →
    w.WakePending ∨ w.Draining
  closed : w.ending = .closed →
    w.session.link.reading = false ∧ w.session.link.writing = .stopped ∧ w.raising = none

theorem Writes.idle {w : Outflow} (writes : w.Writes)
    (stopped : w.session.link.writing = .stopped) : w.chunk = [] := by
  by_contra busy
  obtain ⟨last, draining⟩ := writes.busy busy
  cases stopped.symm.trans draining

/-- Neither the send that holds the lock nor the end of the connection has moved. -/
structure Aside (w after : Outflow) : Prop where
  attached : after.session.attached = w.session.attached
  gate : after.session.link.gate = w.session.link.gate
  shutdown : after.session.link.shutdown = w.session.link.shutdown
  holder : after.holder = w.holder
  locked : after.locked = w.locked
  returned : after.returned = w.returned
  ending : after.ending = w.ending

def Move.isTransport : Move → Bool
  | .wake | .wakeLast | .pick | .put _ | .fail _ | .raise | .read _ => true
  | .lock _ | .go | .lose _ | .proceed => false

variable {w : Outflow}

theorem aside_step {move : Move} (transport : move.isTransport = true) : Aside w (w.step move) := by
  have same : Aside w w := ⟨rfl, rfl, rfl, rfl, rfl, rfl, rfl⟩
  cases move with
  | lock | go | lose | proceed => cases transport
  | wake =>
    obtain ⟨reading, shutdown, gate⟩ := Link.wroteOn_startWriting w.session.link
    exact ⟨rfl, gate, shutdown, rfl, rfl, rfl, rfl⟩
  | wakeLast =>
    obtain ⟨reading, shutdown, gate⟩ := Link.wroteOn_startLastWriting w.session.link
    exact ⟨rfl, gate, shutdown, rfl, rfl, rfl, rfl⟩
  | pick =>
    simp only [step, pick]
    split
    · split <;> exact ⟨rfl, rfl, rfl, rfl, rfl, rfl, rfl⟩
    · exact same
  | put count => exact ⟨rfl, rfl, rfl, rfl, rfl, rfl, rfl⟩
  | fail failure =>
    simp only [step, fail]
    split
    · exact ⟨rfl, rfl, rfl, rfl, rfl, rfl, rfl⟩
    · exact same
  | raise =>
    simp only [step]
    split
    · have kept := Link.readOn_raise w.session.link
      exact ⟨rfl, (kept _).gate, (kept _).shutdown, rfl, rfl, rfl, rfl⟩
    · exact same
  | read reading =>
    have kept := Link.readOn_read w.session.link reading
    exact ⟨rfl, kept.gate, kept.shutdown, rfl, rfl, rfl, rfl⟩

theorem Locked.congr (locked : w.Locked) {after : Outflow} (aside : Aside w after) :
    after.Locked := by
  refine ⟨?_, ?_, ?_, ?_, ?_, ?_⟩
  · rw [aside.attached, aside.ending]
    exact locked.attached
  · rw [aside.holder, aside.attached]
    exact locked.found
  · rw [aside.gate, isInside, aside.holder]
    exact locked.guards
  · rw [aside.gate, aside.ending]
    exact locked.shut
  · rw [aside.shutdown, aside.ending]
    exact locked.shutdown
  · rw [aside.locked, aside.returned, holding, aside.holder]
    exact locked.order

/-- A step of a send leaves everything in place but its guard. -/
structure Behind (s : Session) (sending : Sending) (after : Session × Sending) : Prop where
  attached : after.1.attached = s.attached
  shut : after.1.link.gate.closing = s.link.gate.closing
  shutdown : after.1.link.shutdown = s.link.shutdown
  found : after.2.hasLink = true → sending.hasLink = true ∨ s.attached = true
  guards : s.link.gate.active = (if sending.isInside then 1 else 0) →
    after.1.link.gate.active = if after.2.isInside then 1 else 0

theorem behind_turn (s : Session) (frame : Bytes) (sending : Sending) :
    Behind s sending (sending.turn s frame) := by
  cases sending with
  | looking =>
    by_cases attached : s.attached = true
    · simp only [Sending.turn, attached, ↓reduceIte]
      exact ⟨rfl, rfl, rfl, fun _ => Or.inr attached, id⟩
    · simp only [Sending.turn, attached, Bool.false_eq_true, ↓reduceIte]
      exact ⟨rfl, rfl, rfl, nofun, id⟩
  | entering =>
    by_cases shut : s.link.gate.closing = true
    · simp only [Sending.turn, Gate.acquire, shut, ↓reduceIte]
      exact ⟨rfl, rfl, rfl, nofun, id⟩
    · simp only [Sending.turn, Gate.acquire, shut, Bool.false_eq_true, ↓reduceIte]
      have free : s.link.gate.closing = false := by simpa using shut
      exact ⟨rfl, free.symm, rfl, fun _ => Or.inl rfl, fun out => congrArg Nat.succ out⟩
  | checking =>
    simp only [Sending.turn]
    split <;> exact ⟨rfl, rfl, rfl, fun _ => Or.inl rfl, id⟩
  | queueing | waking => exact ⟨rfl, rfl, rfl, fun _ => Or.inl rfl, id⟩
  | leaving result => exact ⟨rfl, rfl, rfl, fun _ => Or.inl rfl, fun held => by
      simp [Sending.turn, Gate.release, held, Sending.isInside]⟩
  | returning result => exact ⟨rfl, rfl, rfl, Or.inl, id⟩

/-- What the send that holds the lock does next: it gives the lock back, or goes on behind it. -/
theorem go_cases (w : Outflow) :
    (w.holder = none ∧ w.go = w) ∨
    (∃ frame result, w.holder = some (frame, .returning result) ∧
      w.go = { w with holder := none, returned := w.returned ++ [(frame, result)] }) ∨
    ∃ frame sending, w.holder = some (frame, sending) ∧ (∀ result, sending ≠ .returning result) ∧
      w.go = { w with
        session := (sending.turn w.session frame).1
        holder := some (frame, (sending.turn w.session frame).2) } := by
  unfold go
  split
  · rename_i free
    exact Or.inl ⟨free, rfl⟩
  · rename_i frame result held
    exact Or.inr (Or.inl ⟨frame, result, held, rfl⟩)
  · rename_i frame sending moving held
    exact Or.inr (Or.inr ⟨frame, sending, held, fun result same => by simp_all, rfl⟩)

theorem Locked.go (locked : w.Locked) : w.go.Locked := by
  obtain ⟨attached, found, guards, shut, shutdown, order⟩ := locked
  rcases go_cases w with
    ⟨_, same⟩ | ⟨frame, result, held, same⟩ | ⟨frame, sending, held, _, same⟩ <;> rw [same]
  · exact ⟨attached, found, guards, shut, shutdown, order⟩
  · refine ⟨attached, nofun, ?_, shut, shutdown, ?_⟩
    · simpa [isInside, held, Sending.isInside] using guards
    · simpa [holding, held] using order
  · have behind := behind_turn w.session frame sending
    refine ⟨behind.attached.trans attached, ?_, behind.guards ?_, behind.shut.trans shut,
      behind.shutdown.trans shutdown, ?_⟩
    · rintro _ _ ⟨⟩ goesOn
      rw [behind.attached]
      exact (behind.found goesOn).elim (found frame sending held) id
    · simpa [isInside, held] using guards
    · simpa [holding, held] using order

/-- The link is only taken out of its place when no send holds the lock. -/
theorem Locked.proceed (locked : w.Locked) : w.proceed.Locked := by
  have kept := locked
  obtain ⟨attached, found, guards, shut, shutdown, order⟩ := locked
  unfold Outflow.proceed
  cases ending : w.ending with
  | serving | closed => exact kept
  | noting _ | signalling =>
    rw [ending] at attached shut shutdown
    exact ⟨attached, found, guards, shut, shutdown, order⟩
  | detaching =>
    rw [ending] at attached shut shutdown
    dsimp only
    split
    · rename_i free
      have none : w.holder = none := Option.isNone_iff_eq_none.mp free
      refine ⟨rfl, ?_, guards, shut, shutdown, order⟩
      intro frame sending held
      cases none.symm.trans held
    · exact kept
  | shutting =>
    rw [ending] at attached shutdown
    exact ⟨attached, found, guards, rfl, shutdown, order⟩
  | stopping =>
    rw [ending] at attached shut
    exact ⟨attached, found, guards, shut, rfl, order⟩
  | waiting | joining =>
    rw [ending] at attached shut shutdown
    dsimp only
    split
    · exact ⟨attached, found, guards, shut, shutdown, order⟩
    · exact kept

theorem Locked.step (locked : w.Locked) (move : Move) : (w.step move).Locked := by
  by_cases transport : move.isTransport = true
  · exact locked.congr (aside_step transport)
  cases move with
  | wake | wakeLast | pick | put | fail | raise | read => exact absurd rfl transport
  | lock frame =>
    simp only [Outflow.step]
    split
    · rename_i free
      have none : w.holder = none := Option.isNone_iff_eq_none.mp free
      refine ⟨locked.attached, ?_, ?_, locked.shut, locked.shutdown, ?_⟩
      · rintro _ _ ⟨⟩ ⟨⟩
      · simpa [isInside, none, Sending.isInside] using locked.guards
      · simpa [holding, none] using locked.order
    · exact locked
  | go => exact locked.go
  | lose failure =>
    simp only [Outflow.step]
    split
    · rename_i serving
      obtain ⟨attached, found, guards, shut, shutdown, order⟩ := locked
      rw [serving] at attached shut shutdown
      exact ⟨attached, found, guards, shut, shutdown, order⟩
    · exact locked
  | proceed => exact locked.proceed

theorem Locked.run (locked : w.Locked) (moves : List Move) : (w.run moves).Locked := by
  induction moves generalizing w with
  | nil => exact locked
  | cons move rest ih => exact ih (locked.step move)

/-- Once the reader and the writer have been told to stop, no send has the link. -/
theorem Locked.outside (locked : w.Locked) (shutdown : w.session.link.shutdown = true)
    {frame : Bytes} {sending : Sending} (held : w.holder = some (frame, sending)) :
    sending.hasLink = false := by
  have detached : ∀ ending : Departure, ending.isStopping = true → ending.isDetached = true := by
    intro ending stopping
    cases ending <;> first | rfl | cases stopping
  cases inside : sending.hasLink with
  | false => rfl
  | true =>
    have attached := locked.found frame sending held inside
    rw [locked.attached, detached w.ending (locked.shutdown ▸ shutdown)] at attached
    cases attached

/-- What has been accepted and what waits for the transport have grown by the same frames. -/
structure Queued (w after : Outflow) (more : List Bytes) : Prop where
  accepted : after.accepted = w.accepted ++ more
  outbound : after.session.link.outbound = w.session.link.outbound ++ more.flatten
  written : after.session.link.written = w.session.link.written
  writing : after.session.link.writing = w.session.link.writing
  shutdown : after.session.link.shutdown = w.session.link.shutdown
  reading : after.session.link.reading = w.session.link.reading
  chunk : after.chunk = w.chunk
  raising : after.raising = w.raising
  ending : after.ending = w.ending

theorem underway_eq {w : Outflow} {frame : Bytes} {sending : Sending}
    (held : w.holder = some (frame, sending)) :
    w.underway = if sending.hasQueued then [frame] else [] := by
  rw [underway, held]

/-- A send's step queues its frame if it is there, and nothing otherwise. -/
theorem queued_go (w : Outflow) :
    ∃ more, Queued w w.go more ∧ (more ≠ [] → ∃ frame, w.holder = some (frame, .queueing)) := by
  rcases go_cases w with
    ⟨_, same⟩ | ⟨frame, result, held, same⟩ | ⟨frame, sending, held, moving, same⟩ <;> rw [same]
  · exact ⟨[], ⟨by simp, by simp, rfl, rfl, rfl, rfl, rfl, rfl, rfl⟩, by simp⟩
  · refine ⟨[], ⟨?_, by simp, rfl, rfl, rfl, rfl, rfl, rfl, rfl⟩, by simp⟩
    rw [accepted, accepted, underway_eq held]
    cases result <;> simp [sent, underway, Sending.hasQueued, Except.isOk, Except.toBool]
  · cases sending with
    | returning result => exact absurd rfl (moving result)
    | queueing =>
      refine ⟨[frame], ⟨?_, by simp [Sending.turn], rfl, rfl, rfl, rfl, rfl, rfl, rfl⟩,
        fun _ => ⟨frame, held⟩⟩
      rw [accepted, accepted, underway_eq held]
      simp [sent, underway, Sending.turn, Sending.hasQueued]
    | looking | entering | checking =>
      refine ⟨[], ?_, by simp⟩
      simp only [Sending.turn]
      repeat' split
      all_goals
        refine ⟨?_, by simp, rfl, rfl, rfl, rfl, rfl, rfl, rfl⟩
        rw [accepted, accepted, underway_eq held]
        simp [sent, underway, Sending.hasQueued]
    | waking =>
      refine ⟨[], ⟨?_, by simp [Sending.turn], rfl, rfl, rfl, rfl, rfl, rfl, rfl⟩, by simp⟩
      rw [accepted, accepted, underway_eq held]
      simp [sent, underway, Sending.turn, Sending.hasQueued]
    | leaving result =>
      refine ⟨[], ⟨?_, by simp [Sending.turn], rfl, rfl, rfl, rfl, rfl, rfl, rfl⟩, by simp⟩
      rw [accepted, accepted, underway_eq held]
      cases result <;> simp [sent, underway, Sending.turn, Sending.hasQueued]

theorem Writes.congr (writes : w.Writes) {link : Link} (readOn : Link.ReadOn w.session.link link)
    {raising : Option Failure} (calm : w.raising = none → raising = none) :
    ({ w.setLink link with raising } : Outflow).Writes := by
  obtain ⟨busy, last, pending, closed⟩ := writes
  refine ⟨?_, ?_, ?_, ?_⟩
  · intro there
    obtain ⟨last, draining⟩ := busy there
    exact ⟨last, readOn.writing.trans draining⟩
  · intro draining
    exact readOn.shutdown.trans (last (readOn.writing.symm.trans draining))
  · intro queued running
    rcases pending (readOn.outbound ▸ queued) (readOn.writing ▸ running) with
      (woken | waking) | ⟨last, draining⟩
    · exact Or.inl (Or.inl (readOn.woken.trans woken))
    · exact Or.inl (Or.inr waking)
    · exact Or.inr ⟨last, readOn.writing.trans draining⟩
  · intro ended
    obtain ⟨deaf, stopped, quiet⟩ := closed ended
    exact ⟨readOn.reading deaf, readOn.writing.trans stopped, calm quiet⟩

/-- A send queues its frame just before it wakes the writer. -/
theorem wakes_go {frame : Bytes} {sending : Sending} (held : w.holder = some (frame, sending)) :
    w.go.WakePending ∨ (w.go.session.link.outbound = w.session.link.outbound ∧
      w.go.session.link.woken = w.session.link.woken ∧ sending ≠ .waking) := by
  unfold Outflow.go
  rw [held]
  cases sending with
  | queueing => exact Or.inl (Or.inr ⟨frame, rfl⟩)
  | waking => exact Or.inl (Or.inl rfl)
  | looking | leaving _ | returning _ => exact Or.inr ⟨rfl, rfl, nofun⟩
  | entering | checking =>
    refine Or.inr ⟨?_, ?_, nofun⟩ <;> simp only [Sending.turn] <;> split <;> rfl

theorem Writes.go (writes : w.Writes) : w.go.Writes := by
  obtain ⟨more, queued, _⟩ := queued_go w
  refine ⟨?_, ?_, ?_, ?_⟩
  · intro there
    obtain ⟨last, draining⟩ := writes.busy (queued.chunk ▸ there)
    exact ⟨last, queued.writing.trans draining⟩
  · intro draining
    exact queued.shutdown.trans (writes.last (queued.writing.symm.trans draining))
  · intro waits running
    cases held : w.holder with
    | none =>
      have same : w.go = w := by rw [Outflow.go, held]
      rw [same] at waits running ⊢
      exact writes.pending waits running
    | some send =>
      rcases wakes_go held with pending | ⟨outbound, woken, other⟩
      · exact Or.inl pending
      · rcases writes.pending (outbound ▸ waits) (queued.writing ▸ running) with
          (already | ⟨frame, waking⟩) | ⟨last, draining⟩
        · exact Or.inl (Or.inl (woken.trans already))
        · rw [held] at waking
          cases waking
          exact absurd rfl other
        · exact Or.inr ⟨last, queued.writing.trans draining⟩
  · intro ended
    obtain ⟨deaf, stopped, quiet⟩ := writes.closed (queued.ending ▸ ended)
    exact ⟨queued.reading.trans deaf, queued.writing.trans stopped, queued.raising.trans quiet⟩

theorem Writes.proceed (writes : w.Writes) : w.proceed.Writes := by
  have kept := writes
  obtain ⟨busy, last, pending, closed⟩ := writes
  unfold Outflow.proceed
  cases ending : w.ending with
  | serving | closed => exact kept
  | noting _ | signalling | shutting => exact ⟨busy, last, pending, nofun⟩
  | detaching | waiting =>
    dsimp only
    split
    · exact ⟨busy, last, pending, nofun⟩
    · exact kept
  | stopping => exact ⟨busy, fun _ => rfl, pending, nofun⟩
  | joining =>
    dsimp only
    split
    · rename_i ended
      exact ⟨busy, last, pending, fun _ => ended⟩
    · exact kept

theorem Writes.step (writes : w.Writes) (move : Move) : (w.step move).Writes := by
  have kept := writes
  obtain ⟨busy, last, pending, closed⟩ := writes
  cases move with
  | lock frame =>
    simp only [Outflow.step]
    split
    · rename_i free
      have none : w.holder = none := Option.isNone_iff_eq_none.mp free
      refine ⟨busy, last, ?_, closed⟩
      intro queued running
      rcases pending queued running with (woken | ⟨frame, waking⟩) | draining
      · exact Or.inl (Or.inl woken)
      · cases none.symm.trans waking
      · exact Or.inr draining
    · exact kept
  | go => exact kept.go
  | wake =>
    simp only [Outflow.step, Link.startWriting]
    split
    · rename_i rests
      refine ⟨fun _ => ⟨false, rfl⟩, ?_, fun _ _ => Or.inr ⟨false, rfl⟩, ?_⟩
      · rintro ⟨⟩
      · intro ended
        cases (closed ended).2.1.symm.trans rests.1
    · exact kept
  | wakeLast =>
    simp only [Outflow.step, Link.startLastWriting]
    split
    · rename_i rests
      refine ⟨fun _ => ⟨true, rfl⟩, fun _ => rests.2, fun _ _ => Or.inr ⟨true, rfl⟩, ?_⟩
      intro ended
      cases (closed ended).2.1.symm.trans rests.1
    · exact kept
  | pick =>
    simp only [Outflow.step, Outflow.pick]
    split
    · rename_i going idle draining
      have running : w.ending ≠ .closed := by
        intro ended
        cases draining.symm.trans (closed ended).2.1
      split
      · rename_i empty
        have none := List.isEmpty_iff.mp empty
        refine ⟨fun there => absurd idle there, ?_, fun waits => absurd none waits,
          fun ended => absurd ended running⟩
        intro draining
        cases going <;> cases draining
      · exact ⟨fun _ => ⟨going, draining⟩, last, fun _ _ => Or.inr ⟨going, draining⟩,
          fun ended => absurd ended running⟩
    · exact kept
  | put count =>
    refine ⟨fun there => busy ?_, last, pending, closed⟩
    intro none
    simp [Outflow.step, Outflow.put, none] at there
  | fail failure =>
    simp only [Outflow.step, Outflow.fail]
    split
    · rename_i going _ draining
      refine ⟨fun busy => absurd rfl busy, ?_, fun _ running => absurd rfl running, ?_⟩
      · rintro ⟨⟩
      · intro ended
        cases draining.symm.trans (closed ended).2.1
    · exact kept
  | raise =>
    simp only [Outflow.step]
    split
    · exact kept.congr (Link.readOn_raise _ _) (fun _ => rfl)
    · exact kept
  | read reading => exact kept.congr (Link.readOn_read _ _) id
  | lose failure =>
    simp only [Outflow.step]
    split
    · refine ⟨busy, last, pending, ?_⟩
      rintro ⟨⟩
    · exact kept
  | proceed => exact kept.proceed

theorem Writes.run (writes : w.Writes) (moves : List Move) : (w.run moves).Writes := by
  induction moves generalizing w with
  | nil => exact writes
  | cons move rest ih => exact ih (writes.step move)

def stream (w : Outflow) : Bytes :=
  w.session.link.written ++ (w.chunk ++ w.session.link.outbound)

def owed (w : Outflow) (base : Bytes) : Bytes := base ++ w.accepted.flatten

/-- Nothing that was accepted is lost, and the writer has stopped at the end of it only. -/
structure Whole (base : Bytes) (w : Outflow) : Prop where
  stream : w.stream = w.owed base
  stopped : w.session.link.writing = .stopped →
    w.session.link.shutdown = true ∧ w.session.link.outbound = []

/-- What has been handed to the transport is what was accepted, up to some byte; the rest is still
there unless the writer has stopped. -/
def Ordered (base : Bytes) (w : Outflow) : Prop :=
  w.stream = w.owed base ∨
    (w.session.link.writing = .stopped ∧ w.chunk = [] ∧
      w.session.link.written <+: w.owed base)

theorem Ordered.written_prefix {base : Bytes} (ordered : w.Ordered base) :
    w.session.link.written <+: w.owed base := by
  rcases ordered with whole | ⟨_, _, ahead⟩
  · rw [← whole]
    exact List.prefix_append _ _
  · exact ahead

def Move.isFault : Move → Bool
  | .fail _ => true
  | .lock _ | .go | .wake | .wakeLast | .pick | .put _ | .raise | .read _ | .lose _ | .proceed =>
    false

/-- What a move that fails no write does to the stream: nothing, unless it is a send's and queues
its frame. -/
structure Flowed (w after : Outflow) (more : List Bytes) : Prop where
  stream : after.stream = w.stream ++ more.flatten
  accepted : after.accepted = w.accepted ++ more
  written : w.session.link.written <+: after.session.link.written
  stopped : w.session.link.writing = .stopped → after.session.link.writing = .stopped
  chunk : w.chunk = [] → w.session.link.writing = .stopped →
    after.chunk = [] ∧ after.session.link.written = w.session.link.written
  stops : after.session.link.writing = .stopped → w.session.link.writing = .stopped ∨
    (w.session.link.writing = .draining true ∧ after.session.link.outbound = [])
  shutdown : w.session.link.shutdown = true → after.session.link.shutdown = true

/-- A move that leaves the queue, the chunk and what was accepted alone. -/
theorem flowed_of_kept {after : Outflow} (holder : after.holder = w.holder)
    (returned : after.returned = w.returned) (chunk : after.chunk = w.chunk)
    (outbound : after.session.link.outbound = w.session.link.outbound)
    (written : after.session.link.written = w.session.link.written)
    (stopped : w.session.link.writing = .stopped ↔ after.session.link.writing = .stopped)
    (shutdown : w.session.link.shutdown = true → after.session.link.shutdown = true) :
    Flowed w after [] := by
  refine ⟨?_, ?_, written ▸ List.prefix_refl _, stopped.mp,
    fun idle _ => ⟨chunk.trans idle, written⟩, fun stops => Or.inl (stopped.mpr stops), shutdown⟩
  · rw [stream, stream, written, chunk, outbound]
    simp
  · rw [accepted, accepted, sent, sent, underway, underway, holder, returned]
    simp

theorem flowed_proceed (w : Outflow) : Flowed w w.proceed [] := by
  have same : Flowed w w [] := flowed_of_kept rfl rfl rfl rfl rfl Iff.rfl id
  unfold proceed
  cases w.ending with
  | serving | closed => exact same
  | noting _ | signalling | shutting => exact flowed_of_kept rfl rfl rfl rfl rfl Iff.rfl id
  | stopping => exact flowed_of_kept rfl rfl rfl rfl rfl Iff.rfl fun _ => rfl
  | detaching | waiting | joining =>
    dsimp only
    split
    · exact flowed_of_kept rfl rfl rfl rfl rfl Iff.rfl id
    · exact same

theorem flowed_pick (w : Outflow) : Flowed w w.pick [] := by
  unfold pick
  split
  · rename_i last idle draining
    have running : w.session.link.writing ≠ .stopped := by simp [draining]
    split
    · rename_i empty
      refine ⟨by simp [stream, setLink], by simp [accepted, sent, underway, setLink],
        List.prefix_refl _, fun stopped => absurd stopped running,
        fun _ stopped => absurd stopped running, fun stops =>
        Or.inr ⟨?_, List.isEmpty_iff.mp empty⟩, id⟩
      cases last with
      | true => exact draining
      | false => cases stops
    · refine ⟨?_, by simp [accepted, sent, underway, setLink], List.prefix_refl _,
        fun stopped => absurd stopped running, fun _ stopped => absurd stopped running, Or.inl, id⟩
      simp [stream, setLink, idle]
  · exact flowed_of_kept rfl rfl rfl rfl rfl Iff.rfl id

theorem flowed_put (w : Outflow) (count : Nat) : Flowed w (w.put count) [] := by
  refine ⟨?_, by simp [accepted, sent, underway, put, setLink], List.prefix_append _ _, id, ?_,
    Or.inl, id⟩
  · show (w.session.link.written ++ w.chunk.take count) ++
      (w.chunk.drop count ++ w.session.link.outbound) = w.stream ++ [].flatten
    rw [stream, List.append_assoc, ← List.append_assoc (w.chunk.take count), List.take_append_drop]
    simp
  · intro idle _
    rw [put_of_idle idle]
    exact ⟨idle, rfl⟩

/-- Only a send that queues its frame makes the stream longer, and only a fault makes it shorter. -/
theorem flowed_step (w : Outflow) {move : Move} (fine : move.isFault = false) :
    ∃ more, Flowed w (w.step move) more ∧
      (more ≠ [] → ∃ frame, w.holder = some (frame, .queueing)) := by
  have same : Flowed w w [] := flowed_of_kept rfl rfl rfl rfl rfl Iff.rfl id
  cases move with
  | fail _ => cases fine
  | go =>
    obtain ⟨more, queued, there⟩ := queued_go w
    refine ⟨more, ⟨?_, queued.accepted, ?_, ?_, ?_, ?_, ?_⟩, there⟩
    · rw [stream, stream]
      show w.go.session.link.written ++ (w.go.chunk ++ w.go.session.link.outbound) = _
      rw [queued.written, queued.chunk, queued.outbound]
      simp
    · exact queued.written ▸ List.prefix_refl _
    · exact queued.writing.trans
    · exact fun idle _ => ⟨queued.chunk.trans idle, queued.written⟩
    · exact fun stops => Or.inl (queued.writing.symm.trans stops)
    · exact queued.shutdown.trans
  | pick => exact ⟨[], flowed_pick w, by simp⟩
  | put count => exact ⟨[], flowed_put w count, by simp⟩
  | proceed => exact ⟨[], flowed_proceed w, by simp⟩
  | lock frame =>
    refine ⟨[], ?_, by simp⟩
    simp only [step]
    split
    · rename_i free
      have none : w.holder = none := Option.isNone_iff_eq_none.mp free
      refine ⟨by simp [stream], ?_, List.prefix_refl _, id, fun idle _ => ⟨idle, rfl⟩,
        Or.inl, id⟩
      simp [accepted, sent, underway, none, Sending.hasQueued]
    · exact same
  | wake =>
    refine ⟨[], ?_, by simp⟩
    simp only [step, Link.startWriting]
    split
    · rename_i rests
      exact flowed_of_kept rfl rfl rfl rfl rfl (by simp [setLink, rests.1]) id
    · exact same
  | wakeLast =>
    refine ⟨[], ?_, by simp⟩
    simp only [step, Link.startLastWriting]
    split
    · rename_i rests
      exact flowed_of_kept rfl rfl rfl rfl rfl (by simp [setLink, rests.1]) id
    · exact same
  | raise =>
    refine ⟨[], ?_, by simp⟩
    simp only [step]
    split
    · rename_i failure _
      have kept := Link.readOn_raise w.session.link failure
      exact flowed_of_kept rfl rfl rfl kept.outbound kept.written
        (by rw [← kept.writing]; exact Iff.rfl) kept.shutdown.trans
    · exact same
  | read reading =>
    have kept := Link.readOn_read w.session.link reading
    exact ⟨[], flowed_of_kept rfl rfl rfl kept.outbound kept.written
      (by rw [← kept.writing]; exact Iff.rfl) kept.shutdown.trans, by simp⟩
  | lose failure =>
    refine ⟨[], ?_, by simp⟩
    simp only [step]
    split
    · exact flowed_of_kept rfl rfl rfl rfl rfl Iff.rfl id
    · exact same

variable {base : Bytes}

theorem Ordered.step (ordered : w.Ordered base) (move : Move) : (w.step move).Ordered base := by
  cases fine : move.isFault with
  | false =>
    obtain ⟨more, flowed, _⟩ := flowed_step w fine
    have longer : (w.step move).owed base = w.owed base ++ more.flatten := by
      rw [owed, owed, flowed.accepted]
      simp
    rcases ordered with whole | ⟨stopped, idle, ahead⟩
    · exact Or.inl (by rw [flowed.stream, whole, longer])
    · obtain ⟨still, same⟩ := flowed.chunk idle stopped
      refine Or.inr ⟨flowed.stopped stopped, still, ?_⟩
      rw [same, longer]
      exact ahead.trans (List.prefix_append _ _)
  | true =>
    cases move with
    | fail failure =>
      have ahead := ordered.written_prefix
      simp only [Outflow.step, Outflow.fail]
      split
      · exact Or.inr ⟨rfl, rfl, ahead⟩
      · exact ordered
    | lock _ | go | wake | wakeLast | pick | put _ | raise | read _ | lose _ | proceed => cases fine

theorem Ordered.run (ordered : w.Ordered base) (moves : List Move) :
    (w.run moves).Ordered base := by
  induction moves generalizing w with
  | nil => exact ordered
  | cons move rest ih => exact ih (ordered.step move)

/-- The writer stops when it has been told to, with nothing left; what is queued then is queued by a
send that found the link in its place, and so before it was told to. -/
theorem Whole.step (whole : w.Whole base) (locked : w.Locked) (writes : w.Writes) {move : Move}
    (fine : move.isFault = false) : (w.step move).Whole base := by
  obtain ⟨more, flowed, there⟩ := flowed_step w fine
  refine ⟨?_, ?_⟩
  · rw [flowed.stream, whole.stream, owed, owed, flowed.accepted]
    simp
  · intro stops
    rcases flowed.stops stops with stopped | ⟨draining, empty⟩
    · obtain ⟨shutdown, empty⟩ := whole.stopped stopped
      refine ⟨flowed.shutdown shutdown, ?_⟩
      have idle := writes.idle stopped
      have none : more = [] := by
        by_contra some
        obtain ⟨frame, held⟩ := there some
        cases locked.outside shutdown held
      obtain ⟨still, same⟩ := flowed.chunk idle stopped
      have stream := flowed.stream
      rw [Outflow.stream, Outflow.stream, still, same, idle, empty, none] at stream
      simpa using stream
    · exact ⟨flowed.shutdown (writes.last draining), empty⟩

theorem Whole.run (whole : w.Whole base) (locked : w.Locked) (writes : w.Writes)
    {moves : List Move} (fine : ∀ move ∈ moves, move.isFault = false) :
    (w.run moves).Whole base := by
  induction moves generalizing w with
  | nil => exact whole
  | cons move rest ih =>
    exact ih (whole.step locked writes (fine move List.mem_cons_self)) (locked.step move)
      (writes.step move) fun next member => fine next (List.mem_cons_of_mem _ member)

theorem accepted_step (w : Outflow) (move : Move) : w.accepted <+: (w.step move).accepted := by
  cases fine : move.isFault with
  | false =>
    obtain ⟨more, flowed, _⟩ := flowed_step w fine
    exact ⟨more, flowed.accepted.symm⟩
  | true =>
    cases move with
    | fail failure =>
      simp only [step, fail]
      split <;> exact List.prefix_refl _
    | lock _ | go | wake | wakeLast | pick | put _ | raise | read _ | lose _ | proceed => cases fine

theorem accepted_run (w : Outflow) (moves : List Move) : w.accepted <+: (w.run moves).accepted := by
  induction moves generalizing w with
  | nil => exact List.prefix_refl _
  | cons move rest ih => exact (accepted_step w move).trans (ih _)

section Start

variable {s : Session}

theorem locked_start (up : Up s) : Locked { session := s } := by
  refine ⟨up.attached, nofun, ?_, ?_, up.shutdown, rfl⟩
  · exact congrArg Gate.active up.gate
  · exact congrArg Gate.closing up.gate

theorem writes_start (up : Up s) : Writes { session := s } := by
  refine ⟨fun busy => absurd rfl busy, ?_, ?_, nofun⟩
  · intro draining
    rcases up.writing with rests | away
    · cases draining.symm.trans rests
    · cases draining.symm.trans away
  · intro queued _
    rcases up.woken queued with woken | away
    · exact Or.inl (Or.inl woken)
    · exact Or.inr ⟨false, away⟩

theorem whole_start (up : Up s) : Whole s.link.wire { session := s } := by
  refine ⟨(List.append_nil _).symm, ?_⟩
  intro stopped
  rcases up.writing with rests | away
  · cases stopped.symm.trans rests
  · cases stopped.symm.trans away

end Start

end Outflow

end MarketLink.Session
