import MarketLink.Proofs.Session.Carriage

set_option autoImplicit false

namespace MarketLink.Session

open Wire

/-- How far a send is that holds the lock of the link's place. -/
inductive Sending where
  | looking
  | entering
  | checking
  | queueing
  | waking
  | leaving (result : Except Failure Unit)
  | returning (result : Except Failure Unit)
  deriving Repr

namespace Sending

def turn (s : Session) (frame : Bytes) : Sending → Session × Sending
  | .looking => (s, if s.attached then .entering else .returning (.error s.closedFailure))
  | .entering =>
    match s.link.gate.acquire with
    | (gate, true) => ({ s with link := { s.link with gate } }, .checking)
    | (_, false) => (s, .returning (.error .closed))
  | .checking =>
    match s.link.fault with
    | some failure => (s, .leaving (.error failure))
    | none => (s, .queueing)
  | .queueing =>
    ({ s with link := { s.link with outbound := s.link.outbound ++ frame } }, .waking)
  | .waking => ({ s with link := { s.link with woken := true } }, .leaving (.ok ()))
  | .leaving result =>
    ({ s with link := { s.link with gate := s.link.gate.release.1 } }, .returning result)
  | .returning result => (s, .returning result)

def hasLink : Sending → Bool
  | .entering | .checking | .queueing | .waking | .leaving _ | .returning (.ok _) => true
  | .looking | .returning (.error _) => false

def isInside : Sending → Bool
  | .checking | .queueing | .waking | .leaving _ => true
  | .looking | .entering | .returning _ => false

def hasQueued : Sending → Bool
  | .waking | .leaving (.ok _) | .returning (.ok _) => true
  | .looking | .entering | .checking | .queueing | .leaving (.error _) | .returning (.error _) =>
    false

end Sending

/-- How far the end of the connection is. -/
inductive Departure where
  | serving
  | noting (failure : Failure)
  | signalling
  | detaching
  | shutting
  | stopping
  | waiting
  /-- It waits until the reader and the writer have stopped. -/
  | joining
  | closed
  deriving Repr, DecidableEq

namespace Departure

def isDetached : Departure → Bool
  | .serving | .noting _ | .signalling | .detaching => false
  | .shutting | .stopping | .waiting | .joining | .closed => true

def isShut : Departure → Bool
  | .serving | .noting _ | .signalling | .detaching | .shutting => false
  | .stopping | .waiting | .joining | .closed => true

def isStopping : Departure → Bool
  | .serving | .noting _ | .signalling | .detaching | .shutting | .stopping => false
  | .waiting | .joining | .closed => true

end Departure

inductive Reading where
  | bytes (bytes : Bytes)
  | finish
  | fault (fault : IoFault)
  | stop
  deriving Repr

def Link.read (l : Link) : Reading → Link
  | .bytes bytes => l.receive bytes
  | .finish => l.receiveEnd
  | .fault fault => l.receiveFault fault
  | .stop => l.stopReading

/-- A session's link with the send that holds the lock, the writer and the end of the connection. -/
structure Outflow where
  session : Session
  holder : Option (Bytes × Sending) := none
  locked : List Bytes := []
  returned : List (Bytes × Except Failure Unit) := []
  chunk : Bytes := []
  raising : Option Failure := none
  ending : Departure := .serving

namespace Outflow

/-- Something that can happen next. -/
inductive Move where
  | lock (frame : Bytes)
  | go
  | wake
  | wakeLast
  /-- The writer takes a chunk out of the queue, and rests or stops when the queue is empty. -/
  | pick
  | put (count : Nat)
  /-- Writing the rest of the chunk fails, or takes too long. -/
  | fail (failure : Failure)
  | raise
  | read (reading : Reading)
  | lose (failure : Failure)
  | proceed
  deriving Repr

def setLink (w : Outflow) (link : Link) : Outflow := { w with session := { w.session with link } }

def go (w : Outflow) : Outflow :=
  match w.holder with
  | none => w
  | some (frame, .returning result) =>
    { w with holder := none, returned := w.returned ++ [(frame, result)] }
  | some (frame, sending) =>
    { w with
      session := (sending.turn w.session frame).1
      holder := some (frame, (sending.turn w.session frame).2) }

/-- The writer takes a chunk out of the queue, and rests or stops when the queue is empty. -/
def pick (w : Outflow) : Outflow :=
  match w.chunk, w.session.link.writing with
  | [], .draining last =>
    if w.session.link.outbound.isEmpty then
      w.setLink { w.session.link with writing := if last then .stopped else .resting }
    else
      { w.setLink
          { w.session.link with outbound := w.session.link.outbound.drop Link.chunkLimit } with
        chunk := w.session.link.outbound.take Link.chunkLimit }
  | _, _ => w

def put (w : Outflow) (count : Nat) : Outflow :=
  { w.setLink { w.session.link with
      written := w.session.link.written ++ w.chunk.take count } with
    chunk := w.chunk.drop count }

/-- Writing the rest of the chunk fails. The writer stops; in its last round it keeps the failure to
itself. -/
def fail (w : Outflow) (failure : Failure) : Outflow :=
  match w.chunk, w.session.link.writing with
  | _ :: _, .draining last =>
    { w.setLink { w.session.link with writing := .stopped } with
      chunk := [], raising := if last then none else some failure }
  | _, _ => w

def proceed (w : Outflow) : Outflow :=
  match w.ending with
  | .serving | .closed => w
  | .noting failure => { w with session := w.session.noteEnd failure, ending := .signalling }
  | .signalling => { w with session := w.session.signalDown, ending := .detaching }
  | .detaching =>
    if w.holder.isNone then { w with session := w.session.detach, ending := .shutting } else w
  | .shutting =>
    { w.setLink { w.session.link with gate := w.session.link.gate.beginClose.1 } with
      ending := .stopping }
  | .stopping => { w.setLink { w.session.link with shutdown := true } with ending := .waiting }
  | .waiting => if w.session.link.gate.active = 0 then { w with ending := .joining } else w
  | .joining =>
    if w.session.link.reading = false ∧ w.session.link.writing = .stopped ∧ w.raising = none then
      { w with ending := .closed }
    else w

/-- What a move leads to; one that is not possible now does not happen. -/
def step (w : Outflow) : Move → Outflow
  | .lock frame =>
    if w.holder.isNone then
      { w with holder := some (frame, .looking), locked := w.locked ++ [frame] }
    else w
  | .go => w.go
  | .wake => w.setLink w.session.link.startWriting
  | .wakeLast => w.setLink w.session.link.startLastWriting
  | .pick => w.pick
  | .put count => w.put count
  | .fail failure => w.fail failure
  | .raise =>
    match w.raising with
    | some failure => { w.setLink (w.session.link.raise failure) with raising := none }
    | none => w
  | .read reading => w.setLink (w.session.link.read reading)
  | .lose failure =>
    match w.ending with
    | .serving => { w with ending := .noting failure.classify }
    | _ => w
  | .proceed => w.proceed

def run (w : Outflow) (moves : List Move) : Outflow := moves.foldl step w

theorem run_append (w : Outflow) (first second : List Move) :
    w.run (first ++ second) = (w.run first).run second := List.foldl_append

theorem run_cons (w : Outflow) (move : Move) (rest : List Move) :
    w.run (move :: rest) = (w.step move).run rest := rfl

def sent (w : Outflow) : List Bytes :=
  (w.returned.filter fun send => send.2.isOk).map Prod.fst

def underway (w : Outflow) : List Bytes :=
  match w.holder with
  | some (frame, sending) => if sending.hasQueued then [frame] else []
  | none => []

def accepted (w : Outflow) : List Bytes := w.sent ++ w.underway

/-- The writer has been woken, or the send that holds the lock is about to wake it. -/
def WakePending (w : Outflow) : Prop :=
  w.session.link.woken = true ∨ ∃ frame, w.holder = some (frame, .waking)

theorem run_send (w : Outflow) (free : w.holder = none) (frame : Bytes) :
    w.run (.lock frame :: List.replicate 7 .go) =
      { w with
        session := (w.session.send frame).1
        locked := w.locked ++ [frame]
        returned := w.returned ++ [(frame, (w.session.send frame).2)] } := by
  obtain ⟨⟨_, _, _, _, _, _, ⟨_, _, _, _, _, _, _, fault, ⟨_, shut⟩, _⟩, attached, _, _, _,
    _, _, _⟩, _, _, _, _, _, _⟩ := w
  cases free
  cases attached with
  | false => rfl
  | true =>
    cases shut with
    | true => rfl
    | false => cases fault <;> rfl

theorem pick_of_draining {w : Outflow} (idle : w.chunk = []) {last : Bool}
    (draining : w.session.link.writing = .draining last) :
    w.pick =
      if w.session.link.outbound.isEmpty then
        w.setLink { w.session.link with writing := if last then .stopped else .resting }
      else
        { w.setLink { w.session.link with
            outbound := w.session.link.outbound.drop Link.chunkLimit } with
          chunk := w.session.link.outbound.take Link.chunkLimit } := by
  unfold pick
  rw [idle, draining]

theorem pick_of_resting {w : Outflow}
    (still : ∀ last, w.session.link.writing ≠ .draining last) : w.pick = w := by
  unfold pick
  split
  · rename_i last _ draining
    exact absurd draining (still last)
  · rfl

theorem fail_of_draining {w : Outflow} (busy : w.chunk ≠ []) {last : Bool}
    (draining : w.session.link.writing = .draining last) (failure : Failure) :
    w.fail failure =
      { w.setLink { w.session.link with writing := .stopped } with
        chunk := [], raising := if last then none else some failure } := by
  obtain ⟨first, others, same⟩ := List.exists_cons_of_ne_nil busy
  unfold fail
  rw [same, draining]

theorem put_of_idle {w : Outflow} (idle : w.chunk = []) (count : Nat) : w.put count = w := by
  obtain ⟨s, _, _, _, chunk, _, _⟩ := w
  cases idle
  simp only [put, setLink, List.take_nil, List.append_nil, List.drop_nil]

/-- A chunk that the transport takes whole is written as the link writes it. -/
theorem run_chunk (w : Outflow) (idle : w.chunk = []) :
    w.run [.pick, .put Link.chunkLimit] = w.setLink w.session.link.writeChunk := by
  show w.pick.put Link.chunkLimit = _
  cases writing : w.session.link.writing with
  | resting | stopped =>
    have same : w.session.link.writeChunk = w.session.link := by rw [Link.writeChunk, writing]
    rw [pick_of_resting (by simp [writing]), put_of_idle idle, same]
    rfl
  | draining last =>
    rw [pick_of_draining idle writing]
    by_cases empty : w.session.link.outbound.isEmpty = true
    · have rests : w.session.link.writeChunk =
          { w.session.link with writing := if last then .stopped else .resting } := by
        rw [Link.writeChunk, writing]
        exact if_pos empty
      rw [if_pos empty, rests]
      exact put_of_idle (by exact idle) _
    · have goesOn : w.session.link.writeChunk =
          { w.session.link with
            outbound := w.session.link.outbound.drop Link.chunkLimit
            written := w.session.link.written ++
              w.session.link.outbound.take Link.chunkLimit } := by
        rw [Link.writeChunk, writing]
        exact (if_neg empty).trans (by rw [← writing])
      have none := List.drop_eq_nil_of_le
        (List.length_take_le Link.chunkLimit w.session.link.outbound)
      rw [if_neg empty, goesOn]
      simp only [put, setLink, List.take_take, Nat.min_self, none]
      rw [← idle]

/-- A chunk of which the transport takes a part is a fault of the link's writer. -/
theorem run_fault (w : Outflow) (idle : w.chunk = []) (calm : w.raising = none) {last : Bool}
    (draining : w.session.link.writing = .draining last) {count : Nat}
    (part : count < (w.session.link.outbound.take Link.chunkLimit).length) (failure : Failure) :
    w.run [.pick, .put count, .fail failure, .raise] =
      w.setLink (w.session.link.writeFault count failure) := by
  have queued : ¬ w.session.link.outbound.isEmpty = true := by
    intro none
    rw [List.isEmpty_iff.mp none] at part
    cases part
  have left : (w.session.link.outbound.take Link.chunkLimit).drop count ≠ [] :=
    fun none => Nat.not_lt.mpr (List.drop_eq_nil_iff.mp none) part
  show ((w.pick.put count).fail failure).step .raise = _
  rw [pick_of_draining idle draining, if_neg queued, put]
  rw [fail_of_draining (by exact left) (by exact draining), Link.writeFault, draining]
  obtain ⟨s, _, _, _, chunk, raising, _⟩ := w
  cases idle
  cases calm
  cases last <;> rfl

theorem run_drain (w : Outflow) (idle : w.chunk = []) :
    ∃ moves, w.run moves = w.setLink w.session.link.drain := by
  generalize same : w.session.link = l
  fun_induction Link.drain l generalizing w with
  | case1 l last moving done =>
    subst same
    exact ⟨[.pick, .put Link.chunkLimit], run_chunk w idle⟩
  | case2 l last moving more ih =>
    subst same
    obtain ⟨moves, ran⟩ := ih (w.setLink w.session.link.writeChunk) idle rfl
    refine ⟨[.pick, .put Link.chunkLimit] ++ moves, ?_⟩
    rw [run_append, run_chunk w idle, ran]
    rfl
  | case3 l still =>
    subst same
    exact ⟨[], rfl⟩

theorem run_close (w : Outflow) (shutting : w.ending = .shutting) (idle : w.chunk = [])
    (calm : w.raising = none) (free : w.session.link.gate.active = 0) :
    ∃ moves, w.run moves = { w with session := w.session.closeLink, ending := .closed } := by
  let l := w.session.link
  let told : Link := { l with gate := l.gate.beginClose.1, shutdown := true }
  let joining (link : Link) : Outflow := { w.setLink link with ending := .joining }
  have begun : w.run [.proceed, .proceed, .proceed, .read .stop, .wake] =
      joining told.stopReading.startWriting := by
    have stopped : w.run [.proceed, .proceed] = { w.setLink told with ending := .waiting } := by
      obtain ⟨_, _, _, _, _, _, _⟩ := w
      cases shutting
      rfl
    have waited : ({ w.setLink told with ending := .waiting } : Outflow).proceed = joining told :=
      if_pos free
    show (((w.run [.proceed, .proceed]).proceed).step (.read .stop)).step .wake = _
    rw [stopped, waited]
    rfl
  obtain ⟨first, flushed⟩ := run_drain (joining told.stopReading.startWriting) idle
  obtain ⟨second, drained⟩ := run_drain (joining told.stopReading.flush.startLastWriting) idle
  refine ⟨[Move.proceed, .proceed, .proceed, .read .stop, .wake] ++
    (first ++ ([Move.wakeLast] ++ (second ++ [Move.proceed]))), ?_⟩
  have closed : l.close.IsClosed := Link.isClosed_close l
  rw [run_append, begun, run_append, flushed, run_append]
  show ((joining told.stopReading.flush.startLastWriting).run (second ++ [.proceed])) = _
  rw [run_append, drained]
  exact if_pos ⟨closed.reading, closed.writing, calm⟩

end Outflow

end MarketLink.Session
