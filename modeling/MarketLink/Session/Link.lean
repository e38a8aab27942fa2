import MarketLink.Failure
import MarketLink.Gate
import MarketLink.Wire.Frame

set_option autoImplicit false

namespace MarketLink.Session

open Wire

inductive Writing where
  | resting
  /-- Writes what is queued, and stops afterwards if this is the last time. -/
  | draining (last : Bool)
  | stopped
  deriving Repr, DecidableEq

structure Link where
  /-- Bytes that have come in behind the last whole frame. -/
  buffer : Bytes := []
  arrived : List Bytes := []
  reading : Bool := true
  outbound : Bytes := []
  written : Bytes := []
  writing : Writing := .resting
  /-- Something was queued since the writer last set out. -/
  woken : Bool := false
  fault : Option Failure := none
  gate : Gate := {}
  shutdown : Bool := false
  deriving Repr

namespace Link

def chunkLimit : Nat := 16384

/-- Keeps a fault unless there is one; an end that this side asked for is none. -/
def raise (l : Link) (failure : Failure) : Link :=
  if failure.isCancellation then l else { l with fault := l.fault.or (some failure) }

/-- Bytes come in. Whole frames are cut off; a length that no frame may have is a fault, behind
which nothing is read. -/
def receive (l : Link) (bytes : Bytes) : Link :=
  if l.reading then
    let cut := cutFrames (l.buffer ++ bytes)
    let l := { l with buffer := cut.rest, arrived := l.arrived ++ cut.frames }
    match cut.stop with
    | none => l
    | some e => { l with reading := false }.raise (.protocol e)
  else l

/-- The other side ends its stream of bytes, which is a fault inside a frame. -/
def receiveEnd (l : Link) : Link :=
  if l.reading then
    let ended := { l with reading := false }
    if l.buffer.isEmpty then ended else ended.raise (.io (.ofKind .unexpectedEof))
  else l

def receiveFault (l : Link) (fault : IoFault) : Link :=
  if l.reading then
    let ended := { l with reading := false }
    if l.shutdown then ended else ended.raise (.io fault)
  else l

def stopReading (l : Link) : Link := if l.shutdown then { l with reading := false } else l

/-- Takes the oldest payload, or the failure behind the last one; `none` while there is neither. -/
def take (l : Link) : Link × Option (Except Failure Bytes) :=
  if l.gate.closing then (l, some (.error .closed))
  else
    match l.arrived with
    | payload :: rest => ({ l with arrived := rest }, some (.ok payload))
    | [] =>
      match l.fault with
      | some failure => (l, some (.error failure))
      | none => (l, if l.reading && !l.shutdown then none else some (.error .closed))

theorem length_arrived_of_take {l after : Link} {payload : Bytes}
    (h : l.take = (after, some (.ok payload))) : after.arrived.length < l.arrived.length := by
  unfold take at h
  split at h
  · cases h
  · split at h
    · next rest same =>
      cases h
      simp only [same, List.length_cons]
      omega
    · split at h
      · cases h
      · split at h <;> cases h

def send (l : Link) (bytes : Bytes) : Link × Except Failure Unit :=
  if l.gate.closing then (l, .error .closed)
  else
    match l.fault with
    | some failure => (l, .error failure)
    | none => ({ l with outbound := l.outbound ++ bytes, woken := true }, .ok ())

def startWriting (l : Link) : Link :=
  if l.writing = .resting ∧ l.woken = true then
    { l with writing := .draining false, woken := false }
  else l

def startLastWriting (l : Link) : Link :=
  if l.writing = .resting ∧ l.shutdown = true then { l with writing := .draining true } else l

/-- The transport takes the next chunk; with nothing left, the writer rests or stops. -/
def writeChunk (l : Link) : Link :=
  match l.writing with
  | .draining last =>
    if l.outbound.isEmpty then { l with writing := if last then .stopped else .resting }
    else
      { l with
        outbound := l.outbound.drop chunkLimit
        written := l.written ++ l.outbound.take chunkLimit }
  | _ => l

/-- Writing the next chunk fails after the transport has taken `count` bytes of it. The writer
stops; in its last round nobody is told. -/
def writeFault (l : Link) (count : Nat) (failure : Failure) : Link :=
  match l.writing with
  | .draining last =>
    let chunk := l.outbound.take chunkLimit
    let stopped :=
      { l with
        outbound := l.outbound.drop chunkLimit
        written := l.written ++ chunk.take count
        writing := .stopped }
    if last then stopped else stopped.raise failure
  | _ => l

theorem length_outbound_writeChunk {l : Link} {last : Bool} (moving : l.writing = .draining last)
    (queued : ¬ l.outbound.isEmpty) : l.writeChunk.outbound.length < l.outbound.length := by
  have long : 0 < l.outbound.length := List.length_pos_iff.2 (by simpa using queued)
  simp only [writeChunk, moving, queued, Bool.false_eq_true, ↓reduceIte, List.length_drop,
    chunkLimit]
  omega

def drain (l : Link) : Link :=
  match _moving : l.writing with
  | .draining _ =>
    if _done : l.outbound.isEmpty then l.writeChunk else drain l.writeChunk
  | _ => l
termination_by l.outbound.length
decreasing_by exact length_outbound_writeChunk _moving _done

/-- Lets the writer go on until it rests. -/
def flush (l : Link) : Link := l.startWriting.drain

/-- Closes the connection: nothing more is taken, queued or read, and what is queued is still
written. -/
def close (l : Link) : Link :=
  { l with gate := l.gate.beginClose.1, shutdown := true }.stopReading.flush.startLastWriting.drain

theorem arrived_send (l : Link) (bytes : Bytes) : (l.send bytes).1.arrived = l.arrived := by
  unfold send
  split
  · rfl
  · split <;> rfl

end Link

end MarketLink.Session
