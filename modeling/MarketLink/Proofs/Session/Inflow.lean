import MarketLink.Proofs.Wire.Chunks

set_option autoImplicit false

namespace MarketLink.Session

open Wire

/-- How the stream of bytes ends for its reader. -/
inductive Finish where
  | ended
  | failed (fault : IoFault)
  deriving Repr

/-- What the reader is doing. -/
inductive Receiving where
  | cutting
  | awaiting
  | raising (failure : Failure)
  | telling
  | leaving
  | gone
  deriving Repr

def Finish.reader (l : Link) : Finish → Receiving
  | .ended => if l.buffer.isEmpty then .leaving else .raising (.io (.ofKind .unexpectedEof))
  | .failed fault => if l.shutdown then .leaving else .raising (.io fault)

namespace Link

def endReading (l : Link) : Finish → Link
  | .ended => l.receiveEnd
  | .failed fault => l.receiveFault fault

theorem endReading_cases {l : Link} (reading : l.reading = true) (finish : Finish) :
    (finish.reader l = .leaving ∧ l.endReading finish = { l with reading := false }) ∨
      ∃ fault, finish.reader l = .raising (.io fault) ∧
        l.endReading finish = { l with reading := false }.raise (.io fault) := by
  cases finish with
  | ended =>
    by_cases empty : l.buffer.isEmpty = true
    · exact Or.inl
        ⟨if_pos empty, by rw [endReading, receiveEnd, if_pos reading]; exact if_pos empty⟩
    · exact Or.inr ⟨_,
        if_neg empty, by rw [endReading, receiveEnd, if_pos reading]; exact if_neg empty⟩
  | failed fault =>
    by_cases stopping : l.shutdown = true
    · refine Or.inl ⟨if_pos stopping, ?_⟩
      rw [endReading, receiveFault, if_pos reading]
      exact if_pos stopping
    · refine Or.inr ⟨fault, if_neg stopping, ?_⟩
      rw [endReading, receiveFault, if_pos reading]
      exact if_neg stopping

end Link

/-- How far a call is that holds the lock of the queue. -/
inductive Looking where
  | atQueue
  | atFault
  /-- No fault was raised, and it looks whether the link is to stop. -/
  | atShutdown
  /-- It waits until it is told to look again. -/
  | parked
  deriving Repr, DecidableEq

namespace Looking

def isPastQueue : Looking → Bool
  | .atQueue => false
  | .atFault | .atShutdown | .parked => true

def isPastFault : Looking → Bool
  | .atQueue | .atFault => false
  | .atShutdown | .parked => true

/-- It has looked whether the link is to stop, and is told when it is. -/
def isPastShutdown : Looking → Bool
  | .atQueue | .atFault | .atShutdown => false
  | .parked => true

end Looking

/-- A link with its reader and the calls that take its payloads. -/
structure Inflow where
  link : Link := {}
  reader : Receiving := .cutting
  raised : Bool := false
  writerTelling : Bool := false
  waiting : Nat := 0
  holder : Option Looking := none
  /-- The call that holds the lock has been told to look again. -/
  notified : Bool := false
  results : List (Except Failure Bytes) := []
  read : Bytes := []
  finish : Option Finish := none

namespace Inflow

/-- Something that can happen next. -/
inductive Move where
  | read (bytes : Bytes)
  | finish (finish : Finish)
  | stop
  | go
  | call
  | forgo
  | lock
  | look
  /-- The call that holds the lock starts to look again. -/
  | wake
  | drop
  | failWriting (failure : Failure)
  | tellWriting
  | shut
  | shutdown
  deriving Repr

/-- Neither the writer fails nor this side closes the link. -/
def Move.isPeaceful : Move → Bool
  | .failWriting _ | .tellWriting | .shut | .shutdown => false
  | .read _ | .finish _ | .stop | .go | .call | .forgo | .lock | .look | .wake | .drop => true

/-- The call that holds the lock is told, if it has looked there. -/
def notify (w : Inflow) (looked : Looking → Bool) : Inflow :=
  { w with notified := w.notified || w.holder.any looked }

def go (w : Inflow) : Inflow :=
  match w.reader with
  | .cutting =>
    match splitFrame w.link.buffer with
    | .ok (some (payload, rest)) =>
      { w with
        link := { w.link with buffer := rest, arrived := w.link.arrived ++ [payload] } }.notify
          Looking.isPastQueue
    | .ok none => { w with reader := .awaiting }
    | .error e => { w with reader := .raising (.protocol e) }
  | .raising failure =>
    { w with
      link := w.link.raise failure
      reader := if w.link.fault.isNone && !failure.isCancellation then .telling else .leaving }
  | .telling => { w with raised := true, reader := .leaving }.notify Looking.isPastFault
  | .leaving =>
    { w with link := { w.link with reading := false }, reader := .gone }.notify Looking.isPastQueue
  | .awaiting | .gone => w

def giveBack (w : Inflow) (result : Except Failure Bytes) : Inflow :=
  { w with
    link := { w.link with gate := w.link.gate.release.1 }
    holder := none
    notified := false
    results := w.results ++ [result] }

/-- The call that holds the lock looks at what comes next. -/
def look (w : Inflow) : Inflow :=
  match w.holder with
  | some .atQueue =>
    match w.link.arrived with
    | payload :: rest => { w with link := { w.link with arrived := rest } }.giveBack (.ok payload)
    | [] =>
      if w.link.reading then { w with holder := some .atFault }
      else w.giveBack (.error (w.link.fault.getD .closed))
  | some .atFault =>
    if w.raised then w.giveBack (.error (w.link.fault.getD .closed))
    else { w with holder := some .atShutdown }
  | some .atShutdown =>
    if w.link.shutdown then w.giveBack (.error .closed) else { w with holder := some .parked }
  | some .parked | none => w

/-- What a move leads to; one that is not possible now does not happen. -/
def step (w : Inflow) : Move → Inflow
  | .read bytes =>
    match w.reader with
    | .awaiting =>
      { w with
        link := { w.link with buffer := w.link.buffer ++ bytes }
        reader := .cutting
        read := w.read ++ bytes }
    | _ => w
  | .finish finish =>
    match w.reader with
    | .awaiting => { w with reader := finish.reader w.link, finish := some finish }
    | _ => w
  | .stop =>
    match w.reader with
    | .awaiting => if w.link.shutdown then { w with reader := .leaving } else w
    | _ => w
  | .go => w.go
  | .call =>
    match w.link.gate.acquire with
    | (gate, true) => { w with link := { w.link with gate }, waiting := w.waiting + 1 }
    | (_, false) => { w with results := w.results ++ [.error .closed] }
  | .forgo =>
    match w.waiting with
    | 0 => w
    | n + 1 => { w with link := { w.link with gate := w.link.gate.release.1 }, waiting := n }
  | .lock =>
    match w.holder, w.waiting with
    | none, n + 1 => { w with holder := some .atQueue, waiting := n }
    | _, _ => w
  | .look => w.look
  | .wake =>
    match w.holder with
    | some .parked => { w with holder := some .atQueue, notified := false }
    | _ => w
  | .drop =>
    match w.holder with
    | some .parked =>
      { w with
        link := { w.link with gate := w.link.gate.release.1 }
        holder := none
        notified := false }
    | _ => w
  | .failWriting failure =>
    { w with
      link := w.link.raise failure
      writerTelling := w.writerTelling || (w.link.fault.isNone && !failure.isCancellation) }
  | .tellWriting =>
    if w.writerTelling then
      { w with raised := true, writerTelling := false }.notify Looking.isPastFault
    else w
  | .shut => { w with link := { w.link with gate := w.link.gate.beginClose.1 } }
  | .shutdown =>
    { w with link := { w.link with shutdown := true } }.notify Looking.isPastShutdown

def run (w : Inflow) (moves : List Move) : Inflow := moves.foldl step w

theorem run_append (w : Inflow) (first second : List Move) :
    w.run (first ++ second) = (w.run first).run second := List.foldl_append

def taken (w : Inflow) : List Bytes := w.results.filterMap Except.toOption

def whole (w : Inflow) : Cut := cutFrames w.read

/-- The failure with which reading has ended: that of the first length that no frame may have, or
else what the end of the stream means behind the last whole frame. -/
def verdict (w : Inflow) : Option Failure :=
  match w.whole.stop with
  | some e => some (.protocol e)
  | none =>
    match w.finish with
    | none => none
    | some .ended =>
      some (if w.whole.rest.isEmpty then .closed else .io (.ofKind .unexpectedEof))
    | some (.failed fault) => some (.io fault)

/-- As many of the failures that are due behind the last frame as one likes, once reading has
ended. -/
def failuresDue (w : Inflow) (count : Nat) : List (Except Failure Bytes) :=
  w.verdict.elim [] fun failure => List.replicate count (.error failure)

/-- What the first `count` calls are to return: the frames of all that was read, in order, and
behind the last of them the failure with which reading has ended. -/
def due (w : Inflow) (count : Nat) : List (Except Failure Bytes) :=
  (w.whole.frames.map Except.ok ++ w.failuresDue count).take count

theorem notify_of_free {w : Inflow} (free : w.holder = none) (looked : Looking → Bool) :
    w.notify looked = w := by
  obtain ⟨_, _, _, _, _, _, _, _, _, _⟩ := w
  cases free
  exact congrArg (Inflow.mk _ _ _ _ _ _ · _ _ _) (Bool.or_false _)

theorem go_of_frame {w : Inflow} (cutting : w.reader = .cutting) {payload rest : Bytes}
    (found : splitFrame w.link.buffer = .ok (some (payload, rest))) :
    w.go =
      { w with
        link := { w.link with buffer := rest, arrived := w.link.arrived ++ [payload] } }.notify
          Looking.isPastQueue := by
  unfold go
  split
  · rw [found]
  all_goals
    rename_i other
    cases cutting.symm.trans other

theorem go_of_missing {w : Inflow} (cutting : w.reader = .cutting)
    (missing : splitFrame w.link.buffer = .ok none) : w.go = { w with reader := .awaiting } := by
  unfold go
  split
  · rw [missing]
  all_goals
    rename_i other
    cases cutting.symm.trans other

theorem go_of_refused {w : Inflow} (cutting : w.reader = .cutting) {e : WireError}
    (refused : splitFrame w.link.buffer = .error e) :
    w.go = { w with reader := .raising (.protocol e) } := by
  unfold go
  split
  · rw [refused]
  all_goals
    rename_i other
    cases cutting.symm.trans other

theorem go_of_leaving {w : Inflow} (leaving : w.reader = .leaving) :
    w.go =
      { w with link := { w.link with reading := false }, reader := .gone }.notify
        Looking.isPastQueue := by
  unfold go
  rw [leaving]

theorem run_cut (w : Inflow) (free : w.holder = none) (cutting : w.reader = .cutting)
    (done : List Bytes) (old : List Bytes) (arrived : w.link.arrived = old ++ done.reverse) :
    ∃ moves, w.run moves =
      { w with
        link := { w.link with
          buffer := (cutOnto done w.link.buffer).rest
          arrived := old ++ (cutOnto done w.link.buffer).frames }
        reader := match (cutOnto done w.link.buffer).stop with
          | none => .awaiting
          | some e => .raising (.protocol e) } := by
  generalize same : w.link.buffer = buffer
  fun_induction cutOnto done buffer generalizing w with
  | case1 done buffer e refused =>
    subst same
    refine ⟨[.go], (go_of_refused cutting refused).trans ?_⟩
    rw [← arrived]
  | case2 done buffer missing =>
    subst same
    refine ⟨[.go], (go_of_missing cutting missing).trans ?_⟩
    rw [← arrived]
  | case3 done buffer payload after found ih =>
    subst same
    have next := (go_of_frame cutting found).trans (notify_of_free (by exact free) _)
    have queued : w.go.link.arrived = old ++ (payload :: done).reverse := by
      rw [next, arrived, List.reverse_cons, List.append_assoc]
    obtain ⟨moves, ran⟩ := ih w.go (by rw [next]; exact free) (by rw [next]; exact cutting) queued
      (by rw [next])
    refine ⟨.go :: moves, ran.trans ?_⟩
    rw [next]

/-- The reader is alone, and has told of whatever fault there is. -/
structure Idle (w : Inflow) : Prop where
  free : w.holder = none
  awaiting : w.reader = .awaiting
  reading : w.link.reading = true
  told : w.raised = w.link.fault.isSome

theorem run_raise (w : Inflow) (free : w.holder = none) {failure : Failure}
    (raising : w.reader = .raising failure) (real : failure.isCancellation = false)
    (told : w.raised = w.link.fault.isSome) :
    ∃ moves, w.run moves =
      { w with
        link := { w.link with reading := false }.raise failure
        reader := .gone
        raised := true } := by
  cases fault : w.link.fault with
  | none =>
    refine ⟨[.go, .go, .go], ?_⟩
    show w.go.go.go = _
    have kept : w.go = { w with link := w.link.raise failure, reader := .telling } := by
      simp only [go, raising, fault, real, Option.isNone_none, Bool.not_false, Bool.and_self,
        ↓reduceIte]
    rw [kept]
    simp only [go, notify, free, Option.any_none, Bool.or_false, Link.raise, real,
      Bool.false_eq_true, ↓reduceIte]
  | some older =>
    refine ⟨[.go, .go], ?_⟩
    show w.go.go = _
    have kept : w.go = { w with link := w.link.raise failure, reader := .leaving } := by
      simp only [go, raising, fault, real, Option.isNone_some, Bool.not_false, Bool.false_and,
        Bool.false_eq_true, ↓reduceIte]
    rw [kept]
    simp only [go, notify, free, Option.any_none, Bool.or_false, Link.raise, real,
      Bool.false_eq_true, ↓reduceIte, told, fault, Option.isSome_some]

theorem run_receive (w : Inflow) (idle : w.Idle) (bytes : Bytes) :
    ∃ moves reader, w.run moves =
      { w with
        link := w.link.receive bytes
        reader
        raised := (w.link.receive bytes).fault.isSome
        read := w.read ++ bytes } := by
  obtain ⟨⟨buffer, arrived, _, outbound, written, writing, woken, fault, gate, stopping⟩,
    _, _, telling, waiting, _, notified, results, read, finish⟩ := w
  obtain ⟨rfl, rfl, rfl, told⟩ := idle
  obtain rfl : _ = fault.isSome := told
  let begun : Inflow :=
    ⟨⟨buffer ++ bytes, arrived, true, outbound, written, writing, woken, fault, gate, stopping⟩,
      .cutting, fault.isSome, telling, waiting, none, notified, results, read ++ bytes, finish⟩
  obtain ⟨moves, ran⟩ := begun.run_cut rfl rfl [] arrived (List.append_nil _).symm
  rw [← cutFrames] at ran
  cases stopped : (cutFrames (buffer ++ bytes)).stop with
  | none =>
    refine ⟨.read bytes :: moves, .awaiting, ran.trans ?_⟩
    simp only [begun, Link.receive, ↓reduceIte, stopped]
  | some e =>
    obtain ⟨more, raised⟩ := (begun.run moves).run_raise (by rw [ran])
      (by rw [ran]; simp only [begun, stopped]) (rfl : (Failure.protocol e).isCancellation = false)
      (by rw [ran])
    refine ⟨.read bytes :: (moves ++ more), .gone, ?_⟩
    show begun.run (moves ++ more) = _
    rw [run_append, raised, ran]
    simp only [begun, Link.receive, ↓reduceIte, stopped]
    cases fault <;> rfl

/-- The end of the stream, while nobody calls, is what the link makes of it. -/
theorem run_finish (w : Inflow) (idle : w.Idle) (finish : Finish) :
    ∃ moves, w.run moves =
      { w with
        link := w.link.endReading finish
        reader := .gone
        raised := (w.link.endReading finish).fault.isSome
        finish := some finish } := by
  let met : Inflow := { w with reader := finish.reader w.link, finish := some finish }
  have meets : w.step (.finish finish) = met := by
    show (match w.reader with | .awaiting => met | _ => w) = met
    rw [idle.awaiting]
  rcases Link.endReading_cases idle.reading finish with ⟨quiet, same⟩ | ⟨fault, raising, same⟩
  · refine ⟨[.finish finish, .go], ?_⟩
    show (w.step (.finish finish)).go = _
    rw [meets, go_of_leaving quiet, notify_of_free (by exact idle.free), same]
    simp only [met, idle.told]
  · obtain ⟨moves, ran⟩ := met.run_raise idle.free raising rfl idle.told
    refine ⟨.finish finish :: moves, ?_⟩
    show (w.step (.finish finish)).run moves = _
    rw [meets, ran, same]
    simp only [met, Link.raise, Failure.isCancellation, Bool.false_eq_true, ↓reduceIte]
    cases w.link.fault <;> rfl

/-- A call that is alone takes what the link gives; where the link gives nothing, it waits. -/
theorem run_take (w : Inflow) (free : w.holder = none) (calm : w.notified = false)
    (alone : w.waiting = 0) (told : w.raised = w.link.fault.isSome) :
    w.run [.call, .lock, .look, .look, .look] =
      match w.link.take with
      | (link, some result) => { w with link, results := w.results ++ [result] }
      | (_, none) =>
        { w with
          link := { w.link with gate := w.link.gate.acquire.1 }
          holder := some .parked } := by
  obtain ⟨⟨_, arrived, reading, _, _, _, _, fault, ⟨active, shut⟩, stopping⟩,
    _, raised, _, _, _, _, _, _, _⟩ := w
  cases free
  cases calm
  cases alone
  obtain rfl : _ = fault.isSome := told
  cases shut with
  | true => rfl
  | false =>
    cases arrived with
    | cons payload rest => rfl
    | nil =>
      cases fault <;> cases reading <;> cases stopping <;> rfl

end Inflow

end MarketLink.Session
