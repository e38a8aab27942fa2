import MarketLink.Proofs.Session.Written

set_option autoImplicit false

namespace MarketLink.Session

open Wire

/-- A bound on the steps that a send has left, and on those that its frame makes for the writer. -/
def Sending.left (frame : Bytes) : Sending → Nat
  | .looking => 7 + 2 * frame.length
  | .entering => 6 + 2 * frame.length
  | .checking => 5 + 2 * frame.length
  | .queueing => 4 + 2 * frame.length
  | .waking => 3
  | .leaving _ => 2
  | .returning _ => 1

def Departure.left : Departure → Nat
  | .serving => 8
  | .noting _ => 7
  | .signalling => 6
  | .detaching => 5
  | .shutting => 4
  | .stopping => 3
  | .waiting => 2
  | .joining => 1
  | .closed => 0

def Writing.left : Writing → Nat
  | .draining false => 3
  | .resting => 2
  | .draining true => 1
  | .stopped => 0

/-- A bound on the steps that a link's reader and writer have left. -/
def Link.left (l : Link) : Nat :=
  2 * l.outbound.length + l.writing.left + l.reading.toNat

namespace Outflow

/-- The moves of the parties themselves: whoever holds the lock, the writer and the transport that
takes what it is given, the reader that is told to stop, and the end of the connection. -/
def Move.isOwn : Move → Bool
  | .go | .wakeLast | .pick | .put _ | .raise | .read .stop | .proceed => true
  | .lock _ | .wake | .fail _ | .read _ | .lose _ => false

def left (w : Outflow) : Nat :=
  w.ending.left + (w.holder.elim 0 fun send => send.2.left send.1) + w.session.link.left +
    w.chunk.length + w.raising.isSome.toNat

variable {w : Outflow}

theorem left_turn (s : Session) (frame : Bytes) {sending : Sending}
    (moving : ∀ result, sending ≠ .returning result) :
    (sending.turn s frame).2.left frame + (sending.turn s frame).1.link.left <
      sending.left frame + s.link.left := by
  cases sending with
  | returning result => exact absurd rfl (moving result)
  | looking | entering | checking =>
    simp only [Sending.turn]
    split <;> simp only [Sending.left, Link.left] <;> omega
  | queueing =>
    simp only [Sending.turn, Sending.left, Link.left, List.length_append]
    omega
  | waking | leaving _ =>
    simp only [Sending.turn, Sending.left, Link.left]
    omega

theorem left_go {send : Bytes × Sending} (held : w.holder = some send) : w.go.left < w.left := by
  rcases go_cases w with
    ⟨free, _⟩ | ⟨frame, result, held', same⟩ | ⟨frame, sending, held', moving, same⟩
  · cases free.symm.trans held
  · rw [same, left, left, held']
    simp [Sending.left]
  · have fewer := left_turn w.session frame moving
    rw [same, left, left, held']
    simp only [Option.elim_some]
    omega

theorem left_raise (l : Link) (failure : Failure) : (l.raise failure).left = l.left := by
  unfold Link.raise
  split <;> rfl

/-- A chunk that is taken out of the queue counts half; the last round is the shorter one. -/
theorem left_pick (idle : w.chunk = []) {last : Bool}
    (draining : w.session.link.writing = .draining last) : w.pick.left < w.left := by
  rw [pick_of_draining idle draining]
  split
  · cases last <;> simp [left, Link.left, setLink, draining, Writing.left]
  · rename_i more
    have some : 0 < w.session.link.outbound.length := List.length_pos_iff.mpr (by simpa using more)
    simp only [left, Link.left, setLink, idle, List.length_drop, List.length_take, List.length_nil,
      Link.chunkLimit]
    omega

theorem exists_nearer (locked : w.Locked) (begun : w.ending ≠ .serving)
    (still : w.ending ≠ .closed) :
    ∃ move : Move, move.isOwn = true ∧ (w.step move).left < w.left ∧
      (w.step move).ending ≠ .serving := by
  cases held : w.holder with
  | some send =>
    refine ⟨.go, rfl, left_go held, ?_⟩
    rcases go_cases w with ⟨_, same⟩ | ⟨_, _, _, same⟩ | ⟨_, _, _, _, same⟩ <;>
      simpa [step, same] using begun
  | none =>
    have free : w.session.link.gate.active = 0 := by simpa [isInside, held] using locked.guards
    cases ending : w.ending with
    | serving => exact absurd ending begun
    | closed => exact absurd ending still
    | noting _ | signalling | shutting | stopping | detaching | waiting =>
      refine ⟨.proceed, rfl, ?_, ?_⟩ <;>
        simp [step, proceed, ending, held, free, left, Departure.left, Link.left, setLink,
          Session.noteEnd, Session.signalDown, Session.detach]
    | joining =>
      have told : w.session.link.shutdown = true := by
        rw [locked.shutdown, ending]
        rfl
      cases raising : w.raising with
      | some failure =>
        refine ⟨.raise, rfl, ?_, ?_⟩ <;>
          simp [step, raising, ending, left, left_raise, setLink]
      | none =>
        cases reading : w.session.link.reading with
        | true =>
          refine ⟨.read .stop, rfl, ?_, ?_⟩ <;>
            simp [step, ending, left, Link.left, Link.read, Link.stopReading, setLink, told,
              reading]
        | false =>
          by_cases busy : w.chunk = []
          · cases writing : w.session.link.writing with
            | stopped =>
              refine ⟨.proceed, rfl, ?_, ?_⟩ <;>
                simp [step, proceed, ending, left, Departure.left, reading, writing, raising]
            | resting =>
              refine ⟨.wakeLast, rfl, ?_, ?_⟩ <;>
                simp [step, ending, left, Link.left, Link.startLastWriting, setLink, told, writing,
                  Writing.left]
            | draining last =>
              exact ⟨.pick, rfl, left_pick busy writing, by
                rw [step, pick_of_draining busy writing]
                split <;> simp [setLink, ending]⟩
          · have some : 0 < w.chunk.length := List.length_pos_iff.mpr busy
            refine ⟨.put w.chunk.length, rfl, ?_, ?_⟩
            · simpa [step, put, left, Link.left, setLink] using some
            · simp [step, put, ending, setLink]

/-- The end of the connection, once it has begun, can be carried through by the parties' own
steps. -/
theorem exists_closed (w : Outflow) (locked : w.Locked) (begun : w.ending ≠ .serving) :
    ∃ own, (∀ move ∈ own, move.isOwn = true) ∧ (w.run own).ending = .closed := by
  by_cases done : w.ending = .closed
  · exact ⟨[], by simp, done⟩
  · obtain ⟨move, isOwn, fewer, goesOn⟩ := exists_nearer locked begun done
    obtain ⟨own, all, ended⟩ := exists_closed (w.step move) (locked.step move) goesOn
    refine ⟨move :: own, ?_, ended⟩
    intro other member
    rcases List.mem_cons.mp member with rfl | member
    · exact isOwn
    · exact all other member
termination_by w.left

/-- The frames of the sends that have returned with success, and the one that is under way, are
among those that have got the lock, in the same order. -/
theorem Locked.accepted_sublist (locked : w.Locked) : w.accepted.Sublist w.locked := by
  rw [locked.order]
  refine List.Sublist.append (List.filter_sublist.map _) ?_
  rw [underway, holding]
  cases w.holder with
  | none => exact List.nil_sublist _
  | some send =>
    dsimp only
    split
    · exact List.Sublist.refl _
    · exact List.nil_sublist _

theorem Locked.accepted_of_closed (locked : w.Locked) (closed : w.ending = .closed) :
    w.accepted = w.sent := by
  have shutdown : w.session.link.shutdown = true := by
    rw [locked.shutdown, closed]
    rfl
  have none : w.underway = [] := by
    cases held : w.holder with
    | none => rw [underway, held]
    | some send =>
      have outside := locked.outside shutdown held
      rw [underway_eq held]
      cases sending : send.2 with
      | looking | entering | checking | queueing => rfl
      | waking | leaving _ =>
        rw [sending] at outside
        cases outside
      | returning result =>
        rw [sending] at outside
        cases result with
        | error _ => rfl
        | ok _ => cases outside
  rw [accepted, none, List.append_nil]

/-- Sends, wake-ups, chunks, faults and the end of the connection may follow each other in any way.
What has been handed to the transport is a prefix of the accepted frames in the order of the lock,
behind the bytes that were on the wire before, and no frame is taken back. While bytes are queued
and the writer has not stopped, it has set out or a wake-up is pending. When the link is closed and
no write has failed, the frames of all sends that succeeded have been written; and once the end has
begun, the parties can bring it about by themselves. -/
theorem outbound_stream (s : Session) (up : Up s) (moves : List Move) :
    let w := run { session := s } moves
    (w.locked = w.returned.map Prod.fst ++ w.holding ∧ w.accepted.Sublist w.locked ∧
      ∀ later, w.accepted <+: (w.run later).accepted) ∧
    w.session.link.written <+: s.link.wire ++ w.accepted.flatten ∧
    (w.session.link.outbound ≠ [] → w.session.link.writing ≠ .stopped →
      w.WakePending ∨ w.Draining) ∧
    (w.ending = .closed → (∀ move ∈ moves, move.isFault = false) →
      w.accepted = w.sent ∧ w.session.link.written = s.link.wire ++ w.sent.flatten) ∧
    (w.ending ≠ .serving →
      ∃ own, (∀ move ∈ own, move.isOwn = true) ∧ (w.run own).ending = .closed) := by
  intro w
  have locked : w.Locked := (locked_start up).run moves
  have writes : w.Writes := (writes_start up).run moves
  have ordered : w.Ordered s.link.wire := Ordered.run (Or.inl (whole_start up).stream) moves
  refine ⟨⟨locked.order, locked.accepted_sublist, accepted_run w⟩, ordered.written_prefix,
    writes.pending, ?_, exists_closed w locked⟩
  intro closed fine
  have whole : w.Whole s.link.wire := (whole_start up).run (locked_start up) (writes_start up) fine
  have none := (whole.stopped (writes.closed closed).2.1).2
  have stopped := (writes.closed closed).2.1
  have all := locked.accepted_of_closed closed
  have whole := whole.stream
  rw [stream, owed, writes.idle stopped, none, all] at whole
  exact ⟨all, by simpa using whole⟩

/-- Two sends. The end of the connection has begun when the second one queues its frame, while the
writer has the frame of the first one in its hands; both are written when the link is closed. -/
theorem both_frames_are_written :
    let s := ofReady {} 7 0 {} 176 "" 1
    let moves := [.lock [1, 2], .go, .go, .go, .go, .go, .go, .go, .lock [3], .go, .go, .go, .wake,
      .lose .closed, .proceed, .proceed, .pick, .put 1, .go, .go, .put 1, .pick, .go, .go, .proceed,
      .proceed, .proceed, .proceed, .read .stop, .put 1, .pick, .wakeLast, .pick, .proceed]
    Up s ∧ (run { session := s } moves).ending = .closed ∧
      (run { session := s } moves).sent = [[1, 2], [3]] ∧
      (run { session := s } moves).session.link.written = [1, 2, 3] := by
  intro s moves
  have up : Up s := ⟨rfl, rfl, rfl, Or.inl rfl, fun queued => absurd rfl queued⟩
  have closed : (run { session := s } moves).ending = .closed := by decide +kernel
  have sent : (run { session := s } moves).sent = [[1, 2], [3]] := by decide +kernel
  obtain ⟨_, _, _, finished, _⟩ := outbound_stream s up moves
  refine ⟨up, closed, sent, ?_⟩
  rw [(finished closed (by decide)).2, sent]
  rfl

end Outflow

end MarketLink.Session
