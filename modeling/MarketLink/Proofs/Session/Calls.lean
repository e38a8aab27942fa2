import MarketLink.Proofs.Correlation.Reply
import MarketLink.Session.Opening
import Mathlib.Data.List.Perm.Subperm

set_option autoImplicit false

namespace MarketLink.Session

open Correlation Wire

/-- All bytes that were queued on a link, whether they have been written or not. -/
def Link.wire (l : Link) : Bytes := l.written ++ l.outbound

/-- Frames can be queued. -/
structure Ready (s : Session) : Prop where
  attached : s.attached = true
  admitting : s.link.gate.closing = false
  faultless : s.link.fault = none

namespace Link

/-- Writing moves bytes along the wire, and does nothing else that a sender could notice. -/
structure Written (l after : Link) : Prop where
  wire : after.wire = l.wire
  gate : after.gate = l.gate
  fault : after.fault = l.fault

theorem Written.trans {first second third : Link} (before : Written first second)
    (next : Written second third) : Written first third :=
  ⟨next.wire.trans before.wire, next.gate.trans before.gate, next.fault.trans before.fault⟩

theorem written_startWriting (l : Link) : Written l l.startWriting := by
  unfold startWriting
  split <;> exact ⟨rfl, rfl, rfl⟩

theorem written_writeChunk (l : Link) : Written l l.writeChunk := by
  unfold writeChunk
  split
  · split
    · exact ⟨rfl, rfl, rfl⟩
    · refine ⟨?_, rfl, rfl⟩
      rw [wire, wire, List.append_assoc, List.take_append_drop]
  · exact ⟨rfl, rfl, rfl⟩

theorem written_drain (l : Link) : Written l l.drain := by
  fun_induction drain l with
  | case1 l _ _ _ => exact written_writeChunk l
  | case2 l _ _ _ ih => exact (written_writeChunk l).trans ih
  | case3 => exact ⟨rfl, rfl, rfl⟩

theorem written_flush (l : Link) : Written l l.flush :=
  (written_startWriting l).trans (written_drain _)

end Link

theorem place_of_ready {s : Session} (ready : Ready s) (n : Nat) (frame : Bytes) :
    s.place n frame = ({ s with
      link := { s.link with outbound := s.link.outbound ++ frame, woken := true } }, .ok ()) := by
  simp [place, send, Link.send, ready.attached, ready.admitting, ready.faultless]

/-- One answer of the gateway. -/
structure Given where
  asked : Nat
  got : Option Nat
  queued : Bool
  deriving DecidableEq, Repr

/-- Calls for one reply code on one session. -/
structure Calls where
  session : Session
  entered : List Nat := []
  sent : List Nat := []
  given : List Given := []

namespace Calls

/-- Something that can happen next. -/
inductive Move where
  | register (slot : Slot)
  | send (n : Nat)
  | write
  | reply (handler : Handler)

variable (code : Int) (frame : Nat → Bytes)

/-- What a move leads to; one that is not possible does not happen. -/
def step (w : Calls) : Move → Calls
  | .register slot =>
    let (table, n) := w.session.table.join code slot false
    { w with session := { w.session with table }, entered := w.entered ++ [n] }
  | .send n =>
    if n ∈ w.entered ∧ n ∉ w.sent then
      match w.session.place n (frame n) with
      | (session, .ok ()) => { w with session, sent := w.sent ++ [n] }
      | (session, .error _) => { w with session }
    else w
  | .write => { w with session := { w.session with link := w.session.link.flush } }
  | .reply handler =>
    match w.sent[w.given.length]? with
    | some asked =>
      let (table, got) := w.session.table.dispatch (.code code) handler
      let queued := got.any fun n => n ∈ w.sent
      { w with session := { w.session with table }, given := w.given ++ [{ asked, got, queued }] }
    | none => w

def run (w : Calls) (moves : List Move) : Calls := moves.foldl (step code frame) w

/-- What holds between moves. The k-th answer is to the k-th frame, and goes to the k-th request. -/
structure Sound (before : Bytes) (w : Calls) : Prop where
  ready : Ready w.session
  queue : w.session.table.queue code = w.entered.drop w.given.length
  distinct : w.entered.Nodup
  once : w.sent.Nodup
  known : w.sent ⊆ w.entered
  few : w.given.length ≤ w.sent.length
  coded : ∀ n ∈ w.entered, w.session.table.codeOf? n = some code
  waiting : ∀ n ∈ w.entered.drop w.given.length,
    ∃ r slot, w.session.table.request? n = some r ∧ r.Holds slot
  ended : ∀ g ∈ w.given, ∀ n, g.got = some n → (w.session.table.outcome? n).isSome = true
  wire : w.session.link.wire = before ++ w.sent.flatMap frame
  matched : ∀ (k : Nat) (g : Given), w.given[k]? = some g →
    w.sent[k]? = some g.asked ∧ w.entered[k]? = g.got ∧
    (g.got = some g.asked → g.queued = true)

variable {code frame} {before : Bytes} {w : Calls}

theorem sound_start {s : Session} (ready : Ready s) (idle : s.table.queue code = []) :
    Sound code frame s.link.wire { session := s } := by
  refine ⟨ready, idle, List.nodup_nil, List.nodup_nil, List.nil_subset _, Nat.le_refl _, ?_, ?_, ?_,
    (List.append_nil _).symm, ?_⟩
  · intro n member
    cases member
  · intro n member
    cases member
  · intro g member
    cases member
  · intro k g found
    cases found

theorem Sound.length_sent (sound : w.Sound code frame before) :
    w.sent.length ≤ w.entered.length :=
  (sound.once.subperm sound.known).length_le

theorem Sound.register (sound : w.Sound code frame before) (slot : Slot) :
    (w.step code frame (.register slot)).Sound code frame before := by
  let n := w.session.table.requests.length
  have fresh : n ∉ w.entered := fun member =>
    Nat.lt_irrefl n (Table.inside_of_codeOf? (sound.coded n member))
  have room : w.given.length ≤ w.entered.length := Nat.le_trans sound.few sound.length_sent
  have left : (w.entered ++ [n]).drop w.given.length = w.entered.drop w.given.length ++ [n] :=
    List.drop_append_of_le_length room
  refine ⟨⟨sound.ready.attached, sound.ready.admitting, sound.ready.faultless⟩, ?_, ?_, sound.once,
    ?_, sound.few, ?_, ?_, ?_, sound.wire, ?_⟩
  · exact (w.session.table.queue_join code slot false).trans (by rw [sound.queue]; exact left.symm)
  · exact nodup_append_singleton sound.distinct fresh
  · exact fun m member => List.mem_append_left _ (sound.known member)
  · intro m member
    rcases List.mem_append.mp member with old | last
    · exact Table.codeOf?_join_of_some code slot false (sound.coded m old)
    · rw [List.mem_singleton.mp last]
      exact w.session.table.codeOf?_join_self code slot false
  · intro m member
    have member : m ∈ (w.entered ++ [n]).drop w.given.length := member
    rw [left] at member
    rcases List.mem_append.mp member with old | last
    · obtain ⟨r, held, found, holds⟩ := sound.waiting m old
      exact ⟨r, held, Table.request?_join_of_some code slot false found, holds⟩
    · obtain ⟨r, found, holds, _⟩ := w.session.table.request?_join_self code slot false
      rw [List.mem_singleton.mp last]
      exact ⟨r, slot, found, holds⟩
  · intro g member m got
    exact Table.ended_of_kept (fun _ => Table.outcome?_join_of_some code slot false)
      (sound.ended g member m got)
  · intro k g found
    obtain ⟨asked, got, queued⟩ := sound.matched k g found
    have inside := (List.getElem?_eq_some_iff.mp found).1
    refine ⟨asked, ?_, queued⟩
    rw [← got]
    exact List.getElem?_append_left (Nat.lt_of_lt_of_le inside room)

theorem Sound.step_send (sound : w.Sound code frame before) {n : Nat} (registered : n ∈ w.entered)
    (unsent : n ∉ w.sent) :
    w.step code frame (.send n) =
      { w with
        session := { w.session with
          link := { w.session.link with
            outbound := w.session.link.outbound ++ frame n, woken := true } }
        sent := w.sent ++ [n] } := by
  rw [step, if_pos ⟨registered, unsent⟩, place_of_ready sound.ready]

theorem Sound.send (sound : w.Sound code frame before) (n : Nat) :
    (w.step code frame (.send n)).Sound code frame before := by
  by_cases possible : n ∈ w.entered ∧ n ∉ w.sent
  · rw [sound.step_send possible.1 possible.2]
    refine ⟨⟨sound.ready.attached, sound.ready.admitting, sound.ready.faultless⟩, sound.queue,
      sound.distinct, ?_, ?_, ?_, sound.coded, sound.waiting, sound.ended, ?_, ?_⟩
    · exact nodup_append_singleton sound.once possible.2
    · intro m member
      rcases List.mem_append.mp member with old | last
      · exact sound.known old
      · rw [List.mem_singleton.mp last]
        exact possible.1
    · show w.given.length ≤ (w.sent ++ [n]).length
      rw [List.length_append]
      exact Nat.le_trans sound.few (Nat.le_add_right _ _)
    · show w.session.link.written ++ (w.session.link.outbound ++ frame n) = _
      rw [← List.append_assoc, ← Link.wire, sound.wire, List.flatMap_append, List.append_assoc]
      simp
    · intro k g found
      obtain ⟨asked, got, queued⟩ := sound.matched k g found
      have inside := (List.getElem?_eq_some_iff.mp asked).1
      exact ⟨(List.getElem?_append_left inside).trans asked, got, queued⟩
  · rw [step, if_neg possible]
    exact sound

theorem Sound.write (sound : w.Sound code frame before) :
    (w.step code frame .write).Sound code frame before := by
  have written := Link.written_flush w.session.link
  refine ⟨⟨sound.ready.attached, ?_, ?_⟩, sound.queue, sound.distinct, sound.once, sound.known,
    sound.few, sound.coded, sound.waiting, sound.ended, written.wire.trans sound.wire,
    sound.matched⟩
  · show w.session.link.flush.gate.closing = false
    rw [written.gate]
    exact sound.ready.admitting
  · exact written.fault.trans sound.ready.faultless

/-- While a frame is to be answered, the oldest request that has got no answer is first in the
queue. -/
theorem Sound.first_waiting (sound : w.Sound code frame before)
    (room : w.given.length < w.sent.length) :
    ∃ n, w.entered[w.given.length]? = some n ∧
      w.entered.drop w.given.length = n :: w.entered.drop (w.given.length + 1) ∧
      w.session.table.queue code = n :: w.entered.drop (w.given.length + 1) ∧
      (n :: w.entered.drop (w.given.length + 1)).Nodup := by
  have inside : w.given.length < w.entered.length := Nat.lt_of_lt_of_le room sound.length_sent
  have left := List.drop_eq_getElem_cons inside
  refine ⟨_, List.getElem?_eq_getElem inside, left, ?_, ?_⟩
  · rw [sound.queue, left]
  · rw [← left]
    exact sound.distinct.sublist (List.drop_sublist _ _)

/-- The answer to a frame goes to the oldest request that has got none. -/
theorem Sound.reply (sound : w.Sound code frame before) (handler : Handler) :
    (w.step code frame (.reply handler)).Sound code frame before := by
  unfold step
  dsimp only
  split
  · rename_i asked found
    have room : w.given.length < w.sent.length := (List.getElem?_eq_some_iff.mp found).1
    obtain ⟨n, first, left, queue, apart⟩ := sound.first_waiting room
    have registered : n ∈ w.entered := List.mem_of_getElem? first
    have got : (w.session.table.dispatch (.code code) handler).2 = some n := by
      rw [Table.dispatch_of_queue queue]
    let answer : Given := { asked, got := some n, queued := decide (n ∈ w.sent) }
    have length : (w.given ++ [answer]).length = w.given.length + 1 := List.length_append
    obtain ⟨r, slot, there, holds⟩ := sound.waiting n (by rw [left]; exact List.mem_cons_self)
    simp only [got, Option.any_some]
    refine ⟨⟨sound.ready.attached, sound.ready.admitting, sound.ready.faultless⟩, ?_,
      sound.distinct, sound.once, sound.known, ?_, ?_, ?_, ?_, sound.wire, ?_⟩
    · rw [length]
      exact Table.queue_dispatch queue apart (sound.coded n registered) handler
    · rw [length]
      exact room
    · intro m member
      exact (Table.codeOf?_dispatch _ code handler m).trans (sound.coded m member)
    · intro m member
      rw [length] at member
      have other : m ≠ n := by
        rintro rfl
        exact (List.nodup_cons.mp apart).1 member
      obtain ⟨r, slot, there, holds⟩ :=
        sound.waiting m (by rw [left]; exact List.mem_cons_of_mem n member)
      exact ⟨r, slot, (Table.request?_dispatch_of_ne queue handler other).trans there, holds⟩
    · intro g member m same
      rcases List.mem_append.mp member with old | last
      · refine Table.ended_of_kept (fun _ done => ?_) (sound.ended g old m same)
        exact Table.outcome?_dispatch_of_some done code handler
      · rw [List.mem_singleton.mp last] at same
        cases same
        exact Option.isSome_iff_exists.mpr
          ⟨_, Table.outcome?_dispatch_of_open queue there holds handler⟩
    · intro k g answer
      rcases getElem?_append_singleton_cases answer with old | ⟨rfl, rfl⟩
      · exact sound.matched k g old
      · refine ⟨found, first, ?_⟩
        intro own
        have same : n = asked := Option.some.inj own
        have queued : asked ∈ w.sent := List.mem_of_getElem? found
        exact decide_eq_true (same.symm ▸ queued)
  · exact sound

theorem Sound.step (sound : w.Sound code frame before) (move : Move) :
    (w.step code frame move).Sound code frame before := by
  cases move with
  | register slot => exact sound.register slot
  | send n => exact sound.send n
  | write => exact sound.write
  | reply handler => exact sound.reply handler

theorem Sound.run (sound : w.Sound code frame before) (moves : List Move) :
    (w.run code frame moves).Sound code frame before := by
  induction moves generalizing w with
  | nil => exact sound
  | cons move rest ih => exact ih (sound.step move)

end Calls

end MarketLink.Session
