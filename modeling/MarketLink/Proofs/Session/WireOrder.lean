import MarketLink.Proofs.Session.Calls

set_option autoImplicit false

namespace MarketLink.Session

open Correlation Wire

namespace Calls

/-- The next call to send is the one that registered first among those that have not sent. -/
def next? (w : Calls) : Option Nat := (w.entered.filter fun n => n ∉ w.sent).head?

/-- Whoever sends is next. -/
def InTurn (code : Int) (frame : Nat → Bytes) : Calls → List Move → Prop
  | _, [] => True
  | w, move :: rest =>
    (∀ n, move = .send n → n ∈ w.entered → n ∉ w.sent → w.next? = some n) ∧
      InTurn code frame (w.step code frame move) rest

/-- The frames on the wire stand in the order of the requests, and every answer was got by the call
whose frame it answers, whose frame had been queued. -/
def Aligned (w : Calls) : Prop :=
  w.sent <+: w.entered ∧ ∀ g ∈ w.given, g.got = some g.asked ∧ g.queued = true

variable {code : Int} {frame : Nat → Bytes} {before : Bytes} {w : Calls}

theorem entered_step (move : Move) : w.entered <+: (w.step code frame move).entered := by
  unfold Calls.step
  cases move with
  | register _ => exact List.prefix_append _ _
  | send n =>
    dsimp only
    split
    · split <;> exact List.prefix_refl _
    · exact List.prefix_refl _
  | write => exact List.prefix_refl _
  | reply _ =>
    dsimp only
    split <;> exact List.prefix_refl _

theorem sent_step (move : Move) : w.sent <+: (w.step code frame move).sent := by
  unfold Calls.step
  cases move with
  | register _ | write => exact List.prefix_refl _
  | send n =>
    dsimp only
    split
    · split
      · exact List.prefix_append _ _
      · exact List.prefix_refl _
    · exact List.prefix_refl _
  | reply _ =>
    dsimp only
    split <;> exact List.prefix_refl _

theorem orders_run (moves : List Move) :
    w.entered <+: (w.run code frame moves).entered ∧ w.sent <+: (w.run code frame moves).sent := by
  induction moves generalizing w with
  | nil => exact ⟨List.prefix_refl _, List.prefix_refl _⟩
  | cons move rest ih =>
    obtain ⟨entered, sent⟩ := ih (w := w.step code frame move)
    exact ⟨(entered_step move).trans entered, (sent_step move).trans sent⟩

/-- While the two orders agree, the next call to send is the one behind those that have sent. -/
theorem Sound.next?_of_prefix (sound : w.Sound code frame before) (agree : w.sent <+: w.entered) :
    w.next? = w.entered[w.sent.length]? := by
  obtain ⟨rest, split⟩ := agree
  have distinct := sound.distinct
  rw [← split] at distinct
  have apart := (List.nodup_append.mp distinct).2.2
  have gone : w.sent.filter (fun n => n ∉ w.sent) = [] :=
    List.filter_eq_nil_iff.mpr fun n member => by simpa using member
  have kept : rest.filter (fun n => n ∉ w.sent) = rest := by
    refine List.filter_eq_self.mpr fun n member => decide_eq_true ?_
    exact fun sent => apart n sent n member rfl
  unfold Calls.next?
  rw [← split, List.filter_append, gone, kept, List.nil_append,
    List.getElem?_append_right (Nat.le_refl _), Nat.sub_self, List.head?_eq_getElem?]

theorem Sound.prefix_step (sound : w.Sound code frame before) (agree : w.sent <+: w.entered)
    {move : Move}
    (turn : ∀ n, move = .send n → n ∈ w.entered → n ∉ w.sent → w.next? = some n) :
    (w.step code frame move).sent <+: (w.step code frame move).entered := by
  cases move with
  | register _ => exact agree.trans (entered_step _)
  | send n =>
    by_cases possible : n ∈ w.entered ∧ n ∉ w.sent
    · have next := turn n rfl possible.1 possible.2
      rw [sound.next?_of_prefix agree] at next
      rw [sound.step_send possible.1 possible.2]
      obtain ⟨rest, split⟩ := agree
      rw [← split, List.getElem?_append_right (Nat.le_refl _), Nat.sub_self,
        ← List.head?_eq_getElem?] at next
      obtain ⟨others, same⟩ := List.head?_eq_some_iff.mp next
      refine ⟨others, ?_⟩
      rw [← split, same, List.append_assoc]
      rfl
    · rw [Calls.step, if_neg possible]
      exact agree
  | write => exact agree
  | reply _ =>
    unfold Calls.step
    dsimp only
    split <;> exact agree

theorem Sound.prefix_of_inTurn (sound : w.Sound code frame before) (agree : w.sent <+: w.entered)
    {moves : List Move} (inTurn : InTurn code frame w moves) :
    (w.run code frame moves).sent <+: (w.run code frame moves).entered := by
  induction moves generalizing w with
  | nil => exact agree
  | cons move rest ih =>
    exact ih (sound.step move) (sound.prefix_step agree inTurn.1) inTurn.2

theorem Sound.prefix_of_run (sound : w.Sound code frame before) {moves : List Move}
    (agree : (w.run code frame moves).sent <+: (w.run code frame moves).entered) :
    w.sent <+: w.entered := by
  have orders : w.entered <+: (w.run code frame moves).entered ∧
      w.sent <+: (w.run code frame moves).sent := orders_run moves
  exact List.prefix_of_prefix_length_le (orders.2.trans agree) orders.1 sound.length_sent

theorem Sound.inTurn_of_prefix (sound : w.Sound code frame before) {moves : List Move}
    (agree : (w.run code frame moves).sent <+: (w.run code frame moves).entered) :
    InTurn code frame w moves := by
  induction moves generalizing w with
  | nil => exact trivial
  | cons move rest ih =>
    refine ⟨?_, ih (sound.step move) agree⟩
    rintro n rfl registered unsent
    have now := sound.prefix_of_run agree
    have after := (sound.step (.send n)).prefix_of_run agree
    rw [sound.step_send registered unsent] at after
    obtain ⟨others, split⟩ := after
    rw [sound.next?_of_prefix now, ← split, List.append_assoc,
      List.getElem?_append_right (Nat.le_refl _), Nat.sub_self]
    rfl

theorem Sound.own_answers (sound : w.Sound code frame before) (agree : w.sent <+: w.entered)
    {g : Given} (member : g ∈ w.given) : g.got = some g.asked ∧ g.queued = true := by
  obtain ⟨k, found⟩ := List.mem_iff_getElem?.mp member
  obtain ⟨asked, got, queued⟩ := sound.matched k g found
  have same : w.entered[k]? = some g.asked := by
    obtain ⟨rest, split⟩ := agree
    rw [← split, List.getElem?_append_left (List.getElem?_eq_some_iff.mp asked).1, asked]
  have own : g.got = some g.asked := got.symm.trans same
  exact ⟨own, queued own⟩

theorem Sound.ended_iff (sound : w.Sound code frame before) {n : Nat} (member : n ∈ w.entered) :
    (w.session.table.outcome? n).isSome = true ↔ ∃ g ∈ w.given, g.got = some n := by
  constructor
  · intro ended
    obtain ⟨k, there⟩ := List.mem_iff_getElem?.mp member
    by_cases answered : k < w.given.length
    · obtain ⟨_, got, _⟩ := sound.matched k _ (List.getElem?_eq_getElem answered)
      exact ⟨_, List.getElem_mem answered, got.symm.trans there⟩
    · have waits : n ∈ w.entered.drop w.given.length := by
        refine List.mem_iff_getElem?.mpr ⟨k - w.given.length, ?_⟩
        rw [List.getElem?_drop, Nat.add_sub_cancel' (Nat.le_of_not_lt answered), there]
      obtain ⟨r, slot, found, _, running⟩ := sound.waiting n waits
      rw [Table.outcome?, found, Option.bind_some, running] at ended
      cases ended
  · rintro ⟨g, given, got⟩
    exact sound.ended g given n got

/-- The queue keeps the order of registration, the wire that of sending, and the k-th answer, which
is to the k-th frame, completes the k-th request. So the frames stand in the order of the queue, and
every answer completes the call whose frame it answers, just when the calls send in turn. -/
theorem queue_order_is_wire_order_iff (code : Int) (frame : Nat → Bytes) {s : Session}
    (ready : Ready s) (idle : s.table.queue code = []) (moves : List Move) :
    let w := run code frame { session := s } moves
    (w.session.table.queue code = w.entered.drop w.given.length ∧
      w.session.link.wire = s.link.wire ++ w.sent.flatMap frame ∧
      (∀ (k : Nat) (g : Given), w.given[k]? = some g →
        w.sent[k]? = some g.asked ∧ w.entered[k]? = g.got) ∧
      ∀ n ∈ w.entered,
        (w.session.table.outcome? n).isSome = true ↔ ∃ g ∈ w.given, g.got = some n) ∧
    (w.Aligned ↔ InTurn code frame { session := s } moves) := by
  intro w
  have start : Sound code frame s.link.wire { session := s } := sound_start ready idle
  have sound : w.Sound code frame s.link.wire := start.run moves
  refine ⟨⟨sound.queue, sound.wire, ?_, fun n => sound.ended_iff⟩, ?_, ?_⟩
  · intro k g found
    obtain ⟨asked, got, _⟩ := sound.matched k g found
    exact ⟨asked, got⟩
  · intro aligned
    exact start.inTurn_of_prefix aligned.1
  · intro inTurn
    have agree := start.prefix_of_inTurn (List.prefix_refl []) inTurn
    exact ⟨agree, fun g member => sound.own_answers agree member⟩

theorem calls_in_turn_are_aligned :
    let s := ofReady {} 7 0 {} 176 "" 1
    let moves := [.register (.currentTime none), .send 0, .register (.currentTime none), .send 1,
      .write, .reply (Handler.storeTime "current time" ⟨100, 0⟩),
      .reply (Handler.storeTime "current time" ⟨200, 0⟩)]
    Ready s ∧ s.table.queue 49 = [] ∧
      (run 49 (fun _ => [1]) { session := s } moves).Aligned := by
  intro s moves
  have ready : Ready s := ⟨rfl, rfl, rfl⟩
  have inTurn : InTurn 49 (fun _ => [1]) { session := s } moves := by
    refine ⟨nofun, ?_, nofun, ?_, nofun, nofun, nofun, trivial⟩
    · rintro n ⟨⟩ _ _
      rfl
    · rintro n ⟨⟩ _ _
      rfl
  exact ⟨ready, rfl,
    (queue_order_is_wire_order_iff 49 (fun _ => [1]) ready rfl moves).2.mpr inTurn⟩

/-- The second call sends before the first one. The answer to its frame completes the first call,
whose frame has not been queued yet, and the second call is left with the answer to the first
one. -/
theorem overtaking_call_loses_its_answer :
    let w := run 49 (fun _ => [1]) { session := ofReady {} 7 0 {} 176 "" 1 }
      [.register (.currentTime none), .register (.currentTime none), .send 1,
        .reply (Handler.storeTime "current time" ⟨200, 0⟩), .send 0,
        .reply (Handler.storeTime "current time" ⟨100, 0⟩)]
    w.entered = [0, 1] ∧ w.sent = [1, 0] ∧
      w.given = [{ asked := 1, got := some 0, queued := false },
        { asked := 0, got := some 1, queued := true }] ∧
      w.session.table.outcome? 0 = some (.ok (.currentTime (some ⟨200, 0⟩))) ∧
      w.session.table.outcome? 1 = some (.ok (.currentTime (some ⟨100, 0⟩))) ∧ ¬ w.Aligned := by
  intro w
  have entered : w.entered = [0, 1] := rfl
  have sent : w.sent = [1, 0] := rfl
  refine ⟨entered, sent, rfl, rfl, rfl, ?_⟩
  rintro ⟨agree, _⟩
  rw [entered, sent] at agree
  exact absurd agree (by decide)

end Calls

end MarketLink.Session
