import MarketLink.Proofs.Session.WayOut

set_option autoImplicit false

namespace MarketLink.Session

open Correlation Wire

/-- An operation has failed, and has neither registered a request nor queued anything. -/
structure Denied {α : Type} (s : Session) (failure : Failure)
    (result : Session × Except Failure α) :
    Prop where
  told : result.2 = .error failure
  aside : Crowd.Aside s result.1

/-- Nobody gets in any more. -/
structure Sealed (s : Session) : Prop where
  ask : ∀ question, s.Denied .closed (s.ask question)
  subscribe : ∀ feed : Feed, ∃ failure, s.Denied failure (s.subscribe feed) ∧
    (feed.check = .ok () → failure = .closed)
  setMarketDataType : ∀ kind, s.Denied .closed (s.setMarketDataType kind)

theorem sealed_of_closing {s : Session} (shut : s.gate.closing = true)
    (counting : 1 ≤ s.table.nextId) : s.Sealed := by
  refine ⟨?_, ?_, ?_⟩
  · intro question
    obtain ⟨key, drawn⟩ := exists_keyFor counting question
    have drawn : s.keyFor question = ((s.keyFor question).1, .ok key) := Prod.ext rfl drawn
    have closed : (s.keyFor question).1.enter = none :=
      enter_of_closing (by rw [gate_keyFor]; exact shut)
    unfold Session.ask
    rw [drawn]
    dsimp only
    rw [closed]
    exact ⟨rfl, Crowd.aside_keyFor s question⟩
  · intro feed
    unfold Session.subscribe
    cases checked : feed.check with
    | error failure => exact ⟨failure, ⟨rfl, Crowd.Aside.refl s⟩, nofun⟩
    | ok _ =>
      have closed : ({ s with table := s.table.allocate.1 } : Session).enter = none :=
        enter_of_closing shut
      dsimp only
      rw [allocate_of_counting counting]
      dsimp only
      rw [closed]
      exact ⟨.closed, ⟨rfl, Crowd.aside_allocate s⟩, fun _ => rfl⟩
  · intro kind
    unfold Session.setMarketDataType
    rw [enter_of_closing shut]
    exact ⟨rfl, Crowd.Aside.refl s⟩

namespace Hall

variable {h : Hall}

/-- Nobody is inside, the loop has ended, and nobody waits for it. -/
structure Drained (h : Hall) : Prop where
  shut : h.session.gate.closing = true
  free : h.session.gate.active = 0
  nobody : ∀ visit ∈ h.visits, visit.hasGuard = false
  ended : h.crowd.race.loop = .lost
  byId : h.session.table.byId = []
  byCode : h.session.table.byCode = []
  completed : ∀ n c, h.caller? n = some c → c.isRegistered = true →
    (h.session.outcome? n).isSome = true

theorem Minded.isAtRest (minded : h.Minded) (nobody : ∀ visit ∈ h.visits, visit.hasGuard = false)
    {n : Nat} {c : Caller} (there : h.caller? n = some c) : c.isAtRest = true := by
  cases resting : c.isAtRest with
  | true => rfl
  | false =>
    obtain ⟨visit, member, minds⟩ := minded.minded n c there resting
    have guard := nobody visit member
    cases visit with
    | minding _ _ => cases guard
    | outside _ | turnedAway | inside _ | leaving | notifying | gone => cases minds

theorem Sound.drained (sound : h.Sound) (returned : Closer.returned ∈ h.closers) : h.Drained := by
  obtain ⟨shut, _, drained, joined, _⟩ := sound.guarded.assured _ returned
  have free := drained rfl
  have ended := joined rfl
  have nobody : ∀ visit ∈ h.visits, visit.hasGuard = false := by
    have none := sound.guarded.guards.symm.trans free
    exact fun visit member => Bool.eq_false_iff.mpr (List.countP_eq_zero.mp none visit member)
  have race := sound.minded.crowd.race
  have resting : ∀ c ∈ h.crowd.race.callers, c.isAtRest = true := by
    intro c member
    obtain ⟨n, there⟩ := List.mem_iff_getElem?.mp member
    exact sound.minded.isAtRest nobody there
  obtain ⟨byId, byCode⟩ := race.empty_of_lost ended resting
  refine ⟨shut rfl, free, nobody, ended, byId, byCode, ?_⟩
  intro n c there registered
  exact (race.ended_of_lost ended there registered (resting c (List.mem_of_getElem? there))).1

/-- Whatever happens then, nobody gets in. -/
structure Still (h after : Hall) : Prop where
  callers : after.crowd.race.callers = h.crowd.race.callers
  requests : after.session.table.requests = h.session.table.requests

theorem Still.refl (h : Hall) : h.Still h := ⟨rfl, rfl⟩

theorem Still.trans {first second third : Hall} (before : first.Still second)
    (next : second.Still third) : first.Still third :=
  ⟨next.callers.trans before.callers, next.requests.trans before.requests⟩

theorem Drained.call?_eq_none (drained : h.Drained) (v : Nat) : h.call? v = none := by
  unfold call?
  split
  · rename_i there
    have guard := drained.nobody _ (List.mem_of_getElem? there)
    cases guard
  · rfl

/-- A drained session stays as it is, but for its link when the reader or the writer does
something. -/
theorem Drained.still_step (drained : h.Drained) (sound : h.Sound) (move : Move) :
    h.Still (h.step move) ∧
      ((∀ change, move ≠ .transport change) → (h.step move).session.link = h.session.link) := by
  have lost := drained.ended
  cases move with
  | attend v =>
    simp only [Hall.step]
    split
    · rename_i visit there
      have guard := drained.nobody visit (List.mem_of_getElem? there)
      cases visit with
      | outside purpose =>
        simp only [Hall.attend, enter_of_closing drained.shut]
        exact ⟨⟨rfl, rfl⟩, fun _ => rfl⟩
      | inside _ | minding _ _ | leaving => cases guard
      | turnedAway | notifying | gone => exact ⟨⟨rfl, rfl⟩, fun _ => rfl⟩
    · exact ⟨⟨rfl, rfl⟩, fun _ => rfl⟩
  | turn n =>
    have still : h.step (.turn n) = h := by
      show ({ h with crowd := { h.crowd with race := h.crowd.race.step (.turn n) } } : Hall) = h
      unfold Race.step
      dsimp only
      split
      · rename_i c there
        obtain ⟨inside, rfl⟩ := List.getElem?_eq_some_iff.mp there
        rw [turn_of_isAtRest (sound.minded.isAtRest drained.nobody there)]
        unfold Race.place
        rw [List.set_getElem_self]
      · rfl
    rw [still]
    exact ⟨⟨rfl, rfl⟩, fun _ => rfl⟩
  | look v _ | giveUp v =>
    simp only [Hall.step, drained.call?_eq_none v]
    exact ⟨⟨rfl, rfl⟩, fun _ => trivial⟩
  | heed =>
    simp only [Hall.step]
    split
    · simp only [Hall.act, Crowd.step, Race.step, lost]
      exact ⟨⟨rfl, rfl⟩, fun _ => trivial⟩
    · exact ⟨⟨rfl, rfl⟩, fun _ => rfl⟩
  | proceed | receive _ | lose _ =>
    simp only [Hall.step, Hall.act, Crowd.step, Race.step, lost, Loop.turn]
    exact ⟨⟨rfl, rfl⟩, fun _ => trivial⟩
  | carryOn c =>
    simp only [Hall.step]
    split
    · rename_i closer _
      cases closer with
      | waiting waiter => cases waiter <;> exact ⟨⟨rfl, rfl⟩, fun _ => rfl⟩
      | queueing | joining =>
        simp only [Hall.carryOn]
        split <;> exact ⟨⟨rfl, rfl⟩, fun _ => rfl⟩
      | flagging | shutting | signalling | returned => exact ⟨⟨rfl, rfl⟩, fun _ => rfl⟩
    · exact ⟨⟨rfl, rfl⟩, fun _ => rfl⟩
  | visit _ | arrive => exact ⟨⟨rfl, rfl⟩, fun _ => rfl⟩
  | transport change => exact ⟨⟨rfl, rfl⟩, fun other => absurd rfl (other change)⟩
  | draw question =>
    have aside := Crowd.aside_keyFor h.session question
    exact ⟨⟨rfl, aside.requests⟩, fun _ => aside.link⟩

theorem returned_step (returned : Closer.returned ∈ h.closers) (move : Move) :
    Closer.returned ∈ (h.step move).closers := by
  obtain ⟨closer, member, far⟩ := phase_step ⟨_, returned, Nat.le_refl 6⟩ move
  rw [closer.eq_returned_iff.mpr far] at member
  exact member

/-- From then on the session is drained, nobody gets in, and nothing is queued. -/
theorem Sound.still_run (sound : h.Sound) (returned : Closer.returned ∈ h.closers)
    (later : List Move) :
    (h.run later).Drained ∧ (h.run later).session.Sealed ∧ h.Still (h.run later) ∧
      ((∀ change, .transport change ∉ later) → (h.run later).session.link = h.session.link) := by
  induction later generalizing h with
  | nil =>
    have drained := sound.drained returned
    exact ⟨drained, sealed_of_closing drained.shut sound.minded.crowd.counting, .refl h,
      fun _ => rfl⟩
  | cons move rest ih =>
    obtain ⟨still, link⟩ := (sound.drained returned).still_step sound move
    obtain ⟨drained, shut, later, last⟩ := ih (sound.step move) (returned_step returned move)
    refine ⟨drained, shut, still.trans later, fun untouched => ?_⟩
    have first := link fun change same => untouched change (same ▸ List.mem_cons_self)
    exact (last fun change member => untouched change (List.mem_cons_of_mem _ member)).trans first

/-- However closers, visits with their requests, and the loop move, in whatever state the connection
is: behind a closer that has returned the session is drained, and it stays so with nobody let in and
nothing queued. Before that the parties are never all stuck, and they can bring everybody
through. -/
theorem close_drains (s : Session) (firstId : Int) (free : s.gate.active = 0) (moves : List Move) :
    let h := (opened s firstId).run moves
    (Closer.returned ∈ h.closers → ∀ later,
      (h.run later).Drained ∧ (h.run later).session.Sealed ∧ h.Still (h.run later) ∧
        ((∀ change, .transport change ∉ later) →
          (h.run later).session.link = h.session.link)) ∧
    (h.closers ≠ [] →
      (h.Through ∨ ∃ move : Move, move.isOwn = true ∧ h.step move ≠ h) ∧
        h.CanReach fun after => after.Through ∧ after.Drained) := by
  intro h
  have sound : h.Sound := (sound_opened free firstId).run moves
  refine ⟨fun returned later => sound.still_run returned later, fun closes => ?_⟩
  have reach := canReach_through sound closes
  refine ⟨?_, reach.bind fun after done => .now ⟨done.2, ?_⟩⟩
  · by_cases through : h.Through
    · exact Or.inl through
    · exact Or.inr (exists_move_of_canReach reach fun both => through both.2)
  · obtain ⟨ends, through⟩ := done
    obtain ⟨closer, member, _⟩ := ends.signalled
    rw [through.closers closer member] at member
    exact ends.sound.drained member

/-- A call waits when two closers come. Both are parked until the call has found its outcome and has
given its guard back; the second one gets the lock of the loop's handle behind the first one. -/
def callAndTwoClosers : List Move :=
  [Move.visit (.request (.withId 1) (.historicalBars none) false (.ok [1]) none), .attend 0,
      .attend 0, .turn 0, .turn 0, .arrive, .arrive] ++
    List.replicate 5 (Move.carryOn 0) ++ List.replicate 5 (Move.carryOn 1) ++ [Move.heed] ++
    List.replicate 7 Move.proceed ++ [Move.look 0 .outcome, .attend 0, .attend 0, .attend 0] ++
    List.replicate 5 (Move.carryOn 0) ++ List.replicate 4 (Move.carryOn 1) ++
    [Move.carryOn 0, .carryOn 1, .carryOn 1]

theorem waiting_call_is_drained :
    (ofReady {} 7 0 {} 176 "" 1).gate.active = 0 ∧
      ((opened (ofReady {} 7 0 {} 176 "" 1) 1).run callAndTwoClosers).closers =
        [.returned, .returned] ∧
      (((opened (ofReady {} 7 0 {} 176 "" 1) 1).run callAndTwoClosers).session.outcome? 0).isSome =
        true ∧
      ((opened (ofReady {} 7 0 {} 176 "" 1) 1).run callAndTwoClosers).Drained := by
  have closers : ((opened (ofReady {} 7 0 {} 176 "" 1) 1).run callAndTwoClosers).closers =
      [.returned, .returned] := by decide +kernel
  have returned : Closer.returned ∈
      ((opened (ofReady {} 7 0 {} 176 "" 1) 1).run callAndTwoClosers).closers := by
    rw [closers]
    exact List.mem_cons_self
  have settled := close_drains (ofReady {} 7 0 {} 176 "" 1) 1 rfl callAndTwoClosers
  have drained := (settled.1 returned []).1
  rw [run_nil] at drained
  exact ⟨rfl, closers, by decide +kernel, drained⟩

end Hall

end MarketLink.Session
