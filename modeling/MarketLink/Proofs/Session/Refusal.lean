import MarketLink.Proofs.Correlation.Apart
import MarketLink.Proofs.Session.TurnedAway
import MarketLink.Proofs.Session.Withdrawal

set_option autoImplicit false

namespace MarketLink.Session

open Correlation Message Wire

/-- Whether a request would be let in and its frame be queued, and if not, what is in the way. -/
def admits (s : Session) (key : Key) (frame : Except WireError Bytes) : Except Failure Unit :=
  match frame with
  | .error e => .error (.protocol e)
  | .ok frame =>
    match key.id?.filter fun id => (s.table.pendingId? id).isSome with
    | some id => .error (.internal ("id " ++ toString id ++ " is already pending"))
    | none => (s.send frame).2

def passes (s : Session) : Except Failure Unit := if s.gate.closing then .error .closed else .ok ()

namespace Errand

def check : Errand → Except Failure Unit
  | .call _ => .ok ()
  | .stream feed => feed.check

/-- The number that an errand draws: an id, or one that only tells requests of one code apart. -/
def number (t : Table) : Errand → Except Failure Int
  | .call question => if question.code?.isSome then .ok (bump t.nextSeq).1 else t.allocate.2
  | .stream _ => t.allocate.2

def encode (number : Int) : Errand → Except WireError Bytes
  | .call question => question.frame ((Errand.call question).key number)
  | .stream feed => feed.frame number

end Errand

/-- What somebody comes to a session for: an errand, or another kind of data. -/
inductive Approach where
  | comes (errand : Errand)
  | switch (kind : Int)

namespace Approach

/-- Somebody comes. A call that is not turned away waits, and a stream that is not is given out. -/
def make (s : Session) : Approach → Session × Except Failure Unit
  | .comes (.call question) => ((s.ask question).1, (s.ask question).2.map fun _ => ())
  | .comes (.stream feed) => ((s.subscribe feed).1, (s.subscribe feed).2.map fun _ => ())
  | .switch kind => s.setMarketDataType kind

/-- Why somebody is turned away: the first of the reasons, in the order in which they are looked
for. -/
def admission (s : Session) : Approach → Except Failure Unit
  | .comes errand => do
    errand.check
    let number ← errand.number s.table
    s.passes
    s.admits (errand.key number) (errand.encode number)
  | .switch kind => do
    s.passes
    let frame ← (reqMarketDataType kind).mapError .protocol
    (s.send frame).2

end Approach

/-- Nothing has changed but counters, and nothing was made that is still in the way of anybody. -/
structure Untraced (s after : Session) : Prop where
  table : s.table.Unchanged after.table
  rest : after = { s with table := after.table }

section Untraced

variable {s after : Session} {failure : Failure}

theorem Untraced.refl (s : Session) : Untraced s s := ⟨.refl _, rfl⟩

theorem Untraced.trans {first second third : Session} (before : Untraced first second)
    (next : Untraced second third) : Untraced first third := by
  refine ⟨before.table.trans next.table, ?_⟩
  rw [next.rest, before.rest]

theorem untraced_submit (filed : s.table.Filed) {request : Request} {frame : Except WireError Bytes}
    (refused : (s.submit request frame).2 = .error failure) :
    Untraced s (s.submit request frame).1 := by
  cases frame with
  | error e => exact .refl s
  | ok frame =>
    let enrolled : Session := { s with table := (s.table.enroll request).1 }
    rcases register : (s.table.enroll request).2 with other | ⟨⟩
    · -- another request is pending under the id, and stays
      rw [submit_frame, register]
      refine ⟨?_, rfl⟩
      rcases filed.enroll_result request with ⟨letIn, _⟩ | ⟨_, same⟩
      · rw [register] at letIn
        cases letIn
      · show s.table.Unchanged (s.table.enroll request).1
        rw [same]
        exact s.table.unchanged_create request
    · have placed : (s.submit request (.ok frame)).1 =
          (enrolled.place s.table.requests.length frame).1 := by rw [submit_frame, register]
      rw [submit_frame, register] at refused
      rw [placed]
      rcases enrolled.send_cases frame with ⟨other, sent⟩ | sent
      · rw [place, sent]
        exact ⟨filed.unchanged_cancel_enroll request other, rfl⟩
      · have accepted : (enrolled.place s.table.requests.length frame).2 = .ok () := by
          rw [place, sent]
        have refused : (enrolled.place s.table.requests.length frame).2.map
            (fun _ => s.table.requests.length) = .error failure := refused
        rw [accepted] at refused
        cases refused

/-- Whoever passes the gate and comes back out leaves it as it was. -/
theorem untraced_inside {inside : Session} (entered : s.enter = some inside)
    (untraced : Untraced inside after) : Untraced s after.leave := by
  rcases s.enter_cases with ⟨_, shut⟩ | ⟨admitting, _⟩
  · rw [shut] at entered
    cases entered
  · unfold enter Gate.acquire at entered
    rw [admitting] at entered
    cases entered
    refine ⟨untraced.table, ?_⟩
    rw [untraced.rest, leave, Gate.release]
    simp [← admitting]

theorem untraced_keyFor (s : Session) (question : Question) : Untraced s (s.keyFor question).1 := by
  cases question <;> exact ⟨.of_rows rfl rfl rfl, rfl⟩

theorem keyFor_snd (s : Session) (question : Question) :
    (s.keyFor question).2 =
      ((Errand.call question).number s.table).map fun number =>
        (Errand.call question).key number := by
  cases question <;> rfl

/-- What the link says to a frame depends on the connection alone. -/
theorem send_snd (s : Session) (frame : Bytes) :
    (s.send frame).2 = if s.attached then (s.link.send frame).2 else .error s.closedFailure := by
  unfold send
  split <;> rfl

theorem send_of_aside (aside : Crowd.Aside s after) (frame : Bytes) :
    (after.send frame).2 = (s.send frame).2 := by
  rw [send_snd, send_snd, aside.link, aside.attached, closedFailure, aside.terminal, closedFailure]

theorem admits_of_aside (aside : Crowd.Aside s after) (key : Key) (frame : Except WireError Bytes) :
    after.admits key frame = s.admits key frame := by
  unfold admits Table.pendingId?
  simp only [aside.byId, send_of_aside aside]

/-- A request is let in unless another one is pending under its id. -/
theorem enroll_snd (t : Table) (key : Key) (slot : Slot) (streaming : Bool) :
    (t.enroll (Request.new key slot streaming)).2 =
      match key.id?.filter fun id => (t.pendingId? id).isSome with
      | some id => .error (.internal ("id " ++ toString id ++ " is already pending"))
      | none => .ok () := by
  have made := t.idOf?_create_self (Request.new key slot streaming)
  rcases key.id_or_code with ⟨id, carries, _⟩ | ⟨code, without, waits⟩
  · have carries : (Request.new key slot streaming).key.id? = some id := carries
    rw [Table.enroll_snd carries, show key.id? = some id from carries, Option.filter_some]
    split <;> rfl
  · have coded : (t.create (Request.new key slot streaming)).1.codeOf? t.requests.length =
        some code := by
      have waits : (Request.new key slot streaming).key.code? = some code := waits
      simpa [Table.codeOf?, Table.request?, Table.create] using waits
    rw [Table.enroll, Table.register_of_code coded, without]
    rfl

/-- A request is submitted if and only if nothing is in its way. -/
theorem submit_snd (s : Session) (key : Key) (slot : Slot) (streaming : Bool)
    (frame : Except WireError Bytes) :
    (s.submit (Request.new key slot streaming) frame).2.map (fun _ => ()) = s.admits key frame := by
  cases frame with
  | error e => rfl
  | ok frame =>
    have letIn := enroll_snd s.table key slot streaming
    have sends :=
      send_snd { s with table := (s.table.enroll (Request.new key slot streaming)).1 } frame
    rw [submit_frame, admits]
    dsimp only
    cases taken : key.id?.filter fun id => (s.table.pendingId? id).isSome with
    | some id =>
      rw [taken] at letIn
      rw [letIn]
      rfl
    | none =>
      rw [taken] at letIn
      rw [letIn, send_snd]
      dsimp only
      rw [place]
      revert sends
      rcases Session.send _ frame with ⟨through, failure | ⟨⟩⟩ <;>
        exact fun sends => sends

/-- Behind the gate a request meets what was in its way before it, and coming back out leaves
nothing. -/
theorem submit_inside {inside : Session} (filed : s.table.Filed) (entered : s.enter = some inside)
    (key : Key) (slot : Slot) (streaming : Bool) (frame : Except WireError Bytes) :
    (∃ through n, inside.submit (Request.new key slot streaming) frame = (through, .ok n) ∧
        s.admits key frame = .ok ()) ∨
      ∃ through other, inside.submit (Request.new key slot streaming) frame =
          (through, .error other) ∧
        s.admits key frame = .error other ∧ Untraced s through.leave := by
  rcases s.enter_cases with ⟨_, shut⟩ | ⟨_, other, also, aside⟩
  · rw [shut] at entered
    cases entered
  cases entered.symm.trans also
  have admits := inside.submit_snd key slot streaming frame
  rw [admits_of_aside aside] at admits
  cases outcome : (inside.submit (Request.new key slot streaming) frame).2 with
  | error other =>
    rw [outcome] at admits
    exact Or.inr ⟨_, other, Prod.ext rfl outcome, admits.symm,
      untraced_inside entered (untraced_submit (aside.filed filed) outcome)⟩
  | ok n =>
    rw [outcome] at admits
    exact Or.inl ⟨_, n, Prod.ext rfl outcome, admits.symm⟩

theorem ask_refused (filed : s.table.Filed) (question : Question) :
    (s.ask question).2.map (fun _ => ()) = Approach.admission s (.comes (.call question)) ∧
      ∀ failure, Approach.admission s (.comes (.call question)) = .error failure →
        Untraced s (s.ask question).1 := by
  have drawn := s.keyFor_snd question
  have untraced := s.untraced_keyFor question
  have aside := Crowd.aside_keyFor s question
  have gate := s.gate_keyFor question
  have admission : Approach.admission s (.comes (.call question)) =
      ((Errand.call question).number s.table).bind fun number => s.passes.bind fun _ =>
        s.admits ((Errand.call question).key number) ((Errand.call question).encode number) := rfl
  rw [admission]
  unfold ask
  cases counted : (Errand.call question).number s.table with
  | error other =>
    rw [counted] at drawn
    rw [show s.keyFor question = ((s.keyFor question).1, .error other) from Prod.ext rfl drawn]
    exact ⟨rfl, fun _ _ => untraced⟩
  | ok number =>
    rw [counted] at drawn
    rw [show s.keyFor question = ((s.keyFor question).1,
      .ok ((Errand.call question).key number)) from
      Prod.ext rfl drawn]
    dsimp only
    rcases (s.keyFor question).1.enter_cases with ⟨closing, shut⟩ | ⟨admitting, inside, entered, _⟩
    · rw [gate] at closing
      rw [shut]
      simp only [Except.bind, passes, closing]
      exact ⟨rfl, fun _ _ => untraced⟩
    · rw [gate] at admitting
      rw [entered]
      simp only [Except.bind, passes, admitting, Bool.false_eq_true, ↓reduceIte]
      rcases submit_inside (aside.filed filed) entered ((Errand.call question).key number)
          question.slot false (question.frame ((Errand.call question).key number)) with
        ⟨through, n, submitted, admits⟩ | ⟨through, other, submitted, admits, left⟩
      · rw [admits_of_aside aside] at admits
        rw [submitted, Errand.encode, admits]
        exact ⟨rfl, nofun⟩
      · rw [admits_of_aside aside] at admits
        rw [submitted, Errand.encode, admits]
        exact ⟨rfl, fun _ _ => untraced.trans left⟩

theorem subscribe_refused (filed : s.table.Filed) (feed : Feed) :
    (s.subscribe feed).2.map (fun _ => ()) = Approach.admission s (.comes (.stream feed)) ∧
      ∀ failure, Approach.admission s (.comes (.stream feed)) = .error failure →
        Untraced s (s.subscribe feed).1 := by
  have aside := Crowd.aside_allocate s
  have untraced : Untraced s { s with table := s.table.allocate.1 } := ⟨.of_rows rfl rfl rfl, rfl⟩
  have admission : Approach.admission s (.comes (.stream feed)) =
      feed.check.bind fun _ => s.table.allocate.2.bind fun number => s.passes.bind fun _ =>
        s.admits (.ticker number) (feed.frame number) := rfl
  rw [admission]
  unfold subscribe
  rcases feed.check with other | ⟨⟩
  · exact ⟨rfl, fun _ _ => .refl s⟩
  dsimp only [Except.bind]
  rcases s.table.allocate.2 with other | number
  · exact ⟨rfl, fun _ _ => untraced⟩
  dsimp only
  rcases Session.enter_cases { s with table := s.table.allocate.1 } with
    ⟨closing, shut⟩ | ⟨admitting, inside, entered, _⟩
  · have closing : s.gate.closing = true := closing
    rw [shut]
    simp only [passes, closing]
    exact ⟨rfl, fun _ _ => untraced⟩
  · have admitting : s.gate.closing = false := admitting
    rw [entered]
    simp only [passes, admitting, Bool.false_eq_true, ↓reduceIte]
    rcases submit_inside (aside.filed filed) entered (.ticker number) feed.slot true
        (feed.frame number) with
      ⟨through, n, submitted, admits⟩ | ⟨through, other, submitted, admits, left⟩
    · rw [admits_of_aside aside] at admits
      rw [submitted, admits]
      exact ⟨rfl, nofun⟩
    · rw [admits_of_aside aside] at admits
      rw [submitted, admits]
      exact ⟨rfl, fun _ _ => untraced.trans left⟩

theorem setMarketDataType_refused (s : Session) (kind : Int) :
    (s.setMarketDataType kind).2 = Approach.admission s (.switch kind) ∧
      ∀ failure, Approach.admission s (.switch kind) = .error failure →
        Untraced s (s.setMarketDataType kind).1 := by
  have admission : Approach.admission s (.switch kind) =
      s.passes.bind fun _ => ((reqMarketDataType kind).mapError .protocol).bind fun frame =>
        (s.send frame).2 := rfl
  rw [admission]
  unfold setMarketDataType
  rcases s.enter_cases with ⟨closing, shut⟩ | ⟨admitting, inside, entered, aside⟩
  · rw [shut]
    simp only [Except.bind, passes, closing]
    exact ⟨rfl, fun _ _ => .refl s⟩
  · rw [entered]
    simp only [Except.bind, passes, admitting, Bool.false_eq_true, ↓reduceIte]
    rcases reqMarketDataType kind with e | frame
    · exact ⟨rfl, fun _ _ => untraced_inside entered (.refl inside)⟩
    · simp only [Except.mapError]
      rw [← send_of_aside aside]
      rcases inside.send_cases frame with ⟨other, sent⟩ | sent
      · rw [sent]
        exact ⟨rfl, fun _ _ => untraced_inside entered (.refl inside)⟩
      · rw [sent]
        exact ⟨rfl, nofun⟩

/-- Everybody is turned away for the first thing that is in the way, and leaves nothing behind. -/
theorem Approach.make_refused (filed : s.table.Filed) (approach : Approach) :
    (approach.make s).2 = approach.admission s ∧
      ∀ failure, approach.admission s = .error failure → Untraced s (approach.make s).1 := by
  cases approach with
  | comes errand =>
    cases errand with
    | call question => exact ask_refused filed question
    | stream feed => exact subscribe_refused filed feed
  | switch kind => exact s.setMarketDataType_refused kind

end Untraced

/-- A step that concerns one request alone; the link and what is queued on it stay, and so does all
else. -/
structure Own (n : Nat) (s after : Session) : Prop where
  table : s.table.Apart n after.table
  rest : after = { s with table := after.table }

/-- Where a caller can be that has been turned down. Its request is in no table, unless its next
step takes it out. -/
def Stance.Declined (t : Table) (n : Nat) : Stance → Prop
  | .leaving _ none => True
  | .refused | .ending _ none | .telling none | .gone => n ∉ t.pending
  | _ => False

theorem Stance.Declined.mono {t after : Table} {n : Nat} {stance : Stance}
    (declined : stance.Declined t n) (shrinks : n ∈ after.pending → n ∈ t.pending) :
    stance.Declined after n := by
  unfold Stance.Declined at declined ⊢
  split at declined
  · trivial
  all_goals first | exact fun member => declined (shrinks member) | exact declined

namespace Caller

variable {s : Session}

theorem table_turn_fresh {c : Caller} (fresh : c.stance = .fresh) (n : Nat) :
    (c.turn s n).1.table = (s.table.register n).1 := by
  unfold turn Session.register
  rw [fresh]
  dsimp only
  rcases s.table.register n with ⟨table, failure | ⟨⟩⟩ <;> rfl

/-- Whatever a caller does to the table concerns its own request. -/
theorem apart_turn (filed : s.table.Filed) (c : Caller) (n : Nat) :
    s.table.Apart n (c.turn s n).1.table := by
  by_cases fresh : c.stance = .fresh
  · rw [table_turn_fresh fresh]
    exact s.table.apart_register n
  unfold turn
  cases stance : c.stance with
  | fresh => exact absurd stance fresh
  | registered =>
    have same := table_send s c.frame
    dsimp only
    revert same
    rcases s.send c.frame with ⟨after, failure | ⟨⟩⟩ <;> exact fun same => same ▸ .refl n s.table
  | leaving _ _ => exact filed.apart_unregister n
  | ending failure _ => exact s.table.apart_complete n (some failure)
  | telling note => exact (table_withdraw s note).symm ▸ .refl n s.table
  | refused | waiting | gone => exact .refl n s.table

theorem mem_pending_turn (filed : s.table.Filed) {c : Caller} {n : Nat}
    (entered : c.stance ≠ .fresh) (member : n ∈ (c.turn s n).1.table.pending) :
    n ∈ s.table.pending := by
  revert member
  unfold turn
  cases stance : c.stance with
  | fresh => exact absurd stance entered
  | registered =>
    have same := table_send s c.frame
    dsimp only
    revert same
    rcases s.send c.frame with ⟨after, failure | ⟨⟩⟩ <;>
      exact fun same => same ▸ fun member => member
  | leaving _ _ =>
    exact fun member => (((filed.without_unregister n).mem_pending filed.toRows n).mp member).1
  | ending failure _ => exact fun member => s.table.pending_complete n (some failure) ▸ member
  | telling note => exact fun member => table_withdraw s note ▸ member
  | refused | waiting | gone => exact fun member => member

/-- A caller that queues nothing changes nothing but its own request. -/
theorem own_turn (filed : s.table.Filed) {c : Caller} {n : Nat}
    (unsent : c.stance = .registered → ∃ failure, (s.send c.frame).2 = .error failure)
    (untold : ∀ note, c.stance = .telling (some note) → ∃ failure,
      (s.send note).2 = .error failure) :
    Own n s (c.turn s n).1 := by
  have unchanged : ∀ frame failure, (s.send frame).2 = .error failure →
      s.send frame = (s, .error failure) := by
    intro frame failure refused
    rcases s.send_cases frame with ⟨other, sent⟩ | sent
    · rw [sent] at refused ⊢
      cases refused
      rfl
    · rw [sent] at refused
      cases refused
  refine ⟨c.apart_turn filed n, ?_⟩
  unfold turn
  cases stance : c.stance with
  | fresh =>
    unfold Session.register
    dsimp only
    rcases s.table.register n with ⟨table, failure | ⟨⟩⟩ <;> rfl
  | registered =>
    obtain ⟨failure, refused⟩ := unsent stance
    dsimp only
    rw [unchanged _ _ refused]
  | leaving _ _ | ending _ _ | refused | waiting | gone => rfl
  | telling note =>
    cases note with
    | none => rfl
    | some note =>
      obtain ⟨failure, refused⟩ := untold note stance
      dsimp only [withdraw]
      rw [unchanged _ _ refused]

/-- A caller that was turned down takes its request back, and is through. -/
theorem declined_turn (filed : s.table.Filed) {c : Caller} {n : Nat}
    (declined : c.stance.Declined s.table n) :
    (c.turn s n).2.Declined (c.turn s n).1.table n := by
  have out := filed.without_unregister n
  unfold turn
  cases stance : c.stance with
  | fresh | registered | waiting =>
    rw [stance] at declined
    exact declined.elim
  | refused | gone =>
    rw [stance] at declined
    exact declined
  | leaving failure note =>
    rw [stance] at declined
    cases note with
    | some _ => exact declined.elim
    | none => exact fun member => ((out.mem_pending filed.toRows n).mp member).2 rfl
  | ending failure note =>
    rw [stance] at declined
    cases note with
    | some _ => exact declined.elim
    | none =>
      have declined : n ∉ s.table.pending := declined
      rw [← s.table.pending_complete n (some failure)] at declined
      dsimp only
      split <;> exact declined
  | telling note =>
    rw [stance] at declined
    cases note with
    | some _ => exact declined.elim
    | none => exact declined

end Caller

namespace Race

variable {w : Race} {n : Nat} {c : Caller}

theorem mem_pending_step (sound : w.Sound) (there : w.callers[n]? = some c)
    (entered : c.stance ≠ .fresh) (move : Move)
    (member : n ∈ (w.step move).session.table.pending) : n ∈ w.session.table.pending := by
  cases move with
  | ask key slot streaming frame withdrawal => exact member
  | turn m =>
    have filed := (sound.turn m).filed
    unfold step at member filed
    dsimp only at member filed
    split at member
    · rename_i d also
      rw [also] at filed
      by_cases own : m = n
      · subst own
        cases there.symm.trans also
        exact Caller.mem_pending_turn sound.filed entered member
      · have apart := d.apart_turn sound.filed m
        exact (apart.mem_pending sound.filed.toRows filed.toRows (Ne.symm own)).mp member
    · exact member
  | giveUp m =>
    unfold step at member
    dsimp only at member
    split at member <;> exact member
  | receive _ | lose _ =>
    unfold step at member
    dsimp only at member
    split at member <;> exact member
  | transport _ | close => exact member
  | proceed =>
    have progress := w.loop.task.progress sound.filed sound.subjects
    unfold step Loop.turn at member
    dsimp only at member
    cases loop : w.loop with
    | serving task =>
      rw [loop] at member progress
      exact progress.shrinks n member
    | clearing failure =>
      rw [loop] at member progress
      exact progress.shrinks n member
    | failing failure task =>
      rw [loop] at member progress
      dsimp only at member
      split at member
      · rw [(table_announceEnd w.session failure).1] at member
        exact member
      · exact progress.shrinks n member
    | noting _ | signalling _ | detaching _ | closing _ | lost =>
      rw [loop] at member
      exact member

/-- The caller of a request was turned down. -/
def Declined (w : Race) (n : Nat) : Prop :=
  ∃ c, w.callers[n]? = some c ∧ c.stance.Declined w.session.table n

theorem Declined.step (declined : w.Declined n) (sound : w.Sound) (move : Move) :
    (w.step move).Declined n := by
  obtain ⟨c, there, stays⟩ := declined
  have entered : c.stance ≠ .fresh := by
    intro fresh
    rw [fresh] at stays
    exact stays
  have shrinks := mem_pending_step sound there entered move
  rcases callers_step_cases there move with same | ⟨rfl, same⟩ | ⟨rfl, same⟩
  · exact ⟨c, same, stays.mono shrinks⟩
  · have session : (w.step (.turn n)).session = (c.turn w.session n).1 := by
      rw [Race.step, there]
      rfl
    refine ⟨_, same, ?_⟩
    rw [session]
    exact Caller.declined_turn sound.filed stays
  · refine ⟨_, same, ?_⟩
    have still : c.giveUp w.session.table n = c.stance := by
      unfold Caller.giveUp
      split
      · rename_i waiting _
        rw [waiting] at stays
        exact stays.elim
      · rfl
    show (c.giveUp w.session.table n).Declined _ n
    rw [still]
    exact stays.mono shrinks

end Race

namespace Crowd

/-- What the steps of a race keep, and nobody without a request undoes, is kept in a run. -/
theorem race_run (holds : Race → Prop)
    (acts : ∀ race : Race, race.Sound → holds race → ∀ move, holds (race.step move))
    (asides : ∀ (race : Race) (session : Session), Aside race.session session → holds race →
      holds { race with session })
    {w : Crowd} (sound : w.Sound) (start : holds w.race) (moves : List Move) :
    holds (w.run moves).race := by
  induction moves generalizing w with
  | nil => exact start
  | cons move rest ih =>
    refine ih (sound.step move) ?_
    rcases w.race_step_cases move with same | ⟨act, same, _⟩ | ⟨session, aside, same⟩
    · rw [same]
      exact start
    · rw [same]
      exact acts w.race sound.race start act
    · rw [same]
      exact asides w.race session aside start

end Crowd

namespace Office

/-- What is kept whatever the parties of a session do is kept whatever they come for. -/
theorem race_run (holds : Race → Prop)
    (acts : ∀ race : Race, race.Sound → holds race → ∀ move, holds (race.step move))
    (asides : ∀ (race : Race) (session : Session), Crowd.Aside race.session session → holds race →
      holds { race with session })
    {w : Office} (sound : w.crowd.Sound) (start : holds w.crowd.race) (moves : List Move) :
    holds (w.run moves).crowd.race := by
  induction moves generalizing w with
  | nil => exact start
  | cons move rest ih =>
    obtain ⟨steps, same⟩ := w.crowd_step move
    refine ih ?_ ?_ <;> rw [same]
    · exact sound.run steps
    · exact Crowd.race_run holds acts asides sound start steps

variable {w : Office} {n : Nat}

theorem declined_run (sound : w.crowd.Sound) (declined : w.crowd.race.Declined n)
    (moves : List Move) : (w.run moves).crowd.race.Declined n := by
  refine race_run (fun race => race.Declined n) (fun _ sound declined => declined.step sound) ?_
    sound declined moves
  rintro race session aside ⟨c, there, stays⟩
  exact ⟨c, there, stays.mono fun member => aside.pending ▸ member⟩

/-- A caller that was turned down queues nothing. -/
theorem letters_of_declined (declined : w.crowd.race.Declined n) : w.letters n = [] := by
  obtain ⟨c, there, stays⟩ := declined
  rw [letters_of_stance there]
  cases stance : c.stance with
  | registered =>
    rw [stance] at stays
    exact stays.elim
  | telling note =>
    rw [stance] at stays
    cases note with
    | some _ => exact stays.elim
    | none => rfl
  | fresh | refused | waiting | leaving _ _ | ending _ _ | gone => rfl

/-- The next step of a caller is that it is turned down: another request is pending under its id, or
the link takes no frame. -/
def Refuses (w : Office) (n : Nat) (failure : Failure) : Prop :=
  ∃ c, w.caller? n = some c ∧
    (c.stance = .fresh ∧ (w.session.table.register n).2 = .error failure ∨
      c.stance = .registered ∧ (w.session.send c.frame).2 = .error failure)

/-- A step that queues nothing concerns the caller's own request alone. -/
theorem own_step_turn (sound : w.crowd.Sound) (quiet : w.letters n = []) :
    Own n w.session (w.step (.turn n)).session := by
  cases there : w.caller? n with
  | none =>
    have same : (w.step (.turn n)).session = w.session := by
      show (w.crowd.race.step (.turn n)).session = _
      have nobody : w.crowd.race.callers[n]? = none := there
      rw [Race.step, nobody]
    rw [same]
    exact ⟨.refl n _, rfl⟩
  | some c =>
    rw [session_step_turn there]
    rw [letters_of_stance there] at quiet
    have unsent : ∀ (letter : Letter) frame,
      [letter].filter (fun _ => (w.session.send frame).2.isOk) = [] →
        ∃ failure, (w.session.send frame).2 = .error failure := by
      intro letter frame none
      cases sent : (w.session.send frame).2 with
      | error failure => exact ⟨failure, rfl⟩
      | ok _ =>
        rw [sent] at none
        cases none
    refine Caller.own_turn sound.race.filed ?_ ?_
    · intro registered
      rw [registered] at quiet
      exact unsent _ _ quiet
    · intro note telling
      rw [telling] at quiet
      exact unsent _ _ quiet

theorem own_step_come (w : Office) (errand : Errand) (number : Int) :
    Own w.session.table.requests.length w.session (w.step (.come errand number)).session := by
  simp only [step]
  split
  · split
    · exact ⟨w.session.table.apart_create _, rfl⟩
    · exact ⟨.refl _ _, rfl⟩
  · exact ⟨.refl _ _, rfl⟩

theorem Refuses.declined {failure : Failure} (refuses : w.Refuses n failure)
    (sound : w.crowd.Sound) :
    w.letters n = [] ∧ (w.step (.turn n)).crowd.race.Declined n := by
  obtain ⟨c, there, cause⟩ := refuses
  have inside : w.crowd.race.callers[n]? = some c := there
  have after : (w.step (.turn n)).crowd.race.callers[n]? =
      some { c with stance := (c.turn w.session n).2 } := by
    show (w.crowd.race.step (.turn n)).callers[n]? = _
    rw [Race.step, inside]
    exact (Race.callers_place inside _ _ n).trans (if_pos rfl)
  rw [letters_of_stance there]
  rcases cause with ⟨fresh, taken⟩ | ⟨registered, refused⟩
  · rw [fresh]
    refine ⟨rfl, _, after, ?_⟩
    have absent : n ∉ w.session.table.pending := by
      have safe := sound.race.safe n c inside
      rw [fresh] at safe
      exact safe
    have same : (w.session.table.register n).1 = w.session.table := by
      rcases sound.race.filed.register_result (sound.race.inside inside) absent with ⟨letIn, _⟩ |
        ⟨_, same⟩
      · rw [taken] at letIn
        cases letIn
      · exact same
    show (c.turn w.session n).2.Declined (w.step (.turn n)).session.table n
    rw [session_step_turn there, Race.Caller.turn_of_refused fresh taken,
      Caller.table_turn_fresh fresh, same]
    exact absent
  · rw [registered, refused]
    refine ⟨rfl, _, after, ?_⟩
    show (c.turn w.session n).2.Declined _ n
    rw [Race.Caller.turn_of_unsent registered refused]
    trivial

/-- In every state that a session can be in: whoever is turned away — because its arguments are not
allowed or fit no frame, because the gate is closed, because its id is taken, or because the link
takes no frame — is so for the first of these that is in the way, and leaves both tables, all
requests with their streams, and all that is queued as they were. When others move between its
steps, each step of a caller that queues nothing concerns its own request alone; and once a caller
is turned down it queues nothing any more, whatever happens, and its request is in no table when it
is through. -/
theorem refused_leave_no_trace (s : Session) (firstId : Int) (moves : List Move) :
    let w := (opened s firstId).run moves
    (∀ approach : Approach, (approach.make w.session).2 = approach.admission w.session ∧
      ∀ failure, approach.admission w.session = .error failure →
        Untraced w.session (approach.make w.session).1) ∧
    (∀ errand number, Own w.session.table.requests.length w.session
      (w.step (.come errand number)).session) ∧
    (∀ n, w.letters n = [] → Own n w.session (w.step (.turn n)).session) ∧
    ∀ n failure, w.Refuses n failure → w.letters n = [] ∧
      ∀ later, let after := (w.step (.turn n)).run later
        after.crowd.race.Declined n ∧ after.letters n = [] := by
  intro w
  have sound : w.crowd.Sound := sound_run (sound_opened s firstId) moves
  refine ⟨Approach.make_refused sound.race.filed, w.own_step_come, fun n => own_step_turn sound, ?_⟩
  intro n failure refuses
  obtain ⟨quiet, declined⟩ := refuses.declined sound
  refine ⟨quiet, fun later => ?_⟩
  have after : (w.step (.turn n)).crowd.Sound := sound_run sound [.turn n]
  have still := declined_run after declined later
  exact ⟨still, letters_of_declined still⟩

/-- Three callers have asked for the time, and the frame of the third is still to be queued, when
the connection is reset. -/
def resetInLine : List Move :=
  [.come (.call .currentTime) 1, .turn 0, .turn 0, .come (.call .currentTime) 2, .turn 1, .turn 1,
    .come (.call .currentTime) 3, .turn 2, .read (.fault (.ofKind .connectionReset))]

/-- The third caller takes itself out of the line and leaves the others in it, and a fourth one
comes and goes. -/
theorem refused_calls_keep_the_line :
    let w := (opened (ofReady {} 7 0 {} 176 "" 1) 1).run resetInLine
    let reset := Failure.io (.ofKind .connectionReset)
    w.session.table.queue 49 = [0, 1, 2] ∧
    Approach.admission w.session (.comes (.call .currentTime)) = .error reset ∧
    Untraced w.session (Approach.make w.session (.comes (.call .currentTime))).1 ∧
    w.letters 2 = [] ∧ Own 2 w.session (w.step (.turn 2)).session ∧ w.Refuses 2 reset ∧
    ((w.step (.turn 2)).run [.turn 2, .turn 2]).crowd.race.Declined 2 ∧
    ((w.step (.turn 2)).run [.turn 2, .turn 2]).session.table.queue 49 = [0, 1] := by
  intro w reset
  obtain ⟨approaches, -, steps, refusals⟩ :=
    refused_leave_no_trace (ofReady {} 7 0 {} 176 "" 1) 1 resetInLine
  have refused : Approach.admission w.session (.comes (.call .currentTime)) = .error reset := rfl
  have refuses : w.Refuses 2 reset := ⟨_, rfl, Or.inr ⟨rfl, rfl⟩⟩
  obtain ⟨quiet, later⟩ := refusals 2 reset refuses
  exact ⟨rfl, refused, (approaches _).2 reset refused, quiet, steps 2 quiet, refuses,
    (later [.turn 2, .turn 2]).1, rfl⟩

end Office

end MarketLink.Session
