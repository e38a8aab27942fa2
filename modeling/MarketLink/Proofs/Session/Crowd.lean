import MarketLink.Proofs.Session.Loss

set_option autoImplicit false

namespace MarketLink.Correlation

namespace Table

/-- The counter of ids, and the one that tells requests for one code apart. -/
def counters (t : Table) : Int × Int := (t.nextId, t.nextSeq)

theorem counters_register (t : Table) (n : Nat) : (t.register n).1.counters = t.counters := by
  rcases t.register_cases n with same | ⟨_, _, _, same⟩ | ⟨_, _, same⟩ <;> rw [same] <;> rfl

theorem counters_unregister (t : Table) (n : Nat) : (t.unregister n).counters = t.counters := by
  rcases t.carried_cases n with absent | ⟨id, carried⟩ | ⟨code, waits⟩
  · rw [unregister_of_absent absent]
  · rw [unregister_of_id carried]
    split <;> rfl
  · rw [unregister_of_code waits]
    rfl

theorem counters_complete (t : Table) (n : Nat) (failure : Option Failure) :
    (t.complete n failure).1.counters = t.counters := by
  rw [complete_fst]
  rfl

end Table

theorem Task.counters_advance (task : Task) (t : Table) :
    (task.advance t).1.counters = t.counters := by
  cases task with
  | seek target handler =>
    rcases t.find_cases target with found | ⟨_, _, _, _, found⟩ | ⟨_, _, _, _, _, found⟩ <;>
      simp only [advance, found]
    rfl
  | serve target n handler =>
    simp only [advance]
    rw [Table.handle_fst]
    rfl
  | evict id failure =>
    simp only [advance, Table.takeId]
    cases t.pendingId? id <;> rfl
  | withdraw n endings => exact t.counters_unregister n
  | clear failure => rfl
  | settle endings =>
    cases endings with
    | nil => rfl
    | cons ending rest => exact t.counters_complete ending.1 ending.2

end MarketLink.Correlation

namespace MarketLink.Session

open Correlation Time Wire

/-- What a waiting call polls, one after the other and from the first again. -/
inductive Branch where
  | outcome
  | down
  | deadline
  deriving DecidableEq

def Branch.next : Branch → Branch
  | .outcome => .down
  | .down => .deadline
  | .deadline => .outcome

/-- What a call comes back with if a branch is ready when it is polled. -/
def polled? (s : Session) (n : Nat) (late : Bool) : Branch → Option (Except Failure Slot)
  | .outcome => s.outcome? n
  | .down => if s.down then some (.error s.closedFailure) else none
  | .deadline => if late then some (.error .timeout) else none

/-- The request of a caller that waits. -/
def Race.awaited? (w : Race) (n : Nat) : Option Request :=
  match (w.callers[n]?).map Caller.stance with
  | some .waiting => w.session.table.request? n
  | _ => none

/-- A session with its callers and its loop, and what its calls have been told. -/
structure Crowd where
  race : Race
  /-- The calls that have come back, by the numbers of their requests, with their results. -/
  told : List (Nat × Except Failure Slot) := []
  branch : Nat → Branch := fun _ => .outcome

namespace Crowd

/-- Something that can happen next. -/
inductive Move where
  /-- A caller, the loop, the link or the owner goes on. A call that gives up here is dropped, and a
  stream is cancelled. -/
  | act (move : Race.Move)
  /-- A call that waits polls its next branch, before its time is up. -/
  | look (n : Nat)
  /-- A call that waits polls its next branch, with its time up. -/
  | expire (n : Nat)
  | draw (question : Question)
  | enter
  | leave
  | letGo

/-- A call that waits polls its next branch. It comes back with what is ready there, and otherwise
goes on to the branch behind. -/
def poll (w : Crowd) (n : Nat) (late : Bool) : Crowd :=
  match w.race.awaited? n with
  | none => w
  | some r =>
    if r.streaming then w
    else match w.race.session.polled? n late (w.branch n) with
      | some result =>
        { w with race := w.race.step (.giveUp n), told := w.told ++ [(n, result)] }
      | none => { w with branch := Function.update w.branch n (w.branch n).next }

def aside (w : Crowd) (session : Session) : Crowd :=
  { w with race := { w.race with session } }

def step (w : Crowd) : Move → Crowd
  | .act move => { w with race := w.race.step move }
  | .look n => w.poll n false
  | .expire n => w.poll n true
  | .draw question => w.aside (w.race.session.keyFor question).1
  | .enter => w.aside (w.race.session.enter.getD w.race.session)
  | .leave => w.aside w.race.session.leave
  | .letGo => w.aside w.race.session.letGo

def run (w : Crowd) (moves : List Move) : Crowd := moves.foldl step w

theorem run_append (w : Crowd) (first second : List Move) :
    w.run (first ++ second) = (w.run first).run second := List.foldl_append

def opened (settings : Settings) (clientId offset : Int) (link : Link) (version : Int)
    (timeText : String) (firstId : Int) : Crowd :=
  { race := Race.opened (ofReady settings clientId offset link version timeText firstId) firstId }

/-- Requests, the link and the end of the connection are as they were, and ids can still be
drawn. -/
structure Aside (s after : Session) : Prop where
  requests : after.table.requests = s.table.requests
  byId : after.table.byId = s.table.byId
  byCode : after.table.byCode = s.table.byCode
  link : after.link = s.link
  attached : after.attached = s.attached
  down : after.down = s.down
  terminal : after.terminal = s.terminal
  events : after.events = s.events
  counting : 1 ≤ s.table.nextId → 1 ≤ after.table.nextId

theorem Aside.refl (s : Session) : Aside s s :=
  ⟨rfl, rfl, rfl, rfl, rfl, rfl, rfl, rfl, fun counting => counting⟩

theorem Aside.trans {first second third : Session} (before : Aside first second)
    (next : Aside second third) : Aside first third :=
  ⟨next.requests.trans before.requests, next.byId.trans before.byId,
    next.byCode.trans before.byCode, next.link.trans before.link,
    next.attached.trans before.attached, next.down.trans before.down,
    next.terminal.trans before.terminal, next.events.trans before.events,
    fun counting => next.counting (before.counting counting)⟩

theorem one_le_bump {counter : Int} (counting : 1 ≤ counter) : 1 ≤ (bump counter).2 := by
  unfold bump
  rw [if_neg (by omega)]
  dsimp only
  split <;> omega

theorem aside_allocate (s : Session) : Aside s { s with table := s.table.allocate.1 } :=
  ⟨rfl, rfl, rfl, rfl, rfl, rfl, rfl, rfl, one_le_bump⟩

theorem aside_keyFor (s : Session) (question : Question) : Aside s (s.keyFor question).1 := by
  unfold keyFor
  split
  · exact ⟨rfl, rfl, rfl, rfl, rfl, rfl, rfl, rfl, fun counting => counting⟩
  · exact aside_allocate s

theorem aside_enter (s : Session) : Aside s (s.enter.getD s) := by
  unfold enter
  split <;> exact ⟨rfl, rfl, rfl, rfl, rfl, rfl, rfl, rfl, fun counting => counting⟩

theorem aside_leave (s : Session) : Aside s s.leave :=
  ⟨rfl, rfl, rfl, rfl, rfl, rfl, rfl, rfl, fun counting => counting⟩

theorem aside_letGo (s : Session) : Aside s s.letGo :=
  ⟨rfl, rfl, rfl, rfl, rfl, rfl, rfl, rfl, fun counting => counting⟩

/-- Every move is a step of the race, a poll, or aside from all requests. -/
theorem step_cases (w : Crowd) (move : Move) :
    (∃ act, move = .act act ∧ w.step move = { w with race := w.race.step act }) ∨
      (∃ n late, (move = .look n ∧ late = false ∨ move = .expire n ∧ late = true) ∧
        w.step move = w.poll n late) ∨
      ∃ session, Aside w.race.session session ∧ w.step move = w.aside session := by
  cases move with
  | act move => exact Or.inl ⟨move, rfl, rfl⟩
  | look n => exact Or.inr (Or.inl ⟨n, false, Or.inl ⟨rfl, rfl⟩, rfl⟩)
  | expire n => exact Or.inr (Or.inl ⟨n, true, Or.inr ⟨rfl, rfl⟩, rfl⟩)
  | draw question => exact Or.inr (Or.inr ⟨_, aside_keyFor _ question, rfl⟩)
  | enter => exact Or.inr (Or.inr ⟨_, aside_enter _, rfl⟩)
  | leave => exact Or.inr (Or.inr ⟨_, aside_leave _, rfl⟩)
  | letGo => exact Or.inr (Or.inr ⟨_, aside_letGo _, rfl⟩)

section Poll

variable {w : Crowd} {n : Nat} {r : Request} {late : Bool}

theorem poll_of_streaming (streams : ∀ r, w.race.awaited? n = some r → r.streaming = true) :
    w.poll n late = w := by
  unfold poll
  split
  · rfl
  · rename_i r awaited
    exact if_pos (streams r awaited)

theorem poll_of_ready (awaited : w.race.awaited? n = some r) (single : r.streaming = false)
    {result : Except Failure Slot}
    (ready : w.race.session.polled? n late (w.branch n) = some result) :
    w.poll n late =
      { w with race := w.race.step (.giveUp n), told := w.told ++ [(n, result)] } := by
  simp only [poll, awaited, single, ready, Bool.false_eq_true, if_false]

theorem poll_of_pending (awaited : w.race.awaited? n = some r) (single : r.streaming = false)
    (pending : w.race.session.polled? n late (w.branch n) = none) :
    w.poll n late = { w with branch := Function.update w.branch n (w.branch n).next } := by
  simp only [poll, awaited, single, pending, Bool.false_eq_true, if_false]

/-- A call comes back with what is ready, or nothing changes but which branches are polled next. -/
theorem poll_cases (w : Crowd) (n : Nat) (late : Bool) :
    (∃ branch, w.poll n late = { w with branch }) ∨
      ∃ r result, w.race.awaited? n = some r ∧ r.streaming = false ∧
        w.race.session.polled? n late (w.branch n) = some result ∧
        w.poll n late =
          { w with race := w.race.step (.giveUp n), told := w.told ++ [(n, result)] } := by
  by_cases streams : ∀ r, w.race.awaited? n = some r → r.streaming = true
  · exact Or.inl ⟨w.branch, poll_of_streaming streams⟩
  · push Not at streams
    obtain ⟨r, awaited, single⟩ := streams
    rw [ne_eq, Bool.not_eq_true] at single
    cases ready : w.race.session.polled? n late (w.branch n) with
    | none => exact Or.inl ⟨_, poll_of_pending awaited single ready⟩
    | some result =>
      exact Or.inr ⟨r, result, awaited, single, rfl, poll_of_ready awaited single ready⟩

theorem race_poll (w : Crowd) (n : Nat) (late : Bool) :
    (w.poll n late).race = w.race ∨ (w.poll n late).race = w.race.step (.giveUp n) := by
  rcases w.poll_cases n late with ⟨_, same⟩ | ⟨_, _, _, _, _, same⟩ <;> rw [same]
  · exact Or.inl rfl
  · exact Or.inr rfl

end Poll

end Crowd

def Caller.isPast (c : Caller) : Bool :=
  match c.stance with
  | .leaving _ _ | .ending _ _ | .telling _ | .gone => true
  | .fresh | .refused | .registered | .waiting => false

namespace Race

variable {w : Race} {n : Nat} {c : Caller} {r : Request}

theorem awaited?_eq_some_iff :
    w.awaited? n = some r ↔
      ∃ c, w.callers[n]? = some c ∧ c.stance = .waiting ∧ w.session.table.request? n = some r := by
  unfold awaited?
  cases w.callers[n]? with
  | none => simp
  | some c => cases stance : c.stance <;> simp [stance]

theorem callers_step_cases (there : w.callers[n]? = some c) (move : Move) :
    (w.step move).callers[n]? = some c ∨
      move = .turn n ∧ (w.step move).callers[n]? =
        some { c with stance := (c.turn w.session n).2 } ∨
      move = .giveUp n ∧
        (w.step move).callers[n]? = some { c with stance := c.giveUp w.session.table n } := by
  cases move with
  | ask key slot streaming frame withdrawal =>
    have inside := (List.getElem?_eq_some_iff.mp there).1
    exact Or.inl ((List.getElem?_append_left inside).trans there)
  | turn m =>
    unfold step
    dsimp only
    split
    · rename_i other found
      rw [callers_place found]
      split
      · rename_i same
        subst same
        cases there.symm.trans found
        exact Or.inr (Or.inl ⟨rfl, rfl⟩)
      · exact Or.inl there
    · exact Or.inl there
  | giveUp m =>
    unfold step
    dsimp only
    split
    · rename_i other found
      rw [callers_place found]
      split
      · rename_i same
        subst same
        cases there.symm.trans found
        exact Or.inr (Or.inr ⟨rfl, rfl⟩)
      · exact Or.inl there
    · exact Or.inl there
  | receive _ | lose _ =>
    unfold step
    dsimp only
    split <;> exact Or.inl there
  | proceed | transport _ | close => exact Or.inl there

theorem waiting_step (there : w.callers[n]? = some c) (waiting : c.stance = .waiting) {move : Move}
    (stays : move ≠ .giveUp n) : (w.step move).callers[n]? = some c := by
  rcases callers_step_cases there move with same | ⟨_, turned⟩ | ⟨gives, _⟩
  · exact same
  · have still : (c.turn w.session n).2 = c.stance := by rw [Caller.turn, waiting]
    rw [turned, still]
  · exact absurd gives stays

theorem isPast_step (there : w.callers[n]? = some c) (past : c.isPast = true) (move : Move) :
    ∃ later, (w.step move).callers[n]? = some later ∧ later.isPast = true := by
  rcases callers_step_cases there move with same | ⟨_, turned⟩ | ⟨_, given⟩
  · exact ⟨c, same, past⟩
  · refine ⟨_, turned, ?_⟩
    unfold Caller.isPast at past ⊢
    unfold Caller.turn
    cases stance : c.stance with
    | fresh | refused | registered | waiting =>
      rw [stance] at past
      cases past
    | leaving _ _ | ending _ _ | telling _ | gone => rfl
  · refine ⟨_, given, ?_⟩
    unfold Caller.isPast at past ⊢
    unfold Caller.giveUp
    cases stance : c.stance with
    | fresh | refused | registered | waiting =>
      rw [stance] at past
      cases past
    | leaving _ _ | ending _ _ | telling _ | gone => rfl

theorem isPast_giveUp (awaited : w.awaited? n = some r) :
    ∃ later, (w.step (.giveUp n)).callers[n]? = some later ∧ later.isPast = true := by
  obtain ⟨c, there, waiting, found⟩ := awaited?_eq_some_iff.mp awaited
  refine ⟨{ c with stance := c.giveUp w.session.table n }, ?_, ?_⟩
  · unfold step
    dsimp only
    rw [there]
    dsimp only
    rw [callers_place there, if_pos rfl]
  · unfold Caller.isPast Caller.giveUp
    rw [waiting, found]
    dsimp only
    cases r.isDone && !r.streaming with
    | true => rfl
    | false => cases r.key <;> rfl

end Race

namespace Crowd

/-- What holds between any two moves. -/
structure Sound (w : Crowd) : Prop where
  race : w.race.Sound
  counting : 1 ≤ w.race.session.table.nextId
  past : ∀ n, (w.told.lookup n).isSome = true →
    ∃ c, w.race.callers[n]? = some c ∧ c.isPast = true

theorem sound_opened (settings : Settings) (clientId offset : Int) (link : Link) (version : Int)
    (timeText : String) (firstId : Int) :
    (opened settings clientId offset link version timeText firstId).Sound := by
  refine ⟨Race.sound_opened _ firstId, ?_, ?_⟩
  · exact Int.le_max_right firstId 1
  · intro n told
    cases told

theorem counters_step (w : Race) (move : Race.Move) :
    (w.step move).session.table.counters = w.session.table.counters := by
  cases move with
  | turn n =>
    unfold Race.step
    dsimp only
    split
    · rename_i c _
      show (c.turn w.session n).1.table.counters = _
      unfold Caller.turn
      cases c.stance with
      | fresh =>
        have same := w.session.table.counters_register n
        unfold Session.register
        dsimp only
        revert same
        rcases w.session.table.register n with ⟨table, failure | ⟨⟩⟩ <;> exact fun same => same
      | registered =>
        have same := congrArg Table.counters (table_send w.session c.frame)
        dsimp only
        revert same
        rcases w.session.send c.frame with ⟨s, failure | ⟨⟩⟩ <;> exact fun same => same
      | leaving _ _ => exact w.session.table.counters_unregister n
      | ending failure _ => exact w.session.table.counters_complete n (some failure)
      | telling note => exact congrArg Table.counters (table_withdraw w.session note)
      | refused | waiting | gone => rfl
    · rfl
  | giveUp n =>
    unfold Race.step
    dsimp only
    split <;> rfl
  | receive _ | lose _ =>
    unfold Race.step
    dsimp only
    split <;> rfl
  | proceed =>
    unfold Race.step Loop.turn
    dsimp only
    cases w.loop with
    | serving task => exact task.counters_advance w.session.table
    | clearing failure => exact (Task.clear failure).counters_advance w.session.table
    | failing failure task =>
      dsimp only
      split
      · exact congrArg Table.counters (table_announceEnd w.session failure).1
      · exact task.counters_advance w.session.table
    | noting _ | signalling _ | detaching _ | closing _ | lost => rfl
  | ask _ _ _ _ _ | transport _ | close => rfl

theorem Aside.request? {s after : Session} (aside : Aside s after) (n : Nat) :
    after.table.request? n = s.table.request? n := by
  rw [Table.request?, aside.requests, Table.request?]

theorem Aside.pending {s after : Session} (aside : Aside s after) :
    after.table.pending = s.table.pending := by
  rw [Table.pending, aside.byId, aside.byCode, Table.pending]

theorem Aside.filed {s after : Session} (aside : Aside s after) (filed : s.table.Filed) :
    after.table.Filed := by
  refine filed.of_keys aside.byId aside.byCode ?_ ?_
  · intro n id carried
    rw [Table.idOf?, aside.request?]
    exact carried
  · intro n code waits
    rw [Table.codeOf?, aside.request?]
    exact waits

theorem Aside.sound {w : Race} {session : Session} (aside : Aside w.session session)
    (sound : w.Sound) : Race.Sound { w with session } := by
  have requests := aside.request?
  have pending := aside.pending
  have outcomes : ∀ n, session.table.outcome? n = w.session.table.outcome? n := fun n => by
    rw [Table.outcome?, requests, Table.outcome?]
  refine sound.of_loop w.loop (aside.filed sound.filed) (congrArg List.length aside.requests) ?_ ?_
    ?_ sound.subjects
    sound.promised ?_ Or.inl
  · intro n member
    rw [← pending]
    exact member
  · intro n ended
    rw [outcomes]
    exact ended
  · intro n kept
    unfold Kept at kept ⊢
    rw [outcomes, pending]
    exact kept
  · intro detached
    rw [aside.attached]
    exact sound.detached detached

theorem Sound.step {w : Crowd} (sound : w.Sound) (move : Move) : (w.step move).Sound := by
  have acts : ∀ act : Race.Move, (w.race.step act).Sound ∧
      1 ≤ (w.race.step act).session.table.nextId ∧
      ∀ n, (w.told.lookup n).isSome = true →
        ∃ c, (w.race.step act).callers[n]? = some c ∧ c.isPast = true := by
    intro act
    refine ⟨sound.race.step act, ?_, ?_⟩
    · rw [show (w.race.step act).session.table.nextId = w.race.session.table.nextId from
        congrArg Prod.fst (counters_step w.race act)]
      exact sound.counting
    intro n told
    obtain ⟨c, there, past⟩ := sound.past n told
    exact Race.isPast_step there past act
  rcases w.step_cases move with ⟨act, _, same⟩ | ⟨n, late, _, same⟩ | ⟨session, aside, same⟩
  · rw [same]
    obtain ⟨race, counting, past⟩ := acts act
    exact ⟨race, counting, past⟩
  · rw [same]
    rcases w.poll_cases n late with ⟨branch, stays⟩ | ⟨r, result, awaited, _, _, back⟩
    · rw [stays]
      exact ⟨sound.race, sound.counting, sound.past⟩
    · rw [back]
      obtain ⟨race, counting, past⟩ := acts (.giveUp n)
      refine ⟨race, counting, ?_⟩
      intro m told
      dsimp only at told ⊢
      rw [List.lookup_append] at told
      cases before : w.told.lookup m with
      | some _ => exact past m (by rw [before]; rfl)
      | none =>
        rw [before, Option.none_or] at told
        by_cases own : m = n
        · subst own
          exact Race.isPast_giveUp awaited
        · have other : (m == n) = false := beq_eq_false_iff_ne.mpr own
          simp [List.lookup_cons, other] at told
  · rw [same]
    exact ⟨aside.sound sound.race, aside.counting sound.counting, sound.past⟩

theorem Sound.run {w : Crowd} (sound : w.Sound) (moves : List Move) : (w.run moves).Sound := by
  induction moves generalizing w with
  | nil => exact sound
  | cons move rest ih => exact ih (sound.step move)

end Crowd

end MarketLink.Session
