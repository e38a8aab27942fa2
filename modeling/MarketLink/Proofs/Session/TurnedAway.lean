import MarketLink.Proofs.Session.Quiet

set_option autoImplicit false

namespace MarketLink.Correlation.Table

/-- A request that is registered and cancelled leaves only those who were pending before. -/
theorem Filed.mem_pending_cancel_register {t : Table} (filed : t.Filed) {n m : Nat}
    (fresh : n ∉ t.pending) {failure : Failure}
    (member : m ∈ ((t.register n).1.cancel n failure).1.pending) : m ∈ t.pending := by
  have registered := filed.register fresh
  rw [cancel, pending_complete,
    (registered.without_unregister n).mem_pending registered.toRows] at member
  exact (filed.mem_pending_register fresh member.1).resolve_right member.2

theorem register_of_empty {t : Table} (ids : t.byId = []) (n : Nat) :
    (t.register n).2 = .ok () := by
  rcases t.carried_cases n with absent | ⟨id, carried⟩ | ⟨code, waits⟩
  · unfold register
    rw [absent]
    rfl
  · rw [register_of_id carried, pendingId?, ids]
    rfl
  · rw [register_of_code waits]

end MarketLink.Correlation.Table

namespace MarketLink.Session

open Correlation Time Wire

/-- The connection has ended with a failure, and nobody is pending any more. -/
structure Over (s : Session) (failure : Failure) : Prop where
  terminal : s.terminal = some failure
  detached : s.attached = false
  byId : s.table.byId = []
  byCode : s.table.byCode = []
  counting : 1 ≤ s.table.nextId

/-- What whoever comes then is told: the gate is looked at before the link. -/
def lateFailure (s : Session) (failure : Failure) : Failure :=
  if s.gate.closing then .closed else failure

/-- A call has failed. Nothing of it is in the table, and nothing of it is on the link. -/
structure TurnedAway {α : Type} (s : Session) (failure : Failure)
    (result : Session × Except Failure α) : Prop where
  told : result.2 = .error failure
  byId : result.1.table.byId = []
  byCode : result.1.table.byCode = []
  link : result.1.link = s.link

section Over

variable {s after : Session} {failure : Failure}

theorem Over.aside (past : s.Over failure) (aside : Crowd.Aside s after) : after.Over failure :=
  ⟨aside.terminal.trans past.terminal, aside.attached.trans past.detached,
    aside.byId.trans past.byId, aside.byCode.trans past.byCode, aside.counting past.counting⟩

/-- Without a link, whoever sends is told why the connection has ended. -/
theorem send_of_terminal (detached : s.attached = false) (terminal : s.terminal = some failure)
    (frame : Bytes) : s.send frame = (s, .error failure) := by
  rw [Race.send_detached detached, closedFailure, terminal]
  rfl

/-- A request is let in, its frame finds no link, and it is taken back. -/
theorem Over.submit (past : s.Over failure) (key : Key) (slot : Slot) (streaming : Bool)
    (frame : Bytes) :
    TurnedAway s failure (s.submit (Request.new key slot streaming) (.ok frame)) := by
  let created := (s.table.create (Request.new key slot streaming)).1
  let n := s.table.requests.length
  have filed : created.Filed := (Table.filed_empty _ past.byId past.byCode).create _
  have nobody : created.pending = [] := by
    show s.table.pending = []
    rw [Table.pending, past.byId, past.byCode]
    rfl
  have fresh : n ∉ created.pending := by
    rw [nobody]
    exact List.not_mem_nil
  have letIn : (s.table.enroll (Request.new key slot streaming)).2 = .ok () :=
    Table.register_of_empty (t := created) past.byId n
  let enrolled : Session := { s with table := (s.table.enroll (Request.new key slot streaming)).1 }
  have unsent : enrolled.send frame = (enrolled, .error failure) :=
    send_of_terminal (s := enrolled) past.detached past.terminal frame
  have submitted : s.submit (Request.new key slot streaming) (.ok frame) =
      ((enrolled.cancelRequest n failure).1, .error failure) := by
    rw [submit_frame, letIn]
    dsimp only
    rw [place, unsent]
    rfl
  -- nobody was pending before the request came, and it has gone again
  have blank : ((created.register n).1.cancel n failure).1.pending = [] := by
    apply List.eq_nil_iff_forall_not_mem.mpr
    intro m member
    have before := filed.mem_pending_cancel_register fresh member
    rw [nobody] at before
    cases before
  have registered := filed.register fresh
  have out := ((registered.without_unregister n).filed registered).complete n (some failure)
  obtain ⟨ids, codes⟩ := out.empty_of_pending blank
  rw [submitted]
  exact ⟨rfl, ids, codes, rfl⟩

/-- The gate is closed, or it lets a call through to find the rest as it was. -/
theorem enter_cases (s : Session) :
    s.gate.closing = true ∧ s.enter = none ∨
      s.gate.closing = false ∧ ∃ inside, s.enter = some inside ∧ Crowd.Aside s inside := by
  unfold enter Gate.acquire
  cases s.gate.closing with
  | true => exact Or.inl ⟨rfl, rfl⟩
  | false =>
    exact Or.inr ⟨rfl, _, rfl, rfl, rfl, rfl, rfl, rfl, rfl, rfl, rfl, fun counting => counting⟩

/-- Behind the gate a request is turned away, and its caller comes back out. -/
theorem Over.submit_inside (past : s.Over failure) {inside : Session}
    (aside : Crowd.Aside s inside) (key : Key) (slot : Slot) (streaming : Bool) (frame : Bytes) :
    ∃ through, inside.submit (Request.new key slot streaming)
    (.ok frame) = (through, .error failure) ∧
      ∀ α : Type, TurnedAway (α := α) s failure (through.leave, .error failure) := by
  have turned := (past.aside aside).submit key slot streaming frame
  exact ⟨_, Prod.ext rfl turned.told, fun _ =>
    ⟨rfl, turned.byId, turned.byCode, turned.link.trans aside.link⟩⟩

/-- Before a closed gate nothing has been done but that a key was drawn. -/
theorem Over.turnedAway_at_gate (past : s.Over failure) (aside : Crowd.Aside s after)
    (closing : s.gate.closing = true) (α : Type) :
    TurnedAway (α := α) s (s.lateFailure failure) (after, .error .closed) := by
  refine ⟨?_, aside.byId.trans past.byId, aside.byCode.trans past.byCode, aside.link⟩
  rw [lateFailure, if_pos closing]

theorem allocate_of_counting {t : Table} (counting : 1 ≤ t.nextId) :
    t.allocate.2 = .ok t.nextId := by
  unfold Table.allocate bump
  rw [if_neg (by omega)]
  exact if_neg (by omega)

theorem gate_keyFor (s : Session) (question : Question) : (s.keyFor question).1.gate = s.gate := by
  unfold keyFor
  split <;> rfl

/-- While ids can be drawn every question gets its key. -/
theorem exists_keyFor (counting : 1 ≤ s.table.nextId) (question : Question) :
    ∃ key, (s.keyFor question).2 = .ok key := by
  unfold keyFor
  split
  · exact ⟨_, rfl⟩
  · refine ⟨.withId s.table.nextId, ?_⟩
    show s.table.allocate.2.map Key.withId = _
    rw [allocate_of_counting counting]
    rfl

theorem Over.ask (past : s.Over failure) (question : Question) :
    ∃ key, (s.keyFor question).2 = .ok key ∧ ∀ frame, question.frame key = .ok frame →
      TurnedAway s (s.lateFailure failure) (s.ask question) := by
  have aside := Crowd.aside_keyFor s question
  have gate := s.gate_keyFor question
  obtain ⟨key, succeeded⟩ := exists_keyFor past.counting question
  refine ⟨key, succeeded, ?_⟩
  intro frame encodes
  have drawn : s.keyFor question = ((s.keyFor question).1, .ok key) := Prod.ext rfl succeeded
  unfold Session.ask
  rw [drawn]
  dsimp only
  rcases (s.keyFor question).1.enter_cases with ⟨closing, shut⟩ |
    ⟨admitting, inside, entered, passed⟩
  · rw [shut]
    rw [gate] at closing
    exact past.turnedAway_at_gate aside closing Call
  · obtain ⟨through, submitted, turned⟩ :=
      past.submit_inside (aside.trans passed) key question.slot false frame
    rw [entered, encodes]
    dsimp only
    rw [gate] at admitting
    rw [submitted, lateFailure, admitting]
    exact turned Call

theorem Over.subscribe (past : s.Over failure) (feed : Feed) (checked : feed.check = .ok ()) :
    ∃ id, s.table.allocate.2 = .ok id ∧ ∀ frame, feed.frame id = .ok frame →
      TurnedAway s (s.lateFailure failure) (s.subscribe feed) := by
  refine ⟨_, allocate_of_counting past.counting, ?_⟩
  intro frame encodes
  have aside := Crowd.aside_allocate s
  let drawn : Session := { s with table := s.table.allocate.1 }
  unfold Session.subscribe
  rw [checked]
  dsimp only
  rw [allocate_of_counting past.counting]
  dsimp only
  rcases drawn.enter_cases with ⟨closing, shut⟩ | ⟨admitting, inside, entered, passed⟩
  · rw [shut]
    exact past.turnedAway_at_gate aside closing Stream
  · obtain ⟨through, submitted, turned⟩ :=
      past.submit_inside (aside.trans passed) (.ticker s.table.nextId) feed.slot true frame
    rw [entered, encodes]
    dsimp only
    have admitting : s.gate.closing = false := admitting
    rw [submitted, lateFailure, admitting]
    exact turned Stream

theorem Over.setMarketDataType (past : s.Over failure) {kind : Int} {frame : Bytes}
    (encodes : Message.reqMarketDataType kind = .ok frame) :
    TurnedAway s (s.lateFailure failure) (s.setMarketDataType kind) := by
  unfold Session.setMarketDataType
  rcases s.enter_cases with ⟨closing, shut⟩ | ⟨admitting, inside, entered, passed⟩
  · rw [shut]
    exact past.turnedAway_at_gate (Crowd.Aside.refl s) closing Unit
  · have through := past.aside passed
    rw [entered, encodes]
    dsimp only
    rw [send_of_terminal through.detached through.terminal, lateFailure, admitting]
    exact ⟨rfl, through.byId, through.byCode, passed.link⟩

end Over

/-- Where a caller can be that comes when the connection has ended. It never waits, and when it is
through, its request has the failure of the connection. -/
def Stance.Late (failure : Failure) (t : Table) (n : Nat) : Stance → Prop
  | .fresh | .refused | .registered => t.outcome? n = none
  | .leaving own _ | .ending own _ => own = failure ∧ t.outcome? n = none
  | .waiting => False
  | .telling _ | .gone => t.outcome? n = some (.error failure)

theorem Stance.Late.congr {failure : Failure} {t after : Table} {n : Nat} {stance : Stance}
    (late : stance.Late failure t n) (same : after.outcome? n = t.outcome? n) :
    stance.Late failure after n := by
  unfold Stance.Late at late ⊢
  rw [same]
  exact late

namespace Race

variable {w : Race} {failure : Failure}

/-- All callers from a number on have come when the connection had ended. -/
def LateFrom (w : Race) (failure : Failure) (first : Nat) : Prop :=
  ∀ (n : Nat) (c : Caller), first ≤ n → w.callers[n]? = some c →
    c.stance.Late failure w.session.table n

/-- A late caller finds no link, and takes its request back. -/
theorem late_turn {s : Session} {c : Caller} {n : Nat} (late : c.stance.Late failure s.table n)
    (inside : n < s.table.requests.length) (detached : s.attached = false)
    (terminal : s.terminal = some failure) :
    (c.turn s n).2.Late failure (c.turn s n).1.table n := by
  unfold Caller.turn
  cases stance : c.stance with
  | fresh =>
    rw [stance] at late
    have same := Table.outcome?_of_requests (s.table.requests_register n) n
    unfold Session.register
    dsimp only
    revert same
    rcases s.table.register n with ⟨table, other | ⟨⟩⟩ <;> exact fun same => same.trans late
  | registered =>
    rw [stance] at late
    dsimp only
    rw [send_of_terminal detached terminal]
    exact ⟨rfl, late⟩
  | leaving own note =>
    rw [stance] at late
    exact ⟨late.1, (Table.outcome?_of_requests (s.table.requests_unregister n) n).trans late.2⟩
  | ending own note =>
    rw [stance] at late
    obtain ⟨rfl, running⟩ := late
    have found : s.table.request? n = some s.table.requests[n] := List.getElem?_eq_getElem inside
    rw [Table.outcome?, found] at running
    exact (Table.complete_of_open found running (some own)).2
  | telling note =>
    rw [stance] at late
    exact (congrArg (Table.outcome? · n) (table_withdraw s note)).trans late
  | waiting =>
    rw [stance] at late
    exact late.elim
  | refused | gone =>
    rw [stance] at late
    exact late

/-- Behind the end of the connection, the table changes by what callers do alone, each with its own
request. -/
theorem LateFrom.step {first : Nat} (late : w.LateFrom failure first) (sound : w.Sound)
    (terminal : w.session.terminal = some failure) (lost : w.loop = .lost) (move : Move) :
    (w.step move).LateFrom failure first := by
  have detached : w.session.attached = false := sound.detached (by rw [lost]; rfl)
  cases move with
  | ask key slot streaming frame withdrawal =>
    intro n c behind there
    have same := w.session.table.outcome?_create (r := Request.new key slot streaming) rfl n
    rcases getElem?_append_singleton_cases there with old | ⟨rfl, rfl⟩
    · exact (late n c behind old).congr same
    · refine same.trans ?_
      rw [Table.outcome?, Table.request?, sound.numbered, List.getElem?_eq_none (Nat.le_refl _)]
      rfl
  | turn m =>
    unfold Race.step
    dsimp only
    split
    · rename_i c there
      intro n other behind found
      rw [callers_place there] at found
      split at found
      · rename_i own
        subst own
        cases found
        exact late_turn (late m c behind there) (sound.inside there) detached terminal
      · rename_i different
        refine (late n other behind found).congr ?_
        rcases request?_turn c w.session m n with same | ⟨_, _, own, _⟩
        · exact congrArg (Option.bind · Request.outcome) same
        · exact absurd own different
    · exact late
  | giveUp m =>
    unfold Race.step
    dsimp only
    split
    · rename_i c there
      intro n other behind found
      rw [callers_place there] at found
      split at found
      · rename_i own
        subst own
        cases found
        have before := late m c behind there
        unfold Caller.giveUp
        split
        · rename_i r waiting _
          rw [waiting] at before
          exact before.elim
        · exact before
      · exact late n other behind found
    · exact late
  | receive _ | lose _ =>
    unfold Race.step
    rw [lost]
    exact late
  | proceed =>
    unfold Race.step
    rw [lost]
    exact late
  | transport _ | close => exact late

/-- Without a link in its place, nobody but the reader and the writer of the link touches it. -/
theorem link_step_of_lost (detached : w.session.attached = false) (lost : w.loop = .lost)
    (move : Move) :
    (w.step move).session.link = w.session.link ∨ ∃ change, move = .transport change := by
  cases move with
  | transport change => exact Or.inr ⟨change, rfl⟩
  | turn n =>
    refine Or.inl ?_
    unfold Race.step
    dsimp only
    split
    · rename_i c _
      show (c.turn w.session n).1.link = _
      unfold Caller.turn
      cases c.stance with
      | fresh =>
        unfold Session.register
        dsimp only
        rcases w.session.table.register n with ⟨table, other | ⟨⟩⟩ <;> rfl
      | registered =>
        dsimp only
        rw [send_detached detached]
      | telling note =>
        cases note with
        | none => rfl
        | some frame =>
          dsimp only
          rw [withdraw, send_detached detached]
      | leaving _ _ | ending _ _ | refused | waiting | gone => rfl
    · rfl
  | giveUp n =>
    refine Or.inl ?_
    unfold Race.step
    dsimp only
    split <;> rfl
  | receive _ | lose _ =>
    refine Or.inl ?_
    unfold Race.step
    rw [lost]
  | proceed =>
    refine Or.inl ?_
    unfold Race.step
    rw [lost]
    rfl
  | ask _ _ _ _ _ | close => exact Or.inl rfl

end Race

namespace Crowd

variable {w : Crowd} {failure : Failure}

theorem lost_step (lost : w.race.loop = .lost) (move : Move) : (w.step move).race.loop = .lost := by
  rcases w.race_step_cases move with same | ⟨act, same, _⟩ | ⟨session, _, same⟩
  · rw [same, lost]
  · rw [same]
    by_cases proceeds : act = .proceed
    · subst proceeds
      unfold Race.step
      rw [lost]
      rfl
    · obtain ⟨_, _, _, still | ⟨idle, _⟩⟩ := Race.marks_step (w := w.race) proceeds
      · rw [still, lost]
      · rw [lost] at idle
        cases idle
  · rw [same]
    exact lost

theorem lost_run (lost : w.race.loop = .lost) (moves : List Move) :
    (w.run moves).race.loop = .lost := by
  induction moves generalizing w with
  | nil => exact lost
  | cons move rest ih => exact ih (lost_step lost move)

theorem lateFrom_run {first : Nat} (late : w.race.LateFrom failure first) (sound : w.Sound)
    (ends : w.race.loop.EndsWith failure w.race.session) (lost : w.race.loop = .lost)
    (moves : List Move) : (w.run moves).race.LateFrom failure first := by
  induction moves generalizing w with
  | nil => exact late
  | cons move rest ih =>
    refine ih ?_ (sound.step move) (endsWith_step ends move) (lost_step lost move)
    rcases w.race_step_cases move with same | ⟨act, same, _⟩ | ⟨session, aside, same⟩
    · rw [same]
      exact late
    · rw [same]
      rw [lost] at ends
      exact late.step sound.race ends.1 lost act
    · rw [same]
      intro n c behind there
      refine (late n c behind there).congr ?_
      exact congrArg (Option.bind · Request.outcome) (aside.request? n)

end Crowd

end MarketLink.Session
