import Mathlib
import MarketLink.Proofs.Correlation.Taker
import MarketLink.Proofs.Message.Payload
import MarketLink.Proofs.Session.Aftermath
import MarketLink.Proofs.Session.Course

set_option autoImplicit false

namespace MarketLink.Message

open Correlation Wire

/-- What a message says about its request: the id that it carries, or its code if it is one of the
three replies without an id. -/
def Arrival.target? : Arrival → Option Target
  | .currentTime _ => some (.code 49)
  | .managedAccounts _ => some (.code 15)
  | .nextValidId _ => some (.code 9)
  | arrival => arrival.id?.map .id

/-- What the owner is told of a message that no request takes. -/
def Arrival.event? : Arrival → Option Event
  | .marketDataType id kind => some (.marketDataType id kind)
  | .currentTime time => some (.currentTime time)
  | .managedAccounts accounts => some (.managedAccounts accounts)
  | .nextValidId id => some (.nextValidId id)
  | .notice told =>
    if isSuppressed told.code then none else some (.notice told.id told.code told.message)
  | .unknown code => some (.unknownMessage code)
  | .tick _ _ | .snapshotEnd _ | .depth _ _ | .contractDetails _ _ | .contractDetailsEnd _
  | .historicalBars _ _ => none

/-- A message with this code is told to the owner when no request takes it. -/
def Arrival.IsTold (raw : Int) (arrival : Arrival) : Prop :=
  raw ∈ [Incoming.currentTime, .managedAccounts, .nextValidId, .marketDataType].map Incoming.code ∨
    (∃ notice, arrival = .notice notice ∧ isSuppressed notice.code = false) ∨
    alternateBias < raw ∨ ∀ message : Incoming, message.code ≠ raw

/-- The code of a message says whether its request is found by it. -/
theorem Arrival.target?_of_body {message : Incoming} {cursor : Cursor} {arrival : Arrival}
    (read : (body message cursor).1 = .ok arrival) :
    arrival.target? =
      if message.code = 49 ∨ message.code = 15 ∨ message.code = 9 then some (.code message.code)
      else arrival.id?.map .id := by
  cases message <;> obtain ⟨_, _, rfl⟩ := making_eq_ok_iff.mp read <;> rfl

theorem Arrival.event?_of_body {message : Incoming} {cursor : Cursor} {arrival : Arrival}
    (read : (body message cursor).1 = .ok arrival) :
    arrival.event?.isSome = true ↔ arrival.IsTold message.code := by
  have known : ¬(alternateBias < message.code ∨ ∀ other : Incoming, other.code ≠ message.code) := by
    rw [← known?_eq_none_iff, known?_code]
    exact Option.some_ne_none message
  unfold IsTold
  rw [or_iff_left known]
  cases message with
  | errorMessage =>
    obtain ⟨told, _, rfl⟩ := making_eq_ok_iff.mp read
    cases quiet : isSuppressed told.code <;> simp [event?, quiet, Incoming.code]
  | _ =>
    obtain ⟨_, _, rfl⟩ := making_eq_ok_iff.mp read
    simp [event?, Incoming.code]

end MarketLink.Message

namespace MarketLink.Session

open Correlation Message Wire

def Destination.target? : Destination → Option Target
  | .request target _ _ => some target
  | .refusal id _ _ => some (.id id)
  | .event _ | .nobody => none

theorem target?_destination (a : Arrival) : (destination a).target? = a.target? := by
  cases a with
  | notice notice =>
    have own : (Arrival.notice notice).target? = (Arrival.notice notice).id?.map Target.id := rfl
    rw [own, destination, noticeDestination, Arrival.id?]
    cases isSuppressed notice.code <;> cases notice.hasRequestId <;> rfl
  | _ => rfl

theorem event?_destination (a : Arrival) : (destination a).event? = a.event? := by
  cases a with
  | notice notice =>
    rw [destination, noticeDestination, Arrival.event?]
    cases isSuppressed notice.code <;> cases notice.hasRequestId <;> rfl
  | _ => rfl

section Deliver

variable {t : Table} {d : Destination} {n m : Nat}

def Destination.taker? (t : Table) (d : Destination) : Option Nat := d.target?.bind t.taker?

theorem deliver_snd (t : Table) (d : Destination) :
    (d.deliver t).2 = if (d.taker? t).isSome then none else d.event? := by
  cases d with
  | request target handler otherwise =>
    have taken := t.dispatch_snd target handler
    unfold Destination.deliver
    dsimp only
    rw [taken]
    rfl
  | refusal id failure otherwise =>
    have taken := t.fail_snd id failure
    unfold Destination.deliver
    dsimp only
    rw [taken]
    rfl
  | event _ | nobody => rfl

theorem deliver_of_nobody (nobody : d.taker? t = none) : (d.deliver t).1 = t := by
  cases d with
  | request target handler otherwise =>
    have free : t.taker? target = none := nobody
    exact congrArg Prod.fst (Table.dispatch_of_nobody free handler)
  | refusal id failure otherwise =>
    have free : t.taker? (.id id) = none := nobody
    exact congrArg Prod.fst (Table.fail_of_nobody free failure)
  | event _ | nobody => rfl

theorem request?_deliver_of_other (other : d.taker? t ≠ some m) :
    (d.deliver t).1.request? m = t.request? m := by
  cases d with
  | request target handler otherwise => exact Table.request?_dispatch_of_other other handler
  | refusal id failure otherwise => exact Table.request?_fail_of_other other failure
  | event _ | nobody => rfl

theorem mem_pending_deliver_of_other (filed : t.Filed) (other : d.taker? t ≠ some m) :
    m ∈ (d.deliver t).1.pending ↔ m ∈ t.pending := by
  cases d with
  | request target handler otherwise => exact filed.mem_pending_dispatch_of_other other handler
  | refusal id failure otherwise => exact filed.mem_pending_fail_of_other other failure
  | event _ | nobody => exact Iff.rfl

theorem requests_deliver_of_ended (found : d.taker? t = some n)
    (ended : (t.outcome? n).isSome = true) :
    (d.deliver t).1.requests = t.requests := by
  cases d with
  | request target handler otherwise => exact Table.requests_dispatch_of_ended found ended handler
  | refusal id failure otherwise => exact Table.requests_fail_of_ended found ended failure
  | event _ | nobody => cases found

end Deliver

/-- The session that has taken a payload in, or the failure that ends its connection. -/
def handle (s : Session) (payload : Bytes) : Except Failure Session :=
  match route s.offset s.table payload with
  | .error why => .error (.protocol why)
  | .ok (table, event) => .ok { s with table, events := s.events ++ event.toList }

section Handle

variable {s before after : Session} {payload : Bytes} {failure : Failure}

theorem handle_eq (s : Session) (payload : Bytes) :
    s.handle payload =
      match Arrival.read s.offset payload with
      | .error why => .error (.protocol why)
      | .ok arrival =>
        let (table, event) := (destination arrival).deliver s.table
        .ok { s with table, events := s.events ++ event.toList } := by
  unfold handle route
  cases Arrival.read s.offset payload <;> rfl

theorem handle_eq_error_iff :
    s.handle payload = .error failure ↔
      ∃ why, failure = .protocol why ∧ Unreadable s.offset payload why := by
  simp only [← Arrival.read_eq_error_iff]
  rw [handle_eq]
  cases Arrival.read s.offset payload with
  | error why => simp [eq_comm]
  | ok arrival => simp

theorem handle_eq_ok_iff :
    s.handle payload = .ok after ↔
      ∃ arrival, Arrival.read s.offset payload = .ok arrival ∧
        after =
          { s with
            table := ((destination arrival).deliver s.table).1
            events := s.events ++ ((destination arrival).deliver s.table).2.toList } := by
  rw [handle_eq]
  cases Arrival.read s.offset payload with
  | error why => simp
  | ok arrival => simp [eq_comm]

theorem events_lose (s : Session) (failure : Failure) :
    (s.lose failure).events =
      s.events ++ if s.closing then [] else [.connectionClosed failure.classify] := by
  unfold lose announceEnd
  cases asked : s.closing <;>
    simp [asked, noteEnd, signalDown, detach, closeLink, failPending]

/-- The loop takes a payload off the link and goes on with what it makes of the payload. -/
theorem next?_eq_of_taken (up : before.down = false) (goes : before.shutdown = false)
    (taken : before.link.take = (s.link, some (.ok payload)))
    (same : s = { before with link := s.link }) :
    before.next? =
      some (match s.handle payload with
        | .ok after => after
        | .error failure => s.lose failure) := by
  unfold next? handle
  rw [taken, same]
  simp only [up, goes, Bool.false_eq_true, ↓reduceIte]
  cases route before.offset before.table payload <;> rfl

end Handle

/-- A payload ends the connection if and only if its code is no number, or it is the code of a
message whose reader refuses the rest. The message has then changed nothing, and what follows is the
end of the connection. With every other payload the connection stays up, whatever is pending and
whatever the message does to its request. -/
theorem unreadable_payloads_alone_end_the_connection (s : Session) (payload : Bytes) :
    (∀ failure, s.handle payload = .error failure ↔
      ∃ why, failure = .protocol why ∧ Unreadable s.offset payload why) ∧
    (∀ after, s.handle payload = .ok after →
      ∃ told : Option Event,
        after = { s with table := after.table, events := s.events ++ told.toList } ∧
          ∀ why, told ≠ some (.connectionClosed why)) ∧
    (∀ raw, codeOf payload = .ok raw →
      alternateBias < raw ∨ (∀ message : Incoming, message.code ≠ raw) →
      s.handle payload = .ok { s with events := s.events ++ [.unknownMessage raw] }) ∧
    ∀ before : Session, before.down = false → before.shutdown = false →
      before.link.take = (s.link, some (.ok payload)) → s = { before with link := s.link } →
      match s.handle payload with
      | .ok after => before.next? = some after
      | .error failure =>
        before.next? = some (s.lose failure) ∧
          (s.lose failure).table = before.table.teardown failure.classify ∧
          (s.lose failure).events =
            before.events ++ if before.closing then [] else
            [.connectionClosed failure.classify] := by
  refine ⟨fun failure => handle_eq_error_iff, ?_, ?_, ?_⟩
  · intro after taken
    obtain ⟨arrival, _, rfl⟩ := handle_eq_ok_iff.mp taken
    refine ⟨((destination arrival).deliver s.table).2, rfl, ?_⟩
    intro why told
    exact event?_destination_ne arrival why (Destination.event?_of_deliver told)
  · intro raw code unknown
    exact handle_eq_ok_iff.mpr
      ⟨.unknown raw, Arrival.read_eq_ok_iff.mpr ⟨raw, code, Or.inl ⟨unknown, rfl⟩⟩, rfl⟩
  · intro before up goes taken same
    rw [next?_eq_of_taken up goes taken same]
    cases s.handle payload with
    | ok after => rfl
    | error failure =>
      refine ⟨rfl, ?_, ?_⟩
      · rw [table_lose, same]
      · rw [same]
        exact events_lose _ failure

/-- A reply that is not for a stream of ticks ends the stream whose id it carries, and the
connection stays up; the same reply without its id ends the connection. -/
theorem stray_reply_leaves_the_connection_up :
    let s := Course.step (ofReady {} 7 0 {} 176 "" 1) (.enroll (.ticker 5) (.marketData false) true)
    let stray : Bytes := [53, 50, 0, 49, 0, 53, 0]
    let short : Bytes := [53, 50, 0, 49, 0]
    (∃ after, ({ s with link := { arrived := [stray] } } : Session).next? = some after ∧
      after.isConnected = true ∧ after.events = [] ∧
      after.table.outcome? 0 = some (.error (.internal
        "contract data end reply routed to a market data request"))) ∧
    ({ s with link := { arrived := [short] } } : Session).next? =
    some (s.lose (.protocol .truncated)) ∧
    (s.lose (.protocol .truncated)).events = [.connectionClosed (.protocol .truncated)] := by
  intro s stray short
  refine ⟨?_, ?_⟩
  · have taken := (unreadable_payloads_alone_end_the_connection s stray).2.2.2
      { s with link := { arrived := [stray] } } rfl rfl rfl rfl
    have handled : s.handle stray =
        .ok { s with table := ((destination (.contractDetailsEnd 5)).deliver s.table).1 } := by rfl
    rw [handled] at taken
    exact ⟨_, taken, rfl, rfl, by rfl⟩
  · obtain ⟨refused, _, _, turns⟩ := unreadable_payloads_alone_end_the_connection s short
    have broken : s.handle short = .error (.protocol .truncated) :=
      (refused _).mpr ⟨.truncated, rfl, Or.inr ⟨.contractDataEnd, by cbv, by cbv⟩⟩
    have turn := turns { s with link := { arrived := [short] } } rfl rfl rfl rfl
    rw [broken] at turn
    exact ⟨turn.1, turn.2.2⟩

section Read

variable {offset : Int} {payload : Bytes} {raw : Int} {arrival : Arrival}

theorem code_of_read (read : Arrival.read offset payload = .ok arrival) :
    ∃ raw, codeOf payload = .ok raw ∧
      (arrival.target? =
        if raw = 49 ∨ raw = 15 ∨ raw = 9 then some (.code raw) else arrival.id?.map .id) ∧
      (arrival.event?.isSome = true ↔ arrival.IsTold raw) := by
  obtain ⟨raw, code, ⟨unknown, rfl⟩ | ⟨message, rfl, read⟩⟩ := Arrival.read_eq_ok_iff.mp read
  · refine ⟨raw, code, ?_, iff_of_true rfl (Or.inr (Or.inr unknown))⟩
    have strange : known? raw = none := known?_eq_none_iff.mpr unknown
    have other : ¬(raw = 49 ∨ raw = 15 ∨ raw = 9) := by
      rintro (rfl | rfl | rfl) <;> cases strange
    rw [if_neg other]
    rfl
  · exact ⟨_, code, Arrival.target?_of_body read, Arrival.event?_of_body read⟩

theorem deliver_of_suppressed {notice : Message.ErrorNotice}
    (quiet : isSuppressed notice.code = true) (t : Table) :
    (destination (.notice notice)).deliver t = (t, none) := by
  rw [destination, noticeDestination]
  simp only [quiet, ↓reduceIte, Destination.deliver]

end Read

/-- A message that was read is taken by one request at most: by the one that is pending under its
id, or for the three replies without an id by the one that has waited longest for the code. No other
request changes, nor where it is found. If and only if no request takes the message, the owner is
told of it, once, unless it is a message of which the owner is never told. A request that has ended
takes its message without a change, and a notice that is passed over has no effect, whatever is
pending under its id. -/
theorem message_has_one_destination {s after : Session} {payload : Bytes}
    (accepted : s.handle payload = .ok after) :
    ∃ raw arrival, codeOf payload = .ok raw ∧ Arrival.read s.offset payload = .ok arrival ∧
      let taker :=
        if raw = 49 ∨ raw = 15 ∨ raw = 9 then (s.table.queue raw).head?
        else arrival.id?.bind s.table.pendingId?
      (∀ m, after.table.request? m ≠ s.table.request? m → taker = some m) ∧
      (∃ told : Option Event,
        after = { s with table := after.table, events := s.events ++ told.toList } ∧
          (∀ event, told = some event → arrival.event? = some event) ∧
          (told.isSome = true ↔ taker = none ∧ arrival.IsTold raw)) ∧
      (taker = none → after.table = s.table) ∧
      (∀ n, taker = some n → (s.table.outcome? n).isSome = true →
        after.table.requests = s.table.requests) ∧
      (∀ notice, arrival = .notice notice → notice.code = 300 ∨ notice.code = 10167 → after = s) ∧
      ∀ s₀ first moves, s = Course.run (Course.opened s₀ first) moves →
        ∀ m, taker ≠ some m → (m ∈ after.table.pending ↔ m ∈ s.table.pending) := by
  obtain ⟨arrival, read, rfl⟩ := handle_eq_ok_iff.mp accepted
  obtain ⟨raw, code, target, hook⟩ := code_of_read read
  refine ⟨raw, arrival, code, read, ?_⟩
  intro taker
  have same : (destination arrival).taker? s.table = taker := by
    rw [Destination.taker?, target?_destination, target]
    dsimp only [taker]
    split
    · rfl
    · cases arrival.id? <;> rfl
  dsimp only
  refine ⟨?_, ⟨_, rfl, ?_, ?_⟩, ?_, ?_, ?_, ?_⟩
  · intro m changed
    by_contra other
    rw [← same] at other
    exact changed (request?_deliver_of_other other)
  · intro event told
    rw [← event?_destination]
    exact Destination.event?_of_deliver told
  · rw [deliver_snd, same, event?_destination, ← hook]
    cases taker <;> simp
  · intro nobody
    exact deliver_of_nobody (same.trans nobody)
  · intro n found ended
    exact requests_deliver_of_ended (same.trans found) ended
  · rintro notice rfl quiet
    have passed : isSuppressed notice.code = true := by
      rcases quiet with quiet | quiet <;> rw [quiet] <;> rfl
    rw [deliver_of_suppressed passed]
    simp
  · rintro s₀ first moves rfl m other
    rw [← same] at other
    exact mem_pending_deliver_of_other (Course.filed_run (Course.filed_opened s₀ first) moves) other

/-- A call for the accounts was given up before its reply came. The reply is taken by the call that
nobody waits for, and the owner is not told of it. -/
theorem reply_of_an_abandoned_call_is_told_to_nobody :
    let s := Course.run (Course.opened (ofReady {} 7 0 {} 176 "" 1) 1)
      [.enroll (.withoutId 15 1) (.managedAccounts none) false,
        .abandon ⟨.managedAccounts, 0, none⟩]
    let accounts : Bytes := [49, 53, 0, 49, 0, 68, 85, 49, 0]
    s.table.queue 15 = [0] ∧
    ∃ after, s.handle accounts = .ok after ∧ after.events = [] ∧ after.table.queue 15 = [] ∧
      after.table.requests = s.table.requests := by
  intro s accounts
  refine ⟨rfl, ?_⟩
  have handled : s.handle accounts =
      .ok { s with table := ((destination (.managedAccounts ["DU1"])).deliver s.table).1 } := by rfl
  refine ⟨_, handled, rfl, by rfl, ?_⟩
  obtain ⟨raw, arrival, code, read, unchanged⟩ := message_has_one_destination handled
  have same : codeOf accounts = .ok 15 := by cbv
  rw [same] at code
  cases code
  exact unchanged.2.2.2.1 0 rfl rfl

end MarketLink.Session
