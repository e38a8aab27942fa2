import MarketLink.Proofs.Correlation.Focus
import MarketLink.Proofs.Correlation.Pending
import MarketLink.Session.Opening
import MarketLink.Session.Stream

set_option autoImplicit false

namespace MarketLink.Session

open Correlation Message Time Wire

theorem table_send (s : Session) (frame : Bytes) : (s.send frame).1.table = s.table := by
  unfold Session.send
  split <;> rfl

theorem attached_send (s : Session) (frame : Bytes) : (s.send frame).1.attached = s.attached := by
  unfold Session.send
  split <;> rfl

theorem table_withdraw (s : Session) (note : Option Bytes) : (s.withdraw note).table = s.table := by
  cases note with
  | none => rfl
  | some frame => exact table_send s frame

theorem attached_withdraw (s : Session) (note : Option Bytes) :
    (s.withdraw note).attached = s.attached := by
  cases note with
  | none => rfl
  | some frame => exact attached_send s frame

theorem table_place_of_ok {s : Session} {n : Nat} {frame : Bytes}
    (placed : (s.place n frame).2 = .ok ()) : (s.place n frame).1.table = s.table := by
  have same := table_send s frame
  revert placed same
  unfold place
  rcases s.send frame with ⟨after, failure | ⟨⟩⟩
  · exact nofun
  · exact fun _ same => same

theorem table_withdraw_ite (s : Session) (was : Bool) (note : Option Bytes) :
    (if was then s.withdraw note else s).table = s.table := by
  cases was with
  | true => exact table_withdraw s note
  | false => rfl

/-- A frame that is refused ends its request, and nothing else changes the table. -/
theorem table_place (s : Session) (n : Nat) (frame : Bytes) :
    (s.place n frame).1.table =
      match (s.send frame).2 with
      | .ok () => s.table
      | .error failure => (s.table.cancel n failure).1 := by
  have same := table_send s frame
  unfold place
  rcases sent : s.send frame with ⟨after, failure | ⟨⟩⟩
  · rw [sent] at same
    show (after.table.cancel n failure).1 = (s.table.cancel n failure).1
    rw [← same]
  · rw [sent] at same
    exact same

/-- A frame goes out only behind its request. -/
theorem submit_frame (s : Session) (request : Request) (frame : Bytes) :
    s.submit request (.ok frame) =
      let enrolled : Session := { s with table := (s.table.enroll request).1 }
      let n := s.table.requests.length
      match (s.table.enroll request).2 with
      | .error failure => (enrolled, .error failure)
      | .ok () => ((enrolled.place n frame).1, (enrolled.place n frame).2.map fun _ => n) := by
  have registered : ({ s with table := (s.table.create request).1 } : Session).register
      s.table.requests.length =
        ({ s with table := (s.table.enroll request).1 }, (s.table.enroll request).2) := rfl
  unfold submit
  dsimp only [Table.create] at registered ⊢
  rw [registered]
  rcases (s.table.enroll request).2 with failure | ⟨⟩
  · rfl
  · dsimp only
    rcases Session.place _ s.table.requests.length frame with ⟨after, failure | ⟨⟩⟩ <;> rfl

theorem table_enter {s after : Session} (entered : s.enter = some after) :
    after.table = s.table := by
  unfold enter at entered
  split at entered <;> cases entered
  rfl

/-- A stream that was given out has its request in the table, pending under an id that was free. -/
theorem subscribe_of_ok {s after : Session} {feed : Feed} {stream : Stream}
    (given : s.subscribe feed = (after, .ok stream)) :
    s.table.pendingId? stream.id = none ∧ stream.request = s.table.requests.length ∧
      after.table =
        (s.table.allocate.1.enroll (Request.new (.ticker stream.id) feed.slot true)).1 := by
  revert given
  unfold subscribe
  rcases feed.check with failure | ⟨⟩
  · exact nofun
  dsimp only
  rcases s.table.allocate.2 with failure | id
  · exact nofun
  dsimp only
  split
  · exact nofun
  rename_i inside entered
  have drawn : inside.table = s.table.allocate.1 := table_enter entered
  rcases feed.frame id with e | frame
  · exact nofun
  have carries : (Request.new (.ticker id) feed.slot true).key.id? = some id := rfl
  have free : s.table.allocate.1.pendingId? id = s.table.pendingId? id := rfl
  rw [submit_frame, drawn, Table.enroll_snd carries, free]
  cases pending : s.table.pendingId? id with
  | some m => exact nofun
  | none =>
    simp only [Option.isSome_none, Bool.false_eq_true, ↓reduceIte]
    have placed := @table_place_of_ok
      { inside with table :=
        (s.table.allocate.1.enroll (Request.new (.ticker id) feed.slot true)).1 }
      s.table.allocate.1.requests.length frame
    revert placed
    rcases Session.place _ _ frame with ⟨through, failure | ⟨⟩⟩
    · exact fun _ => nofun
    · intro placed given
      cases given
      exact ⟨pending, rfl, placed rfl⟩

theorem table_cancelStream (s : Session) (stream : Stream) :
    (s.cancelStream stream).1.table =
      if stream.cancelled then s.table else (s.table.cancel stream.request .cancelled).1 := by
  unfold cancelStream
  split
  · rfl
  · exact table_withdraw_ite { s with table := (s.table.cancel stream.request .cancelled).1 } _ _

theorem table_abandon (s : Session) (call : Call) :
    (s.abandon call).table =
      if (s.table.outcome? call.request).isSome then s.table
      else (s.table.abandon call.request).1 := by
  have same : s.outcome? call.request = s.table.outcome? call.request := rfl
  unfold Session.abandon
  rw [same]
  split
  · rfl
  · exact table_withdraw_ite { s with table := (s.table.abandon call.request).1 } _ _

theorem table_announceEnd (s : Session) (failure : Failure) :
    (s.announceEnd failure).table = s.table ∧ (s.announceEnd failure).attached = s.attached := by
  unfold announceEnd
  split <;> exact ⟨rfl, rfl⟩

theorem table_lose (s : Session) (failure : Failure) :
    (s.lose failure).table = s.table.teardown failure.classify :=
  (table_announceEnd _ failure.classify).1

/-- What the loop finds when it turns: a message, or the end of the connection. -/
def incoming? (s : Session) : Option (Except Failure Arrival) :=
  if s.down then none
  else if s.shutdown then some (.error .closed)
  else
    match s.link.take.2 with
    | none => none
    | some (.error failure) => some (.error failure)
    | some (.ok payload) => some ((Arrival.read s.offset payload).mapError .protocol)

/-- A turn of the loop takes the message that it finds to its destination, or ends everything. -/
theorem table_next? (s : Session) :
    (s.next?.getD s).table =
      match s.incoming? with
      | none => s.table
      | some (.error failure) => s.table.teardown failure.classify
      | some (.ok arrival) => ((destination arrival).deliver s.table).1 := by
  unfold next? incoming?
  split
  · rfl
  · split
    · exact table_lose s .closed
    · rcases s.link.take with ⟨link, _ | failure | payload⟩
      · rfl
      · exact table_lose _ failure
      · dsimp only [route]
        cases Arrival.read s.offset payload with
        | error e => exact table_lose _ (.protocol e)
        | ok arrival => rfl

end MarketLink.Session

namespace MarketLink.Message

open Wire

/-- The request id that a message carries. A notice carries one unless it is passed over or about no
request. -/
def Arrival.id? : Arrival → Option Int
  | .tick id _ | .marketDataType id _ | .snapshotEnd id | .depth id _ | .contractDetails id _
  | .contractDetailsEnd id | .historicalBars id _ => some id
  | .notice told => if !isSuppressed told.code && told.hasRequestId then some told.id else none
  | .currentTime _ | .managedAccounts _ | .nextValidId _ | .unknown _ => none

end MarketLink.Message

namespace MarketLink.Session

open Correlation Message Time Wire

def Destination.id? : Destination → Option Int
  | .request (.id id) _ _ | .refusal id _ _ => some id
  | .request (.code _) _ _ | .event _ | .nobody => none

theorem id?_destination (a : Arrival) : (destination a).id? = a.id? := by
  cases a with
  | notice notice =>
    rw [destination, noticeDestination, Arrival.id?]
    cases isSuppressed notice.code <;> cases notice.hasRequestId <;> rfl
  | _ => rfl

section Deliver

variable {t : Table}

theorem filed_deliver (filed : t.Filed) (d : Destination) : (d.deliver t).1.Filed := by
  cases d with
  | request target handler otherwise => exact filed.dispatch target handler
  | refusal id failure otherwise => exact filed.fail id failure
  | event _ | nobody => exact filed

@[simp] theorem keys_deliver (t : Table) (d : Destination) : (d.deliver t).1.keys = t.keys := by
  cases d with
  | request target handler otherwise => exact t.keys_dispatch target handler
  | refusal id failure otherwise => exact t.keys_fail id failure
  | event _ | nobody => rfl

theorem focus_deliver (filed : t.Filed) {d : Destination} {id : Int} (own : d.id? = some id) :
    (d.deliver t).1.focus id = (d.deliver (t.focus id)).1 := by
  cases d with
  | request target handler otherwise =>
    cases target with
    | id found =>
      cases own
      exact filed.focus_dispatch id handler
    | code _ => cases own
  | refusal found failure otherwise =>
    cases own
    exact filed.focus_fail id failure
  | event _ | nobody => cases own

theorem focus_deliver_of_ne (filed : t.Filed) {d : Destination} {id : Int}
    (other : d.id? ≠ some id) :
    (d.deliver t).1.focus id = t.focus id := by
  cases d with
  | request target handler otherwise =>
    refine filed.focus_dispatch_of_ne ?_ handler
    rintro rfl
    exact other rfl
  | refusal found failure otherwise =>
    refine filed.focus_fail_of_ne ?_ failure
    rintro rfl
    exact other rfl
  | event _ | nobody => rfl

end Deliver

namespace Course

/-- One thing that happens in the course of a session. -/
inductive Move where
  /-- Whatever leaves the requests as they are: bytes come and go, numbers are drawn, the gate is
  passed, the owner begins to close. -/
  | around (change : Session → Session)
  | enroll (key : Key) (slot : Slot) (streaming : Bool)
  | place (n : Nat) (frame : Bytes)
  | cancelStream (stream : Stream)
  | abandon (call : Call)
  | turn

def delivery (payload : Bytes) : Move :=
  .around fun s => { s with link := { s.link with arrived := s.link.arrived ++ [payload] } }

def step (s : Session) : Move → Session
  | .around change =>
    let after := change s
    { after with
      table := { s.table with nextId := after.table.nextId, nextSeq := after.table.nextSeq } }
  | .enroll key slot streaming =>
    { s with table := (s.table.enroll (Request.new key slot streaming)).1 }
  | .place n frame => (s.place n frame).1
  | .cancelStream stream => (s.cancelStream stream).1
  | .abandon call => s.abandon call
  | .turn => s.next?.getD s

def run (s : Session) (moves : List Move) : Session := moves.foldl step s

/-- A session whose gateway has announced its first id, before anything is asked. -/
def opened (s : Session) (first : Int) : Session := { s with table := Table.empty.seed first }

theorem filed_opened (s : Session) (first : Int) : (opened s first).table.Filed :=
  Table.filed_empty _ rfl rfl

/-- Something that concerns an id. Requests are told apart by how many others that carry the id were
created before them. -/
inductive Concern where
  | enrolled (request : Request)
  | arrived (arrival : Arrival)
  | cancelled (rank : Nat) (failure : Failure)
  | abandoned (rank : Nat)
  | lost (failure : Failure)

/-- What follows from something that concerns an id, for a table that knows no other ids. -/
def Concern.act (t : Table) : Concern → Table
  | .enrolled request => (t.enroll request).1
  | .arrived arrival => ((destination arrival).deliver t).1
  | .cancelled n failure => (t.cancel n failure).1
  | .abandoned n => if (t.outcome? n).isSome then t else (t.abandon n).1
  | .lost failure => t.teardown failure

/-- A request that has ended has ended, whatever else concerns its id. -/
theorem outcome?_act_of_some {t : Table} {n : Nat} {result : Except Failure Slot}
    (ended : t.outcome? n = some result) (c : Concern) : (c.act t).outcome? n = some result := by
  cases c with
  | enrolled request => exact Table.outcome?_enroll_of_some ended request
  | cancelled m failure => exact Table.outcome?_cancel_of_some ended m failure
  | abandoned m =>
    unfold Concern.act
    dsimp only
    split
    · exact ended
    · exact Table.outcome?_abandon_of_some ended m
  | lost failure => exact Table.outcome?_teardown_of_some ended failure
  | arrived arrival =>
    show ((destination arrival).deliver t).1.outcome? n = some result
    cases destination arrival with
    | request target handler otherwise =>
      cases target with
      | id found => exact Table.outcome?_dispatch_id_of_some ended found handler
      | code found => exact Table.outcome?_dispatch_of_some ended found handler
    | refusal found failure otherwise => exact Table.outcome?_fail_of_some ended found failure
    | event _ | nobody => exact ended

def Concern.IsOf (id : Int) : Concern → Prop
  | .enrolled request => request.key.id? = some id
  | .arrived arrival => arrival.id? = some id
  | .cancelled _ _ | .abandoned _ | .lost _ => True

/-- What a move tells to an id. -/
def concerns (id : Int) (s : Session) : Move → List Concern
  | .around _ => []
  | .enroll key slot streaming =>
    if key.id? = some id then [.enrolled (Request.new key slot streaming)] else []
  | .place n frame =>
    match (s.send frame).2 with
    | .ok () => []
    | .error failure =>
      if s.table.idOf? n = some id then [.cancelled (s.table.rank id n) failure] else []
  | .cancelStream stream =>
    if stream.cancelled = false ∧ s.table.idOf? stream.request = some id then
      [.cancelled (s.table.rank id stream.request) .cancelled]
    else []
  | .abandon call =>
    if s.table.idOf? call.request = some id then [.abandoned (s.table.rank id call.request)] else []
  | .turn =>
    match s.incoming? with
    | none => []
    | some (.error failure) => [.lost failure.classify]
    | some (.ok arrival) => if arrival.id? = some id then [.arrived arrival] else []

/-- All that a run tells to an id, in order. -/
def story (id : Int) : Session → List Move → List Concern
  | _, [] => []
  | s, move :: rest => concerns id s move ++ story id (step s move) rest

theorem story_append (id : Int) (s : Session) (moves more : List Move) :
    story id s (moves ++ more) = story id s moves ++ story id (run s moves) more := by
  induction moves generalizing s with
  | nil => rfl
  | cons move rest ih =>
    show concerns id s move ++ story id (step s move) (rest ++ more) = _
    rw [ih, ← List.append_assoc]
    rfl

theorem isOf_of_mem_concerns {id : Int} {s : Session} {move : Move} {c : Concern}
    (told : c ∈ concerns id s move) : c.IsOf id := by
  unfold concerns at told
  cases move with
  | around _ => cases told
  | enroll key slot streaming =>
    dsimp only at told
    split at told
    · rename_i carries
      cases List.mem_singleton.mp told
      exact carries
    · cases told
  | place n frame =>
    dsimp only at told
    split at told
    · cases told
    · split at told
      · cases List.mem_singleton.mp told
        trivial
      · cases told
  | cancelStream _ | abandon _ =>
    dsimp only at told
    split at told
    · cases List.mem_singleton.mp told
      trivial
    · cases told
  | turn =>
    dsimp only at told
    split at told
    · cases told
    · cases List.mem_singleton.mp told
      trivial
    · split at told
      · rename_i own
        cases List.mem_singleton.mp told
        exact own
      · cases told

theorem isOf_of_mem_story {id : Int} {s : Session} {moves : List Move} {c : Concern}
    (told : c ∈ story id s moves) : c.IsOf id := by
  induction moves generalizing s with
  | nil => cases told
  | cons move rest ih =>
    rcases List.mem_append.mp told with now | later
    · exact isOf_of_mem_concerns now
    · exact ih later

variable {s : Session}

theorem filed_step (filed : s.table.Filed) (move : Move) : (step s move).table.Filed := by
  cases move with
  | around change => exact filed.of_keys rfl rfl (fun _ _ same => same) fun _ _ same => same
  | enroll key slot streaming => exact filed.enroll (Request.new key slot streaming)
  | place n frame =>
    show (s.place n frame).1.table.Filed
    rw [table_place]
    split
    · exact filed
    · exact filed.evict n _
  | cancelStream stream =>
    show (s.cancelStream stream).1.table.Filed
    rw [table_cancelStream]
    split
    · exact filed
    · exact filed.evict stream.request _
  | abandon call =>
    show (s.abandon call).table.Filed
    rw [table_abandon]
    split
    · exact filed
    · exact filed.abandon call.request
  | turn =>
    show (s.next?.getD s).table.Filed
    rw [table_next?]
    split
    · exact filed
    · exact Table.Filed.teardown s.table _
    · exact filed_deliver filed _

theorem filed_run (filed : s.table.Filed) (moves : List Move) : (run s moves).table.Filed := by
  induction moves generalizing s with
  | nil => exact filed
  | cons move rest ih => exact ih (filed_step filed move)

/-- The table as an id sees it is changed by what concerns the id, and by nothing else. -/
theorem focus_step (filed : s.table.Filed) (id : Int) (move : Move) :
    (step s move).table.focus id = (concerns id s move).foldl Concern.act (s.table.focus id) := by
  cases move with
  | around change => exact Table.focus_congr rfl rfl
  | enroll key slot streaming =>
    show (s.table.enroll (Request.new key slot streaming)).1.focus id = _
    simp only [concerns]
    split
    · rename_i carries
      exact filed.focus_enroll carries
    · rename_i elsewhere
      exact filed.focus_enroll_of_ne elsewhere
  | place n frame =>
    show (s.place n frame).1.table.focus id = _
    rw [table_place]
    simp only [concerns]
    cases (s.send frame).2 with
    | ok _ => rfl
    | error failure =>
      dsimp only
      split
      · rename_i carried
        exact filed.focus_cancel carried failure
      · rename_i elsewhere
        exact Table.focus_cancel_of_ne elsewhere failure
  | cancelStream stream =>
    show (s.cancelStream stream).1.table.focus id = _
    rw [table_cancelStream]
    simp only [concerns]
    cases stream.cancelled with
    | true => rfl
    | false =>
      simp only [Bool.false_eq_true, ↓reduceIte, true_and]
      split
      · rename_i carried
        exact filed.focus_cancel carried .cancelled
      · rename_i elsewhere
        exact Table.focus_cancel_of_ne elsewhere .cancelled
  | abandon call =>
    show (s.abandon call).table.focus id = _
    rw [table_abandon]
    simp only [concerns]
    -- whether the call has its result already is the same question in both tables
    by_cases carried : s.table.idOf? call.request = some id
    · have same : (s.table.focus id).outcome? (s.table.rank id call.request) =
          s.table.outcome? call.request := by
        rw [Table.outcome?, Table.request?_focus carried, Table.outcome?]
      rw [if_pos carried]
      simp only [List.foldl_cons, List.foldl_nil, Concern.act, same]
      split
      · rfl
      · exact filed.focus_abandon carried
    · rw [if_neg carried]
      split
      · rfl
      · exact Table.focus_abandon_of_ne carried
  | turn =>
    show (s.next?.getD s).table.focus id = _
    rw [table_next?]
    simp only [concerns]
    rcases s.incoming? with _ | failure | arrival
    · rfl
    · exact filed.focus_teardown id failure.classify
    · dsimp only
      split
      · rename_i own
        exact focus_deliver filed ((id?_destination arrival).trans own)
      · rename_i other
        exact focus_deliver_of_ne filed fun own => other ((id?_destination arrival).symm.trans own)

theorem keys_step (s : Session) (move : Move) : s.table.keys <+: (step s move).table.keys := by
  have kept : ∀ {t : Table}, t.keys = s.table.keys → s.table.keys <+: t.keys := fun same =>
    same ▸ List.prefix_rfl
  cases move with
  | around change => exact List.prefix_rfl
  | enroll key slot streaming =>
    show _ <+: (s.table.enroll (Request.new key slot streaming)).1.keys
    rw [Table.enroll, Table.keys_register, Table.keys_create]
    exact List.prefix_append _ _
  | place n frame =>
    apply kept
    rw [step, table_place]
    split <;> simp
  | cancelStream stream =>
    apply kept
    rw [step, table_cancelStream]
    split <;> simp
  | abandon call =>
    apply kept
    rw [step, table_abandon]
    split <;> simp
  | turn =>
    apply kept
    rw [step, table_next?]
    split <;> simp

theorem keys_run (s : Session) (moves : List Move) : s.table.keys <+: (run s moves).table.keys := by
  induction moves generalizing s with
  | nil => exact List.prefix_rfl
  | cons move rest ih => exact (keys_step s move).trans (ih (step s move))

theorem focus_run (filed : s.table.Filed) (id : Int) (moves : List Move) :
    (run s moves).table.focus id = (story id s moves).foldl Concern.act (s.table.focus id) := by
  induction moves generalizing s with
  | nil => rfl
  | cons move rest ih =>
    rw [story, List.foldl_append, ← focus_step filed]
    exact ih (filed_step filed move)

end Course

end MarketLink.Session
