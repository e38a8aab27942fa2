import MarketLink.Proofs.Correlation.Ending
import MarketLink.Proofs.Session.Course

set_option autoImplicit false

namespace MarketLink.Session

open Correlation Market Message Wire

namespace Course

theorem destination_of_notice {id : Int} {told : ErrorNotice}
    (own : (Concern.arrived (.notice told)).IsOf id) :
    ∃ otherwise, destination (.notice told) =
      .refusal id (.api told.code told.message) otherwise := by
  have target := (id?_destination (.notice told)).trans own
  revert target
  rw [destination, noticeDestination]
  cases isSuppressed told.code with
  | true =>
    intro target
    cases target
  | false =>
    cases told.hasRequestId with
    | true =>
      intro target
      cases target
      exact ⟨_, rfl⟩
    | false =>
      intro target
      cases target

section Ended

variable {t : Table} {n : Nat}

theorem outcome?_foldl_act_of_some {result : Except Failure Slot}
    (ended : t.outcome? n = some result) (told : List Concern) :
    (told.foldl Concern.act t).outcome? n = some result := by
  induction told generalizing t with
  | nil => exact ended
  | cons c rest ih => exact ih (outcome?_act_of_some ended c)

theorem items_act_of_ended (ended : (t.outcome? n).isSome = true) (c : Concern) :
    (c.act t).items n = t.items n := by
  cases c with
  | enrolled request =>
    obtain ⟨result, done⟩ := Option.isSome_iff_exists.mp ended
    obtain ⟨old, found, _⟩ := Option.bind_eq_some_iff.mp done
    exact Table.items_enroll found request
  | cancelled m failure => exact t.items_cancel m n failure
  | abandoned m =>
    unfold Concern.act
    dsimp only
    split
    · rfl
    · exact t.items_abandon m n
  | lost failure => exact t.items_teardown failure n
  | arrived arrival =>
    show ((destination arrival).deliver t).1.items n = t.items n
    cases destination arrival with
    | request target handler otherwise => exact Table.items_dispatch_of_ended ended target handler
    | refusal found failure otherwise => exact t.items_fail found failure n
    | event _ | nobody => rfl

theorem items_foldl_act_of_ended (ended : (t.outcome? n).isSome = true) (told : List Concern) :
    (told.foldl Concern.act t).items n = t.items n := by
  induction told generalizing t with
  | nil => rfl
  | cons c rest ih =>
    have still := Table.ended_of_kept (fun _ done => outcome?_act_of_some done c) ended
    exact (ih still).trans (items_act_of_ended ended c)

end Ended

/-- A session becomes another one when a stream is made pending in it: by a caller that asks for the
stream and gets it, or by one that has its id and has yet to queue the frame. -/
inductive StreamOpened (s : Session) (feed : Feed) (stream : Stream) : Session → Prop where
  | asked {given : Session} (subscribed : s.subscribe feed = (given, .ok stream)) :
      StreamOpened s feed stream given
  | registered (allowed : feed.check = .ok ()) (number : stream.request = s.table.requests.length)
      (free : s.table.pendingId? stream.id = none) :
      StreamOpened s feed stream (step s (.enroll (.ticker stream.id) feed.slot true))

section Opened

variable {s given : Session} {feed : Feed} {stream : Stream}

theorem StreamOpened.begins (asks : StreamOpened s feed stream given) (filed : s.table.Filed) :
    given.table.Filed ∧ given.table.Waits stream.id stream.request feed.slot ∧
      given.table.items stream.request = [] := by
  have carries : (Key.ticker stream.id).id? = some stream.id := rfl
  have enrolled : ∀ t : Table, t.Filed → t.pendingId? stream.id = none →
      stream.request = t.requests.length →
      let r := Request.new (.ticker stream.id) feed.slot true
      (t.enroll r).1.Filed ∧ (t.enroll r).1.Waits stream.id stream.request feed.slot ∧
        (t.enroll r).1.items stream.request = [] := by
    intro t filed free number r
    rw [number]
    exact ⟨filed.enroll r, Table.waits_enroll carries free _ true, t.items_enroll_self _ _ _⟩
  cases asks with
  | asked subscribed =>
    obtain ⟨free, number, table⟩ := subscribe_of_ok subscribed
    have drawn : s.table.allocate.1.Filed :=
      filed.of_keys rfl rfl (fun _ _ same => same) fun _ _ same => same
    rw [table]
    exact enrolled s.table.allocate.1 drawn free number
  | registered _ number free => exact enrolled s.table filed free number

end Opened

theorem request?_run_of_waits {given : Session} {stream : Stream} {slot : Slot}
    (filed : given.table.Filed) (waits : given.table.Waits stream.id stream.request slot)
    (moves : List Move) :
    let n := given.table.rank stream.id stream.request
    let seen := (story stream.id given moves).foldl Concern.act (given.table.focus stream.id)
    (given.table.focus stream.id).Waits stream.id n slot ∧
      (run given moves).table.items stream.request = seen.items n ∧
      (run given moves).outcome? stream.request = seen.outcome? n := by
  intro n seen
  have carried := filed.ofId _ _ waits.pending
  have grown := keys_run given moves
  have still := Table.idOf?_of_prefix grown carried
  have rank : (run given moves).table.rank stream.id stream.request = n :=
    Table.rank_of_prefix grown (Nat.le_of_lt waits.inside)
  have view : (run given moves).table.focus stream.id = seen := focus_run filed stream.id moves
  refine ⟨(filed.waits_focus_iff carried).mpr waits, ?_, ?_⟩
  · rw [← view, ← rank, Table.items_focus still]
  · rw [← view, ← rank, Table.outcome?_focus still]
    rfl

end Course

end MarketLink.Session
