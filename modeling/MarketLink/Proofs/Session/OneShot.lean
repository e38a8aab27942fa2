import MarketLink.Proofs.Session.Gathering

set_option autoImplicit false

namespace MarketLink.Session

open Correlation Market Message Time Wire

namespace Course

/-- What goes on around the requests does not say whether the connection is up; that is for the
loop. -/
def hush : Move → Move
  | .around change =>
    .around fun s =>
      { change s with attached := s.attached, down := s.down, terminal := s.terminal }
  | move => move

/-- Where a call is whose request is registered. -/
inductive Leg where
  | registered
  | refused (failure : Failure)
  | waiting
  | back (result : Except Failure Reply)
  | dropped

/-- A session, and a call that is made in it. -/
structure Inquiry where
  session : Session
  leg : Leg := .registered
  branch : Branch := .outcome
  done : List Move := []
  /-- What of it had been done when the call polled its outcome last. -/
  seen : List Move := []

namespace Inquiry

inductive Move where
  /-- Others go on: callers, the loop, the link or the owner. -/
  | session (move : Course.Move)
  | place (frame : Bytes)
  /-- The call polls its next branch, before its time is up. -/
  | look
  | expire
  | drop

def go (w : Inquiry) (move : Course.Move) : Inquiry :=
  { w with session := Course.step w.session move, done := w.done ++ [move] }

/-- The call polls its next branch. With what is ready there it comes back, and whatever it leaves
of its request is cleaned up. -/
def poll (call : Call) (w : Inquiry) (late : Bool) : Inquiry :=
  match w.leg with
  | .waiting =>
    match w.session.polled? call.request late w.branch with
    | some outcome =>
      { w.go (.abandon call) with leg := .back (outcome.bind call.question.replyOf) }
    | none =>
      { w with branch := w.branch.next, seen := if w.branch = .outcome then w.done else w.seen }
  | _ => w

def step (call : Call) (w : Inquiry) : Move → Inquiry
  | .session move => w.go (hush move)
  | .place frame =>
    match w.leg with
    | .registered =>
      match (w.session.send frame).2 with
      | .ok _ => { w.go (.place call.request frame) with leg := .waiting }
      | .error failure => { w.go (.place call.request frame) with leg := .refused failure }
    | _ => w
  | .look => w.poll call false
  | .expire => w.poll call true
  | .drop =>
    match w.leg with
    | .waiting => { w.go (.abandon call) with leg := .dropped }
    | _ => w

def run (call : Call) (w : Inquiry) (moves : List Move) : Inquiry := moves.foldl (step call) w

end Inquiry

/-- Whether the connection is up, and why it has ended, is as it was. -/
structure SameEnd (s after : Session) : Prop where
  down : after.down = s.down
  attached : after.attached = s.attached
  terminal : after.terminal = s.terminal

theorem sameEnd_send (s : Session) (frame : Bytes) : SameEnd s (s.send frame).1 := by
  unfold Session.send
  split <;> exact ⟨rfl, rfl, rfl⟩

theorem sameEnd_withdraw (s : Session) (was : Bool) (note : Option Bytes) :
    SameEnd s (if was then s.withdraw note else s) := by
  cases was with
  | true => cases note with
    | none => exact ⟨rfl, rfl, rfl⟩
    | some frame => exact sameEnd_send s frame
  | false => exact ⟨rfl, rfl, rfl⟩

theorem sameEnd_step (s : Session) {move : Move} (other : move ≠ .turn) :
    SameEnd s (step s (hush move)) := by
  cases move with
  | turn => exact absurd rfl other
  | around change => exact ⟨rfl, rfl, rfl⟩
  | enroll key slot streaming => exact ⟨rfl, rfl, rfl⟩
  | place n frame =>
    have same := sameEnd_send s frame
    show SameEnd s (s.place n frame).1
    unfold place
    revert same
    rcases s.send frame with ⟨after, failure | ⟨⟩⟩ <;> exact fun same => ⟨same.1, same.2, same.3⟩
  | cancelStream stream =>
    show SameEnd s (s.cancelStream stream).1
    unfold Session.cancelStream
    split
    · exact ⟨rfl, rfl, rfl⟩
    · have same := sameEnd_withdraw (s.cancelRequest stream.request .cancelled).1
        (s.cancelRequest stream.request .cancelled).2 stream.withdrawal
      exact ⟨same.1, same.2, same.3⟩
  | abandon call =>
    show SameEnd s (s.abandon call)
    unfold Session.abandon
    split
    · exact ⟨rfl, rfl, rfl⟩
    · have same := sameEnd_withdraw { s with table := (s.table.abandon call.request).1 }
        (s.table.abandon call.request).2 call.withdrawal
      exact ⟨same.1, same.2, same.3⟩

/-- Only the loop tells an id that the connection has ended. -/
theorem eq_turn_of_lost {id : Int} {s : Session} {move : Move} {failure : Failure}
    (told : .lost failure ∈ concerns id s move) : move = .turn := by
  cases move with
  | turn => rfl
  | around _ => cases told
  | enroll _ _ _ | cancelStream _ | abandon _ =>
    simp only [concerns] at told
    split at told <;> simp at told
  | place _ _ =>
    simp only [concerns] at told
    split at told
    · cases told
    · split at told <;> simp at told

/-- The loop finds nothing, the end of the connection, or a message. -/
theorem next?_cases (s : Session) :
    s.incoming? = none ∧ s.next? = none ∨
      (∃ link failure, s.down = false ∧ s.incoming? = some (.error failure) ∧
        s.next? = some (({ s with link } : Session).lose failure)) ∨
      ∃ link arrival table events, s.incoming? = some (.ok arrival) ∧
        s.next? = some { s with link, table, events } := by
  unfold next? incoming?
  split
  · exact Or.inl ⟨rfl, rfl⟩
  · rename_i down
    have up := Bool.eq_false_iff.mpr down
    split
    · exact Or.inr (Or.inl ⟨s.link, .closed, up, rfl, rfl⟩)
    · rcases s.link.take with ⟨link, _ | failure | payload⟩
      · exact Or.inl ⟨rfl, rfl⟩
      · exact Or.inr (Or.inl ⟨link, failure, up, rfl, rfl⟩)
      · dsimp only [route]
        cases Arrival.read s.offset payload with
        | error e => exact Or.inr (Or.inl ⟨link, .protocol e, up, rfl, rfl⟩)
        | ok arrival => exact Or.inr (Or.inr ⟨link, arrival, _, _, rfl, rfl⟩)

structure EndsHere (id : Int) (s after : Session) (told : List Concern) (failure : Failure) :
    Prop where
  up : s.down = false
  down : after.down = true
  attached : after.attached = false
  terminal : after.terminal = s.terminal.or (some failure)
  told : told = [.lost failure]

theorem sameEnd_or_endsHere (id : Int) (s : Session) (move : Move) :
    (SameEnd s (step s (hush move)) ∧ ∀ failure, .lost failure ∉ concerns id s (hush move)) ∨
      ∃ failure, EndsHere id s (step s (hush move)) (concerns id s (hush move)) failure := by
  by_cases turns : move = .turn
  · subst turns
    show (SameEnd s (s.next?.getD s) ∧ ∀ failure, .lost failure ∉ concerns id s .turn) ∨
      ∃ failure, EndsHere id s (s.next?.getD s) (concerns id s .turn) failure
    rcases next?_cases s with ⟨nothing, next⟩ | ⟨link, failure, up, ends, next⟩ |
      ⟨link, arrival, table, events, takes, next⟩
    · rw [next, concerns, nothing]
      exact Or.inl ⟨⟨rfl, rfl, rfl⟩, fun _ => List.not_mem_nil⟩
    · rw [next, concerns, ends, Option.getD_some]
      refine Or.inr ⟨failure.classify, up, ?_, (table_announceEnd _ _).2, ?_, rfl⟩ <;>
        · unfold Session.lose announceEnd
          dsimp only
          split <;> rfl
    · rw [next, concerns, takes]
      refine Or.inl ⟨⟨rfl, rfl, rfl⟩, fun failure told => ?_⟩
      dsimp only at told
      split at told <;> simp at told
  · refine Or.inl ⟨sameEnd_step s turns, fun failure told => turns ?_⟩
    have same := eq_turn_of_lost told
    cases move <;> first | exact same | cases same

/-- A call whose request has just been registered under an id, of which nothing has been heard
yet. -/
structure Asked (given : Session) (id : Int) (call : Call) : Prop where
  filed : given.table.Filed
  byId : call.question.code? = none
  waits : given.table.Waits id call.request (gatheredSlot [] call.question)
  up : given.down = false → given.terminal = none
  detached : given.down = true → given.attached = false

section Asked

variable {given : Session} {id : Int} {call : Call}

theorem Asked.view (asked : Asked given id call) :
    (given.table.focus id).Filed ∧
      (given.table.focus id).Waits id (given.table.rank id call.request)
      (gatheredSlot [] call.question) := by
  have carried := asked.filed.ofId _ _ asked.waits.pending
  exact ⟨Table.filed_focus asked.filed id, (asked.filed.waits_focus_iff carried).mpr asked.waits⟩

theorem Asked.result? (asked : Asked given id call) (done : List Move) :
    (run given done).result? call =
      answerOf (given.table.rank id call.request) call.question [] (story id given done) := by
  let stream : Stream := { id, request := call.request, withdrawal := none }
  have waits : given.table.Waits stream.id stream.request (gatheredSlot [] call.question) :=
    asked.waits
  obtain ⟨view, _, outcome⟩ := request?_run_of_waits asked.filed waits done
  have own : ∀ c ∈ story id given done, c.IsOf id := fun c => isOf_of_mem_story
  rw [Session.result?, ← outcome?_of_story asked.view.1 asked.byId view own]
  exact congrArg _ outcome

theorem Asked.own (asked : Asked given id call) (done : List Move) :
    (run given done).table.idOf? call.request = some id ∧
      (run given done).table.rank id call.request = given.table.rank id call.request := by
  have carried := asked.filed.ofId _ _ asked.waits.pending
  have grown := keys_run given done
  exact ⟨Table.idOf?_of_prefix grown carried,
    Table.rank_of_prefix grown (Nat.le_of_lt (Table.inside_of_idOf? carried))⟩

theorem Asked.concerns_abandon (asked : Asked given id call) (done : List Move) :
    concerns id (run given done) (.abandon call) =
      [.abandoned (given.table.rank id call.request)] := by
  obtain ⟨carried, rank⟩ := asked.own done
  rw [concerns, if_pos carried, rank]

theorem Asked.concerns_place (asked : Asked given id call) (done : List Move) {frame : Bytes}
    {failure : Failure} (refused : ((run given done).send frame).2 = .error failure) :
    concerns id (run given done) (.place call.request frame) =
      [.cancelled (given.table.rank id call.request) failure] := by
  obtain ⟨carried, rank⟩ := asked.own done
  rw [concerns, refused]
  dsimp only
  rw [if_pos carried, rank]

end Asked

namespace Inquiry

/-- The first ending that was told decides a result, or there was none and the time of the call was
up. -/
def Decides (n : Nat) (question : Question) (told : List Concern) (result : Except Failure Reply) :
    Prop :=
  answerOf n question [] told = some result ∨
    answerOf n question [] told = none ∧ result = .error .timeout

/-- The first ending decides something else, but it came when the call had polled its outcome for
the last time, and the call found the end of the connection instead, or that its time was up. -/
def Overlooks (n : Nat) (question : Question) (seen told : List Concern)
    (result : Except Failure Reply) : Prop :=
  (seen <+: told ∧ answerOf n question [] seen = none) ∧
    (∃ other, answerOf n question [] told = some other ∧ other ≠ result) ∧
    (result = .error .timeout ∨ ∃ failure, .lost failure ∈ told ∧ result = .error failure)

/-- What has been told to an id when a call is back with a result: behind all that came before, that
the call gave its request up. -/
def Returned (n : Nat) (question : Question) (seen told : List Concern)
    (result : Except Failure Reply) : Prop :=
  ∃ front back, told = front ++ .abandoned n :: back ∧
    (Decides n question front result ∨ Overlooks n question seen front result)

/-- What holds of a call between any two steps. -/
structure Sound (given : Session) (id : Int) (call : Call) (w : Inquiry) : Prop where
  session : w.session = Course.run given w.done
  /-- Why the connection has ended is kept when it goes down, and not before. -/
  up : w.session.down = false → w.session.terminal = none
  detached : w.session.down = true → w.session.attached = false
  lost : ∀ failure, .lost failure ∈ story id given w.done →
    w.session.down = true ∧ w.session.closedFailure = failure
  /-- A call that waits while the connection is down has been told of the end. -/
  ended : w.session.down = true → w.leg = .waiting →
    .lost w.session.closedFailure ∈ story id given w.done
  seen : w.seen <+: w.done
  fresh : w.leg = .registered → w.branch = .outcome
  /-- A call that does not poll its outcome next has found none. -/
  unanswered : w.leg = .waiting → w.branch ≠ .outcome →
    answerOf (given.table.rank id call.request) call.question [] (story id given w.seen) = none
  refused : ∀ failure, w.leg = .refused failure → ∃ front back,
    story id given w.done = front ++ .cancelled (given.table.rank id call.request) failure :: back
  back : ∀ result, w.leg = .back result →
    Returned (given.table.rank id call.request) call.question (story id given w.seen)
      (story id given w.done) result

variable {given : Session} {id : Int} {call : Call} {w : Inquiry}

theorem Sound.begin (asked : Asked given id call) : Sound given id call { session := given } :=
  ⟨rfl, asked.up, asked.detached, nofun, nofun, List.prefix_rfl, fun _ => rfl, nofun, nofun, nofun⟩

theorem Returned.append {n : Nat} {question : Question} {seen told : List Concern}
    {result : Except Failure Reply} (returned : Returned n question seen told result)
    (more : List Concern) : Returned n question seen (told ++ more) result := by
  obtain ⟨front, back, rfl, decides⟩ := returned
  exact ⟨front, back ++ more, by simp, decides⟩

theorem Sound.story_go (sound : w.Sound given id call) (move : Course.Move) :
    story id given (w.go move).done = story id given w.done ++ concerns id w.session move := by
  show story id given (w.done ++ [move]) = _
  rw [story_append, ← sound.session]
  exact congrArg _ (List.append_nil _)

theorem Sound.session_go (sound : w.Sound given id call) (move : Course.Move) :
    (w.go move).session = Course.run given (w.go move).done := by
  show Course.step w.session move = Course.run given (w.done ++ [move])
  rw [Course.run, List.foldl_append, sound.session]
  rfl

theorem Sound.prefix_seen (sound : w.Sound given id call) :
    story id given w.seen <+: story id given w.done := by
  obtain ⟨later, done⟩ := sound.seen
  rw [← done, story_append]
  exact List.prefix_append _ _

theorem Sound.go_end (sound : w.Sound given id call) {move : Course.Move}
    (quiet : hush move = move) :
    let after := w.go move
    (after.session.down = false → after.session.terminal = none) ∧
      (after.session.down = true → after.session.attached = false) ∧
      (∀ failure, .lost failure ∈ story id given after.done →
        after.session.down = true ∧ after.session.closedFailure = failure) ∧
      (after.session.down = true → w.leg = .waiting ∨ w.session.down = false →
        .lost after.session.closedFailure ∈ story id given after.done) := by
  intro after
  rw [sound.story_go move]
  rcases sameEnd_or_endsHere id w.session move with ⟨same, silent⟩ | ⟨failure, ends⟩
  · rw [quiet] at same silent
    have closed : after.session.closedFailure = w.session.closedFailure := by
      rw [closedFailure, show after.session.terminal = _ from same.terminal, closedFailure]
    rw [show after.session.down = _ from same.down,
      show after.session.terminal = _ from same.terminal,
      show after.session.attached = _ from same.attached, closed]
    refine ⟨sound.up, sound.detached, fun failure told => ?_, fun down waits => ?_⟩
    · exact sound.lost failure ((List.mem_append.mp told).resolve_right (silent failure))
    · refine List.mem_append_left _ (sound.ended down (waits.resolve_right fun up => ?_))
      rw [down] at up
      cases up
  · rw [quiet] at ends
    have kept : after.session.closedFailure = failure := by
      rw [closedFailure, show after.session.terminal = _ from ends.terminal, sound.up ends.up]
      rfl
    have down : after.session.down = true := ends.down
    rw [down, kept, ends.told]
    refine ⟨fun up => ?_, fun _ => ends.attached, fun other told => ⟨rfl, ?_⟩, fun _ _ => ?_⟩
    · cases up
    · rcases List.mem_append.mp told with before | now
      · have already := (sound.lost other before).1
        rw [ends.up] at already
        cases already
      · cases List.mem_singleton.mp now
        rfl
    · exact List.mem_append_right _ List.mem_cons_self

/-- Something is done to the session that leaves the call where it is, or brings it somewhere. -/
theorem Sound.go (sound : w.Sound given id call) {move : Course.Move} (quiet : hush move = move)
    {leg : Leg} (fresh : leg = .registered → w.leg = .registered)
    (placed : leg = .waiting → w.leg = .waiting ∨ w.session.down = false ∧ w.leg = .registered)
    (refused : ∀ failure, leg = .refused failure → w.leg = .refused failure ∨
      concerns id w.session move = [.cancelled (given.table.rank id call.request) failure])
    (back : ∀ result, leg = .back result → w.leg = .back result ∨
      Returned (given.table.rank id call.request) call.question (story id given w.seen)
        (story id given w.done ++ concerns id w.session move) result) :
    Sound given id call { w.go move with leg } := by
  have onward := sound.story_go move
  obtain ⟨up, detached, lost, ended⟩ := sound.go_end quiet
  refine ⟨sound.session_go move, up, detached, lost, fun down waiting => ?_,
    sound.seen.trans (List.prefix_append _ _), fun begins => sound.fresh (fresh begins),
    fun waiting later => ?_, fun failure leaves => ?_, fun result leaves => ?_⟩
  · exact ended down ((placed waiting).imp_right And.left)
  · rcases placed waiting with already | ⟨_, first⟩
    · exact sound.unanswered already later
    · exact absurd (sound.fresh first) later
  · show ∃ front back, story id given (w.go move).done = _
    rw [onward]
    rcases refused failure leaves with already | now
    · obtain ⟨front, back, told⟩ := sound.refused failure already
      exact ⟨front, back ++ concerns id w.session move, by rw [told]; simp⟩
    · exact ⟨story id given w.done, [], by rw [now]⟩
  · show Returned _ _ _ (story id given (w.go move).done) result
    rw [onward]
    rcases back result leaves with already | now
    · exact (sound.back result already).append _
    · exact now

theorem Sound.outcome_iff (sound : w.Sound given id call) (asked : Asked given id call) :
    (w.session.outcome? call.request).map (fun outcome => outcome.bind call.question.replyOf) =
      answerOf (given.table.rank id call.request) call.question [] (story id given w.done) := by
  rw [← asked.result? w.done, ← sound.session]
  rfl

theorem poll_of_ready (waiting : w.leg = .waiting) {late : Bool} {outcome : Except Failure Slot}
    (ready : w.session.polled? call.request late w.branch = some outcome) :
    w.poll call late =
      { w.go (.abandon call) with leg := .back (outcome.bind call.question.replyOf) } := by
  simp only [poll, waiting, ready]

/-- A poll that finds nothing goes on to the branch behind. -/
theorem poll_of_pending (waiting : w.leg = .waiting) {late : Bool}
    (pending : w.session.polled? call.request late w.branch = none) :
    w.poll call late =
      { w with
        branch := w.branch.next
        seen := if w.branch = .outcome then w.done else w.seen } := by
  simp only [poll, waiting, pending]

theorem poll_of_back {result : Except Failure Reply} (back : w.leg = .back result) (late : Bool) :
    w.poll call late = w := by
  simp only [poll, back]

/-- What a call that waits comes back with when it polls, in terms of what has been told. -/
theorem Sound.leg_poll (sound : w.Sound given id call) (asked : Asked given id call)
    (waiting : w.leg = .waiting) (late : Bool) (result : Except Failure Reply) :
    (w.poll call late).leg = .back result ↔
      match w.branch with
      | .outcome =>
        answerOf (given.table.rank id call.request) call.question [] (story id given w.done) =
          some result
      | .down => ∃ failure, .lost failure ∈ story id given w.done ∧ result = .error failure
      | .deadline => late = true ∧ result = .error .timeout := by
  have outcome := sound.outcome_iff asked
  have back : (w.poll call late).leg = .back result ↔
      (w.session.polled? call.request late w.branch).map
        (fun outcome => outcome.bind call.question.replyOf) = some result := by
    cases ready : w.session.polled? call.request late w.branch with
    | some outcome => simp [poll_of_ready waiting ready]
    | none => simp [poll_of_pending waiting ready, waiting]
  rw [back]
  cases w.branch with
  | outcome => exact iff_of_eq (congrArg (· = some result) outcome)
  | down =>
    dsimp only [polled?]
    constructor
    · intro ready
      split at ready
      · rename_i down
        exact ⟨_, sound.ended down waiting, (Option.some.inj ready).symm⟩
      · cases ready
    · rintro ⟨failure, told, rfl⟩
      obtain ⟨down, rfl⟩ := sound.lost failure told
      rw [if_pos down]
      rfl
  | deadline =>
    cases late with
    | false => simp [polled?]
    | true =>
      dsimp only [polled?]
      refine ⟨fun ready => ⟨rfl, (Option.some.inj ready).symm⟩, ?_⟩
      rintro ⟨-, rfl⟩
      rfl

theorem answerOf_of_lost {n : Nat} {question : Question} {told : List Concern} {failure : Failure}
    (lost : .lost failure ∈ told) : ∃ answer, answerOf n question [] told = some answer := by
  obtain ⟨front, back, rfl⟩ := List.append_of_mem lost
  rw [answerOf_append]
  cases answerOf n question [] front with
  | some answer => exact ⟨answer, rfl⟩
  | none => exact ⟨.error failure, rfl⟩

/-- A call that comes back has what the first ending decides, or has overlooked it. -/
theorem Sound.decides (sound : w.Sound given id call) (asked : Asked given id call)
    (waiting : w.leg = .waiting) {late : Bool} {result : Except Failure Reply}
    (back : (w.poll call late).leg = .back result) :
    Decides (given.table.rank id call.request) call.question (story id given w.done) result ∨
      Overlooks (given.table.rank id call.request) call.question (story id given w.seen)
        (story id given w.done) result := by
  have ready := (sound.leg_poll asked waiting late result).mp back
  have unanswered := sound.unanswered waiting
  have overlooked : w.branch ≠ .outcome →
      (∃ other, answerOf (given.table.rank id call.request) call.question []
        (story id given w.done) = some other) →
      (result = .error .timeout ∨
        ∃ failure, .lost failure ∈ story id given w.done ∧ result = .error failure) →
      Decides (given.table.rank id call.request) call.question (story id given w.done) result ∨
        Overlooks (given.table.rank id call.request) call.question (story id given w.seen)
          (story id given w.done) result := by
    rintro elsewhere ⟨other, answered⟩ why
    by_cases same : other = result
    · exact Or.inl (Or.inl (same ▸ answered))
    · exact Or.inr ⟨⟨sound.prefix_seen, unanswered elsewhere⟩, ⟨other, answered, same⟩, why⟩
  cases branch : w.branch with
  | outcome =>
    rw [branch] at ready
    exact Or.inl (Or.inl ready)
  | down =>
    rw [branch] at ready overlooked
    obtain ⟨failure, lost, rfl⟩ := ready
    exact overlooked nofun (answerOf_of_lost lost) (Or.inr ⟨failure, lost, rfl⟩)
  | deadline =>
    rw [branch] at ready overlooked
    obtain ⟨_, rfl⟩ := ready
    cases answered : answerOf (given.table.rank id call.request) call.question []
        (story id given w.done) with
    | none => exact Or.inl (Or.inr ⟨answered, rfl⟩)
    | some other => exact overlooked nofun ⟨other, answered⟩ (Or.inl rfl)

/-- A poll that finds nothing has found no answer, if it was of the outcome. -/
theorem Sound.pending (sound : w.Sound given id call) (asked : Asked given id call)
    (waiting : w.leg = .waiting) {late : Bool}
    (pending : w.session.polled? call.request late w.branch = none) :
    Sound given id call
      { w with
        branch := w.branch.next
        seen := if w.branch = .outcome then w.done else w.seen } := by
  have kept : (if w.branch = .outcome then w.done else w.seen) <+: w.done := by
    split
    · exact List.prefix_rfl
    · exact sound.seen
  refine ⟨sound.session, sound.up, sound.detached, sound.lost, sound.ended, kept, ?_, ?_,
    sound.refused, ?_⟩
  · intro begins
    cases waiting.symm.trans begins
  · intro _ _
    show answerOf _ _ _ (story id given (if w.branch = .outcome then w.done else w.seen)) = none
    split
    · rename_i first
      rw [first] at pending
      rw [← sound.outcome_iff asked, show w.session.outcome? call.request = none from pending]
      rfl
    · rename_i later
      exact sound.unanswered waiting later
  · intro result leaves
    cases waiting.symm.trans leaves

theorem Sound.poll (sound : w.Sound given id call) (asked : Asked given id call) (late : Bool) :
    (w.poll call late).Sound given id call := by
  cases waiting : w.leg with
  | waiting =>
    cases ready : w.session.polled? call.request late w.branch with
    | some outcome =>
      have told := asked.concerns_abandon w.done
      rw [← sound.session] at told
      have decides : ∀ result, (w.poll call late).leg = .back result → _ :=
        fun result => sound.decides asked waiting
      rw [poll_of_ready waiting ready] at decides ⊢
      refine sound.go rfl nofun nofun nofun fun result leaves => Or.inr ?_
      rw [told]
      exact ⟨_, [], rfl, decides result leaves⟩
    | none =>
      rw [poll_of_pending waiting ready]
      exact sound.pending asked waiting ready
  | registered | refused _ | back _ | dropped =>
    simp only [Inquiry.poll, waiting]
    exact sound

theorem Sound.step (sound : w.Sound given id call) (asked : Asked given id call) (move : Move) :
    (w.step call move).Sound given id call := by
  cases move with
  | session move =>
    have quiet : hush (hush move) = hush move := by cases move <;> rfl
    exact sound.go quiet (fun same => same) Or.inl (fun _ => Or.inl) fun _ => Or.inl
  | place frame =>
    simp only [Inquiry.step]
    split
    · rename_i registered
      cases sent : (w.session.send frame).2 with
      | ok _ =>
        refine sound.go rfl nofun (fun _ => Or.inr ⟨?_, registered⟩) nofun nofun
        -- on a connection that is down nothing is sent
        by_contra up
        have down := eq_true_of_ne_false up
        rw [Race.send_detached (sound.detached down)] at sent
        cases sent
      | error failure =>
        refine sound.go rfl nofun nofun (fun other leaves => Or.inr ?_) nofun
        cases leaves
        rw [sound.session] at sent ⊢
        exact asked.concerns_place w.done sent
    · exact sound
  | look => exact sound.poll asked false
  | expire => exact sound.poll asked true
  | drop =>
    simp only [Inquiry.step]
    split
    · exact sound.go rfl nofun nofun nofun nofun
    · exact sound

theorem Sound.run (sound : w.Sound given id call) (asked : Asked given id call)
    (moves : List Move) :
    (w.run call moves).Sound given id call := by
  induction moves generalizing w with
  | nil => exact sound
  | cons move rest ih => exact ih (sound.step asked move)

theorem poll_cases (waiting : w.leg = .waiting) (late : Bool) :
    (∃ result, (w.poll call late).leg = .back result) ∨
      (w.poll call late).leg = .waiting ∧ (w.poll call late).branch = w.branch.next ∧
        (w.poll call late).done = w.done := by
  cases ready : w.session.polled? call.request late w.branch with
  | some outcome => exact Or.inl ⟨_, by rw [poll_of_ready waiting ready]⟩
  | none =>
    rw [poll_of_pending waiting ready]
    exact Or.inr ⟨waiting, rfl, rfl⟩

theorem Sound.back_of_looks (sound : w.Sound given id call) (asked : Asked given id call)
    (waiting : w.leg = .waiting)
    (answered : (answerOf (given.table.rank id call.request) call.question []
      (story id given w.done)).isSome = true) :
    ∃ result, (w.run call [.look, .look, .look]).leg = .back result := by
  obtain ⟨answer, answered⟩ := Option.isSome_iff_exists.mp answered
  have first : ∀ v : Inquiry, v.Sound given id call → v.leg = .waiting → v.branch = .outcome →
      v.done = w.done → ∃ result, (v.poll call false).leg = .back result := by
    intro v sound waiting branch same
    refine ⟨answer, (sound.leg_poll asked waiting false answer).mpr ?_⟩
    rw [branch, same]
    exact answered
  have stays : ∀ v : Inquiry, (∃ result, v.leg = .back result) →
      ∃ result, (v.poll call false).leg = .back result := by
    rintro v ⟨result, back⟩
    exact ⟨result, by rw [poll_of_back back, back]⟩
  show ∃ result, (((w.poll call false).poll call false).poll call false).leg = .back result
  rcases poll_cases waiting false with back | ⟨waits, branch, done⟩
  · exact stays _ (stays _ back)
  rcases poll_cases waits false with back | ⟨waits', branch', done'⟩
  · exact stays _ back
  have sound' := (sound.poll asked false).poll asked false
  cases start : w.branch with
  | outcome =>
    -- the first poll has found the outcome
    obtain ⟨result, back⟩ := first w sound waiting start rfl
    rw [waits] at back
    cases back
  | down =>
    refine first _ sound' waits' ?_ (done'.trans done)
    rw [branch', branch, start]
    rfl
  | deadline =>
    obtain ⟨result, back⟩ :=
      first _ (sound.poll asked false) waits (by rw [branch, start]; rfl) done
    rw [waits'] at back
    cases back

end Inquiry

/-- A session that has just been opened is up, and only the loop changes that. -/
theorem up_run (s : Session) (up : s.down = false → s.terminal = none)
    (detached : s.down = true → s.attached = false) (moves : List Move) :
    let after := run s (moves.map hush)
    (after.down = false → after.terminal = none) ∧
      (after.down = true → after.attached = false) := by
  induction moves generalizing s with
  | nil => exact ⟨up, detached⟩
  | cons move rest ih =>
    refine ih (step s (hush move)) ?_ ?_
    · rcases sameEnd_or_endsHere 0 s move with ⟨same, _⟩ | ⟨failure, ends⟩
      · rw [same.down, same.terminal]
        exact up
      · rw [ends.down]
        exact nofun
    · rcases sameEnd_or_endsHere 0 s move with ⟨same, _⟩ | ⟨failure, ends⟩
      · rw [same.down, same.attached]
        exact detached
      · exact fun _ => ends.attached

/-- A call for details or bars, from the registration of its request under a free id on, whatever
else goes on in the session. The first concern of its id that ends the request decides its outcome,
and no other: the end of the details gives all details that came under the id since the
registration, in order; bars give themselves; a notice, a message of another kind, the end of the
connection or whoever gives the request up give their failures. A call that polls its outcome finds
this, one that polls the end of the connection finds that if it has come, and one whose time is up a
timeout; once its request has ended it is back when it has polled all three. So it comes back with
what the first ending decides, or with a timeout if there is none, unless that ending came when it
had polled its outcome for the last time and it has found the end of the connection, or that its
time is up, instead. A call whose frame is refused comes back with the refusal. Behind the first
ending no message under the id changes anything, unless a request is registered under it again. -/
theorem first_ending_decides (settings : Settings) (clientId offset : Int) (link : Link)
    (version : Int) (timeText : String) (firstId : Int) (before : List Move) (question : Question)
    (byId : question.code? = none) (id : Int)
    (free : (run (ofReady settings clientId offset link version timeText firstId)
      (before.map hush)).table.pendingId? id = none) (moves : List Inquiry.Move) :
    let s := run (ofReady settings clientId offset link version timeText firstId) (before.map hush)
    let given := step s (.enroll (.withId id) question.slot false)
    let call : Call := ⟨question, s.table.requests.length, question.withdrawal? (.withId id)⟩
    let w := Inquiry.run call { session := given } moves
    let n := given.table.rank id call.request
    let told := story id given w.done
    w.session.result? call = answerOf n question [] told ∧
    (∀ result, answerOf n question [] told = some result ↔
      ∃ front c back, told = front ++ c :: back ∧ answerOf n question [] front = none ∧
        c.answer? n question (front.filterMap Concern.details?) = some result) ∧
    (w.leg = .waiting →
      (∀ late result, (w.poll call late).leg = .back result ↔
        match w.branch with
        | .outcome => answerOf n question [] told = some result
        | .down => ∃ failure, .lost failure ∈ told ∧ result = .error failure
        | .deadline => late = true ∧ result = .error .timeout) ∧
      ((answerOf n question [] told).isSome = true →
        ∃ result, (w.run call [.look, .look, .look]).leg = .back result)) ∧
    (∀ result, w.leg = .back result →
      ∃ front back, told = front ++ .abandoned n :: back ∧
        (Inquiry.Decides n question front result ∨
          Inquiry.Overlooks n question (story id given w.seen) front result)) ∧
    (∀ failure, w.leg = .refused failure →
      ∃ front back, told = front ++ .cancelled n failure :: back) ∧
    ∀ front c back, told = front ++ c :: back → answerOf n question [] front = none →
      (c.answer? n question (front.filterMap Concern.details?)).isSome = true →
      (∀ request, .enrolled request ∉ back) →
      ∀ arrival : Arrival, arrival.id? = some id →
        ((destination arrival).deliver w.session.table).1 = w.session.table := by
  intro s given call w n told
  have carries : (Key.withId id).id? = some id := rfl
  have filed : s.table.Filed :=
    filed_run (filed_opened (ofReady settings clientId offset link version timeText firstId)
    firstId) _
  have waits : given.table.Waits id call.request question.slot :=
    Table.waits_enroll carries free question.slot false
  obtain ⟨up, detached⟩ := up_run (ofReady settings clientId offset link version timeText firstId)
    (fun _ => rfl) nofun before
  have asked : Asked given id call := by
    refine ⟨filed.enroll _, byId, ?_, up, detached⟩
    cases question with
    | contractDetails _ | historicalBars _ _ => exact waits
    | currentTime | managedAccounts | nextValidId => cases byId
  have sound : w.Sound given id call := (Inquiry.Sound.begin asked).run asked moves
  have result := asked.result? w.done
  rw [← sound.session] at result
  refine ⟨result, fun _ => answerOf_eq_some_iff, fun waiting => ?_, sound.back, sound.refused, ?_⟩
  · exact ⟨sound.leg_poll asked waiting, sound.back_of_looks asked waiting⟩
  · intro front c back parts unanswered answers nobody arrival own
    have ofId : ∀ d ∈ front ++ c :: back, d.IsOf id := parts ▸ fun d => isOf_of_mem_story
    have out := free_of_story asked.view.1 byId asked.view.2 ofId unanswered answers nobody
    rw [← parts] at out
    have seen : w.session.table.focus id = told.foldl Concern.act (given.table.focus id) := by
      rw [sound.session]
      exact focus_run asked.filed id w.done
    rw [← seen] at out
    have gone := Table.isSome_pendingId?_focus w.session.table id
    rw [out] at gone
    exact deliver_of_free (by simpa using gone.symm) own

/-- The payload of details of a contract with this symbol, of which nothing else is known. -/
def detailsPayload (id symbol : UInt8) : Bytes :=
  [49, 48, 0, 56, 0, id, 0, symbol, 0] ++ List.replicate 16 0

/-- Details for a call under id 1 come among others: the first ones, some that go astray under id 2,
and the second ones; then the call polls too early, the end of its details comes, it polls again,
and one more message under its id comes behind the end. -/
def amongOthers : List Inquiry.Move :=
  [.session (.enroll (.withId 2) (.historicalBars none) false), .place [],
    .session (delivery (detailsPayload 49 65)), .session .turn,
    .session (delivery (detailsPayload 50 66)), .session .turn,
    .session (delivery (detailsPayload 49 67)), .session .turn, .look,
    .look, .look, .session (delivery [53, 50, 0, 49, 0, 49, 0]), .session .turn, .look,
    .session (delivery (detailsPayload 49 68)), .session .turn]

theorem details_are_gathered_among_others :
    let s := run (ofReady {} 7 0 {} 176 "" 1) ([].map hush)
    let given := step s (.enroll (.withId 1) (.contractDetails []) false)
    let call : Call := ⟨.contractDetails {}, 0, none⟩
    let w := Inquiry.run call { session := given } amongOthers
    let details : List ContractDetails :=
      [{ contract := { symbol := "A" } }, { contract := { symbol := "C" } }]
    (call.question.code? = none ∧ s.table.pendingId? 1 = none) ∧
      w.leg = .back (.ok (.details details)) ∧
      w.session.result? call = some (.ok (.details details)) ∧
      w.session.result? ⟨.historicalBars {} {}, 1, none⟩ =
        some (.error (.internal "contract data reply routed to a historical bars request")) ∧
      ∀ arrival : Arrival, arrival.id? = some 1 →
        ((destination arrival).deliver w.session.table).1 = w.session.table := by
  intro s given call w details
  obtain ⟨result, first, _, _, _, behind⟩ :=
    first_ending_decides {} 7 0 {} 176 "" 1 [] (.contractDetails {}) rfl 1 rfl amongOthers
  let front : List Concern := details.map fun d => .arrived (.contractDetails 1 d)
  have told : story 1 given w.done = front ++ .arrived (.contractDetailsEnd 1) ::
      [.abandoned 0, .arrived (.contractDetails 1 { contract := { symbol := "D" } })] := by cbv
  have answered : answerOf 0 (.contractDetails {}) [] (story 1 given w.done) =
      some (.ok (.details details)) :=
    (first _).mpr ⟨front, _, _, told, rfl, rfl⟩
  refine ⟨⟨rfl, rfl⟩, by cbv, result.trans answered, by cbv, ?_⟩
  refine behind front _ _ told rfl rfl fun request member => ?_
  simp at member

def barsPayload (id : UInt8) : Bytes := [49, 55, 0, id, 0, 0, 0, 48, 0]

/-- Bars come between two polls, and a reset behind them; the call finds the end of the
connection. -/
theorem bars_are_overlooked_for_the_end :
    let s := ofReady {} 7 0 {} 176 "" 1
    let given := step s (.enroll (.withId 1) (.historicalBars none) false)
    let call : Call := ⟨.historicalBars {} {}, 0, none⟩
    let w := Inquiry.run call { session := given }
      [.place [], .look, .session (delivery (barsPayload 49)), .session .turn,
        .session
          (.around fun s => { s with link := s.link.receiveFault (.ofKind .connectionReset) }),
        .session .turn, .look]
    w.leg = .back (.error .closed) ∧ w.session.result? call = some (.ok (.bars [])) ∧
      story 1 given w.done =
        [.arrived (.historicalBars 1 []), .lost .closed, .abandoned 0] := by
  cbv

end Course

end MarketLink.Session
