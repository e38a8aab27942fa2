import MarketLink.Proofs.Session.Course
import MarketLink.Proofs.Session.Rest
import MarketLink.Proofs.Session.Kept

set_option autoImplicit false

namespace MarketLink.Session

open Correlation Time Wire

namespace Race

theorem send_detached {s : Session} (detached : s.attached = false) (frame : Bytes) :
    s.send frame = (s, .error s.closedFailure) := by
  rw [Session.send, detached]
  rfl

theorem Sound.ask {w : Race} (sound : w.Sound) (key : Key) (slot : Slot) (streaming : Bool)
    (frame : Bytes) (withdrawal : Option Bytes) :
    (w.step (.ask key slot streaming frame withdrawal)).Sound := by
  have length : (w.step (.ask key slot streaming frame withdrawal)).session.table.requests.length =
      w.session.table.requests.length + 1 := by simp [step, Table.create]
  refine ⟨sound.filed.create _, ?_, ?_, ?_, sound.promised, sound.detached, ?_⟩
  · rw [length, ← sound.numbered, step, List.length_append, List.length_singleton]
  · intro n member
    rw [length]
    exact Nat.lt_succ_of_lt (sound.created n member)
  · intro n subject
    rw [length]
    exact Nat.lt_succ_of_lt (sound.subjects n subject)
  · intro n c there
    rcases getElem?_append_singleton_cases there with old | ⟨last, rfl⟩
    · exact (sound.safe n c old).congr (Table.outcome?_create w.session.table rfl n) Iff.rfl
    · intro pending
      have inside := sound.created n pending
      rw [last, sound.numbered] at inside
      exact Nat.lt_irrefl _ inside

section Turn

variable {c : Caller} {s : Session} {n : Nat} {failure : Failure}

theorem Caller.turn_of_accepted (fresh : c.stance = .fresh)
    (accepted : (s.table.register n).2 = .ok ()) : (c.turn s n).2 = .registered := by
  unfold Caller.turn Session.register
  rw [fresh]
  revert accepted
  rcases s.table.register n with ⟨table, failure | ⟨⟩⟩
  · exact nofun
  · exact fun _ => rfl

theorem Caller.turn_of_refused (fresh : c.stance = .fresh)
    (refused : (s.table.register n).2 = .error failure) : (c.turn s n).2 = .refused := by
  unfold Caller.turn Session.register
  rw [fresh]
  revert refused
  rcases s.table.register n with ⟨table, failure | ⟨⟩⟩
  · exact fun _ => rfl
  · exact nofun

theorem Caller.turn_of_sent (registered : c.stance = .registered)
    (sent : (s.send c.frame).2 = .ok ()) : (c.turn s n).2 = .waiting := by
  unfold Caller.turn
  rw [registered]
  revert sent
  rcases s.send c.frame with ⟨s, failure | ⟨⟩⟩
  · exact nofun
  · exact fun _ => rfl

theorem Caller.turn_of_unsent (registered : c.stance = .registered)
    (unsent : (s.send c.frame).2 = .error failure) : (c.turn s n).2 = .leaving failure none := by
  unfold Caller.turn
  rw [registered]
  revert unsent
  rcases s.send c.frame with ⟨s, failure | ⟨⟩⟩
  · exact fun same => congrArg (Stance.leaving · none) (Except.error.inj same)
  · exact nofun

end Turn

/-- A caller registers its request: it is pending from now on, or it is refused. -/
theorem Sound.turn_fresh {w : Race} (sound : w.Sound) {n : Nat} {c : Caller}
    (there : w.callers[n]? = some c) (fresh : c.stance = .fresh) :
    (w.place n c (c.turn w.session n).1 (c.turn w.session n).2).Sound := by
  have absent : n ∉ w.session.table.pending := by
    have safe := sound.safe n c there
    rw [fresh] at safe
    exact safe
  have inside := sound.inside there
  have requests := w.session.table.requests_register n
  have outcomes := Table.outcome?_of_requests requests
  have turned : (c.turn w.session n).1 =
      { w.session with table := (w.session.table.register n).1 } := by
    unfold Caller.turn Session.register
    rw [fresh]
    rcases w.session.table.register n with ⟨table, failure | _⟩ <;> rfl
  rw [turned]
  refine sound.of_caller there (sound.filed.register absent) (congrArg List.length requests)
    (fun m _ => outcomes m) (fun m other => sound.filed.mem_pending_register_of_ne absent other)
    rfl ?_
  rcases sound.filed.register_result inside absent with ⟨accepted, pending⟩ | ⟨⟨_, refused⟩, same⟩
  · rw [Caller.turn_of_accepted fresh accepted]
    exact Or.inr (Or.inl pending)
  · rw [Caller.turn_of_refused fresh refused]
    show n ∉ (w.session.table.register n).1.pending
    rw [same]
    exact absent

/-- A caller sends its frame. Once the table has been emptied there is no link to send on, so a
caller whose frame is queued is not in the table then. -/
theorem Sound.turn_registered {w : Race} (sound : w.Sound) {n : Nat} {c : Caller}
    (there : w.callers[n]? = some c) (registered : c.stance = .registered) :
    (w.place n c (c.turn w.session n).1 (c.turn w.session n).2).Sound := by
  have kept : Kept w.session.table w.loop.owed n := by
    have safe := sound.safe n c there
    rw [registered] at safe
    exact safe
  have turned : (c.turn w.session n).1 = (w.session.send c.frame).1 := by
    unfold Caller.turn
    rw [registered]
    rcases w.session.send c.frame with ⟨s, failure | _⟩ <;> rfl
  have same := table_send w.session c.frame
  rw [turned]
  refine sound.of_caller there (by rw [same]; exact sound.filed) (by rw [same])
    (fun m _ => by rw [same]) (fun m _ => by rw [same]) (attached_send w.session c.frame) ?_
  rw [same]
  cases sent : (w.session.send c.frame).2 with
  | error failure =>
    rw [Caller.turn_of_unsent registered sent]
    exact trivial
  | ok _ =>
    rw [Caller.turn_of_sent registered sent]
    refine ⟨kept, fun swept => ?_⟩
    have gone := sound.detached (Loop.isDetached_of_isSwept swept)
    rw [send_detached gone] at sent
    cases sent

theorem Sound.turn_leaving {w : Race} (sound : w.Sound) {n : Nat} {c : Caller}
    (there : w.callers[n]? = some c) {failure : Failure} {note : Option Bytes}
    (leaving : c.stance = .leaving failure note) :
    (w.place n c (c.turn w.session n).1 (c.turn w.session n).2).Sound := by
  have out := sound.filed.without_unregister n
  have gone := out.mem_pending sound.filed.toRows
  rw [Caller.turn, leaving]
  refine sound.of_caller there (out.filed sound.filed) (congrArg List.length out.requests)
    (fun m _ => Table.outcome?_of_requests out.requests m) ?_ rfl ?_
  · intro m other
    rw [gone]
    exact ⟨fun both => both.1, fun member => ⟨member, other⟩⟩
  · intro _ member
    exact ((gone n).mp member).2 rfl

theorem Sound.turn_ending {w : Race} (sound : w.Sound) {n : Nat} {c : Caller}
    (there : w.callers[n]? = some c) {failure : Failure} {note : Option Bytes}
    (ending : c.stance = .ending failure note) :
    (w.place n c (c.turn w.session n).1 (c.turn w.session n).2).Sound := by
  have out : w.loop.isSwept = true → n ∉ w.session.table.pending := by
    have safe := sound.safe n c there
    rw [ending] at safe
    exact safe
  have inside := sound.inside there
  have pending := w.session.table.pending_complete n (some failure)
  rw [Caller.turn, ending]
  refine sound.of_caller there (sound.filed.complete n _) (w.session.table.length_complete n _)
    (fun m other => w.session.table.outcome?_complete_of_ne other.symm _)
    (fun m _ => by rw [pending]) rfl ?_
  refine ⟨Table.ended_complete inside _, ?_⟩
  intro swept
  rw [pending]
  exact out swept

theorem Sound.of_stance {w : Race} (sound : w.Sound) {n : Nat} {c : Caller}
    (there : w.callers[n]? = some c) {session : Session} {stance : Stance}
    (same : session.table = w.session.table) (attached : session.attached = w.session.attached)
    (safe : stance.Safe w.session.table w.loop.owed w.loop.isSwept n) :
    (w.place n c session stance).Sound := by
  refine sound.of_caller there ?_ ?_ ?_ ?_ attached ?_
  · rw [same]
    exact sound.filed
  · rw [same]
  · intro m _
    rw [same]
  · intro m _
    rw [same]
  · rw [same]
    exact safe

theorem Sound.turn {w : Race} (sound : w.Sound) (n : Nat) : (w.step (.turn n)).Sound := by
  unfold step
  dsimp only
  split
  · rename_i c there
    have safe := sound.safe n c there
    cases stance : c.stance with
    | fresh => exact sound.turn_fresh there stance
    | registered => exact sound.turn_registered there stance
    | leaving failure note => exact sound.turn_leaving there stance
    | ending failure note => exact sound.turn_ending there stance
    | telling note =>
      rw [Caller.turn, stance]
      refine sound.of_stance there (table_withdraw w.session note)
        (attached_withdraw w.session note) ?_
      rw [stance] at safe
      exact safe
    | refused | waiting | gone =>
      rw [Caller.turn, stance]
      refine sound.of_stance there rfl rfl ?_
      rw [stance] at safe
      exact safe
  · exact sound

/-- A caller that gives up has its request completed already, or is going to complete it. -/
theorem Sound.giveUp {w : Race} (sound : w.Sound) (n : Nat) : (w.step (.giveUp n)).Sound := by
  unfold step
  dsimp only
  split
  · rename_i c there
    have safe := sound.safe n c there
    refine sound.of_stance there rfl rfl ?_
    unfold Caller.giveUp
    split
    · rename_i r waiting found
      rw [waiting] at safe
      split
      · rename_i finished
        rw [Bool.and_eq_true] at finished
        have ended : (w.session.table.outcome? n).isSome = true := by
          rw [Table.outcome?, found]
          exact finished.1
        exact ⟨ended, safe.2⟩
      · cases r.key with
        | withoutId _ _ => exact safe.2
        | withId _ | ticker _ => exact trivial
    · exact safe
  · exact sound

/-- The loop turns to something that owes nothing to anybody yet. -/
theorem Sound.begin {w : Race} (sound : w.Sound) (loop : Loop) (idle : w.loop = .serving .idle)
    (endings : loop.task.endings = []) (subjects : loop.task.subjects = [])
    (resting : loop.task.leaving? = none) (attached : loop.isDetached = false) :
    Sound { w with loop } := by
  refine sound.of_loop loop sound.filed rfl (fun _ member => member) (fun _ ended => ended) ?_ ?_ ?_
    ?_ ?_
  · intro n kept
    have owed : loop.owed = w.loop.owed := by
      rw [Loop.owed, endings, idle]
      rfl
    rw [owed]
    exact kept
  · rw [subjects]
    intro n member
    cases member
  · rw [resting]
    intro n leaving
    cases leaving
  · intro detached
    rw [attached] at detached
    cases detached
  · intro swept
    rw [Loop.isDetached_of_isSwept swept] at attached
    cases attached

theorem Sound.receive {w : Race} (sound : w.Sound) (destination : Destination) :
    (w.step (.receive destination)).Sound := by
  unfold step
  dsimp only
  split
  · rename_i idle
    refine sound.begin (.serving destination.task) idle ?_ ?_ ?_ rfl <;>
      cases destination <;> rfl
  · exact sound

theorem Sound.lose {w : Race} (sound : w.Sound) (failure : Failure) :
    (w.step (.lose failure)).Sound := by
  unfold step
  dsimp only
  split
  · rename_i idle
    exact sound.begin (.noting failure.classify) idle rfl rfl rfl rfl
  · exact sound

/-- The loop goes on: with a message, or with the end of the connection. -/
theorem Sound.proceed {w : Race} (sound : w.Sound) : (w.step .proceed).Sound := by
  obtain ⟨session, callers, loop⟩ := w
  rw [step]
  cases loop with
  | serving task =>
    exact sound.work (.serving (Loop.work session task).2) rfl (fun now => now) Or.inl
  | noting failure | signalling failure =>
    refine sound.of_same_table _ rfl rfl ?_ ?_ <;>
      · intro now
        cases now
  | detaching failure =>
    refine sound.of_same_table (.closing failure) rfl rfl (fun _ => rfl) ?_
    intro now
    cases now
  | closing failure =>
    refine sound.of_loop (.clearing failure) sound.filed rfl (fun _ member => member)
      (fun _ ended => ended) (fun _ kept => kept) ?_ ?_ (fun _ => sound.detached rfl) ?_
    · intro n member
      cases member
    · intro n leaving
      cases leaving
    · intro now
      cases now
  | clearing failure =>
    refine sound.work (.failing failure (Loop.work session (.clear failure)).2) rfl
      (fun _ => rfl) ?_
    exact fun _ => Or.inr session.table.pending_takeAll
  | failing failure task =>
    simp only [Loop.turn]
    split
    · rename_i finished
      cases Task.eq_idle_of_isIdle finished
      obtain ⟨same, attached⟩ := table_announceEnd session failure
      exact sound.of_same_table .lost same rfl
        (fun _ => attached.trans (sound.detached rfl)) (fun _ => rfl)
    · exact sound.work (.failing failure (Loop.work session task).2) rfl (fun _ => rfl)
        fun _ => Or.inl rfl
  | lost => exact sound

theorem Sound.step {w : Race} (sound : w.Sound) (move : Move) : (w.step move).Sound := by
  cases move with
  | ask key slot streaming frame withdrawal => exact sound.ask key slot streaming frame withdrawal
  | turn n => exact sound.turn n
  | giveUp n => exact sound.giveUp n
  | receive destination => exact sound.receive destination
  | proceed => exact sound.proceed
  | lose failure => exact sound.lose failure
  | transport _ => exact sound.of_same_table w.loop rfl rfl sound.detached fun now => now
  | close => exact sound.of_same_table w.loop rfl rfl sound.detached fun now => now

theorem Sound.run {w : Race} (sound : w.Sound) (moves : List Move) : (w.run moves).Sound := by
  induction moves generalizing w with
  | nil => exact sound
  | cons move rest ih => exact ih (sound.step move)

/-- Behind the end of the connection, a registered request whose caller is at rest has ended and is
not in the table. -/
theorem Sound.ended_of_lost {w : Race} (sound : w.Sound) (lost : w.loop = .lost) {n : Nat}
    {c : Caller} (there : w.callers[n]? = some c) (registered : c.isRegistered = true)
    (resting : c.isAtRest = true) :
    (w.session.table.outcome? n).isSome = true ∧ n ∉ w.session.table.pending := by
  have safe := sound.safe n c there
  have swept : w.loop.isSwept = true := by rw [lost]; rfl
  unfold Caller.isRegistered at registered
  unfold Caller.isAtRest at resting
  cases stance : c.stance with
  | fresh | refused =>
    rw [stance] at registered
    cases registered
  | registered | leaving _ _ | ending _ _ | telling _ =>
    rw [stance] at resting
    cases resting
  | waiting =>
    rw [stance] at safe
    obtain ⟨ended | pending | owed, out⟩ := safe
    · exact ⟨ended, out swept⟩
    · exact absurd pending (out swept)
    · rw [lost] at owed
      cases owed
  | gone =>
    rw [stance] at safe
    exact ⟨safe.1, safe.2 swept⟩

/-- Behind the end of the connection, a table whose callers are all at rest is empty. -/
theorem Sound.empty_of_lost {w : Race} (sound : w.Sound) (lost : w.loop = .lost)
    (resting : ∀ c ∈ w.callers, c.isAtRest = true) :
    w.session.table.byId = [] ∧ w.session.table.byCode = [] := by
  have nobody : w.session.table.pending = [] := by
    apply List.eq_nil_iff_forall_not_mem.mpr
    intro n pending
    have inside : n < w.callers.length := by
      rw [sound.numbered]
      exact sound.created n pending
    have there : w.callers[n]? = some w.callers[n] := List.getElem?_eq_getElem inside
    cases registered : w.callers[n].isRegistered with
    | true =>
      exact (sound.ended_of_lost lost there registered (resting _ (List.getElem_mem inside))).2
        pending
    | false =>
      have safe := sound.safe n _ there
      unfold Caller.isRegistered at registered
      split at registered
      · rename_i stance
        rw [stance] at safe
        exact safe pending
      · rename_i stance
        rw [stance] at safe
        exact safe pending
      all_goals cases registered
  exact sound.filed.empty_of_pending nobody

/-- However the steps of the callers and of the loop come, the end of a connection can be brought to
its end with all callers at rest, and then every registered request has ended and is in neither
table. -/
theorem connection_loss_strands_no_request (s : Session) (firstId : Int) (moves : List Move) :
    let w := run (opened s firstId) moves
    (∃ more, (w.run more).loop = .lost ∧ ∀ c ∈ (w.run more).callers, c.isAtRest = true) ∧
    (w.loop = .lost →
      (∀ n c, w.callers[n]? = some c → c.isRegistered = true → c.isAtRest = true →
        (w.session.table.outcome? n).isSome = true ∧
          n ∉ w.session.table.byId.map Prod.snd ∧
          n ∉ w.session.table.byCode.flatMap Prod.snd) ∧
      ((∀ c ∈ w.callers, c.isAtRest = true) →
        w.session.table.byId = [] ∧ w.session.table.byCode = [])) := by
  intro w
  have sound : w.Sound := (sound_opened s firstId).run moves
  refine ⟨w.exists_finish, fun lost => ⟨?_, ?_⟩⟩
  · intro n c there registered resting
    obtain ⟨ended, out⟩ := sound.ended_of_lost lost there registered resting
    rw [Table.pending, List.mem_append, not_or] at out
    exact ⟨ended, out⟩
  · intro resting
    exact sound.empty_of_lost lost resting

/-- One caller waits when the connection ends. Another one registers its request when the table has
been emptied already, finds no link, and takes its request back. -/
theorem late_caller_takes_its_request_back :
    let w := run (opened (ofReady {} 7 0 {} 176 "" 1) 1)
      [.ask (.withId 1) (.historicalBars none) false [1] none, .turn 0, .turn 0,
        .ask (.withoutId 49 1) (.currentTime none) false [2] none,
        .lose .closed, .proceed, .proceed, .proceed, .proceed, .proceed,
        .turn 1, .proceed, .turn 1, .proceed, .turn 1, .turn 1, .turn 1]
    w.loop = .lost ∧ w.callers.map Caller.isRegistered = [true, true] ∧
      w.callers.all Caller.isAtRest = true ∧ (w.session.table.outcome? 1).isSome = true ∧
      w.session.table.byId = [] ∧ w.session.table.byCode = [] := by
  intro w
  have lost : w.loop = .lost := rfl
  have resting : w.callers.all Caller.isAtRest = true := rfl
  obtain ⟨ended, empty⟩ :=
    (connection_loss_strands_no_request (ofReady {} 7 0 {} 176 "" 1) 1 _).2 lost
  exact ⟨lost, rfl, resting, (ended 1 _ rfl rfl rfl).1, empty (List.all_eq_true.mp resting)⟩

end Race

end MarketLink.Session
