import MarketLink.Proofs.Session.Ending

set_option autoImplicit false

namespace MarketLink.Session

open Correlation Time Wire

theorem Branch.next_ne (branch : Branch) : branch.next ≠ branch := by
  cases branch <;> exact Branch.noConfusion

theorem Loop.EndsWith.down_of_lost {failure : Failure} {s : Session} {loop : Loop}
    (ends : loop.EndsWith failure s) (lost : loop = .lost) : s.down = true := by
  rw [lost] at ends
  exact ends.2

namespace Crowd

variable {w : Crowd} {failure : Failure} {n : Nat}

/-- Callers, the loop and calls that look for something go on by themselves. -/
def Move.isOwn : Move → Bool
  | .act (.turn _) | .act .proceed | .look _ => true
  | _ => false

/-- What goes on by itself cuts nobody short who waits. -/
theorem patient_of_own {moves : List Move} (own : ∀ move ∈ moves, move.isOwn = true) :
    Patient n w moves := by
  induction moves generalizing w with
  | nil => exact trivial
  | cons move rest ih =>
    have first := own move List.mem_cons_self
    refine ⟨?_, ?_, ih fun later member => own later (List.mem_cons_of_mem move member)⟩
    · rintro rfl
      cases first
    · rintro rfl
      cases first

/-- Nothing goes on by itself. -/
def Quiet (w : Crowd) : Prop := ∀ move : Move, move.isOwn = true → w.step move = w

theorem Quiet.lost (quiet : w.Quiet) (ends : w.race.loop.EndsWith failure w.race.session) :
    w.race.loop = .lost := by
  have same : (w.race.loop.turn w.race.session).2 = w.race.loop :=
    congrArg (fun crowd => crowd.race.loop) (quiet (.act .proceed) rfl)
  cases loop : w.race.loop with
  | serving _ =>
    rw [loop] at ends
    exact ends.elim
  | noting _ | signalling _ | detaching _ | closing _ | clearing _ =>
    rw [loop] at same
    cases same
  | failing own task =>
    rw [loop] at ends same
    obtain ⟨_, endings, rfl, _⟩ := ends
    cases endings with
    | nil => cases same
    | cons ending rest =>
      have shorter : rest = ending :: rest := Task.settle.inj (Loop.failing.inj same).2
      exact absurd (congrArg List.length shorter) (Nat.ne_of_lt (Nat.lt_succ_self _))
  | lost => rfl

theorem Quiet.isAtRest (quiet : w.Quiet) {c : Caller} (there : w.race.callers[n]? = some c) :
    c.isAtRest = true := by
  have same := congrArg (fun crowd => crowd.race.callers[n]?) (quiet (.act (.turn n)) rfl)
  have turned : (w.race.step (.turn n)).callers[n]? =
      some { c with stance := (c.turn w.race.session n).2 } := by
    unfold Race.step
    dsimp only
    rw [there]
    dsimp only
    rw [Race.callers_place there, if_pos rfl]
  have stays : (c.turn w.race.session n).2 = c.stance :=
    congrArg Caller.stance (Option.some.inj (turned.symm.trans (same.trans there)))
  have fewer := c.stepsLeft_turn w.race.session n
  rw [stays] at fewer
  exact c.isAtRest_of_stepsLeft (by omega)

/-- A call that waits polls its branches over and over, so only streams are waited for. -/
theorem Quiet.streaming_of_awaited (quiet : w.Quiet) {r : Request}
    (awaited : w.race.awaited? n = some r) : r.streaming = true := by
  by_contra single
  rw [Bool.not_eq_true] at single
  have same : w.poll n false = w := quiet (.look n) rfl
  cases ready : w.race.session.polled? n false (w.branch n) with
  | some result =>
    rw [poll_of_ready awaited single ready] at same
    have longer := congrArg (fun crowd => crowd.told.length) same
    rw [List.length_append] at longer
    exact Nat.succ_ne_self _ longer
  | none =>
    rw [poll_of_pending awaited single ready] at same
    have stays := congrFun (congrArg branch same) n
    exact (w.branch n).next_ne
      ((Function.update_self n (w.branch n).next w.branch).symm.trans stays)

/-- Whoever went on waiting until nothing goes on any more has got what it expects: a call has come
back with it, and a stream has been completed with it. -/
theorem Quiet.expected (quiet : w.Quiet) (sound : w.Sound)
    (ends : w.race.loop.EndsWith failure w.race.session) {r : Request} {midway : Prop}
    (expects : w.Expects failure n r midway) :
    if r.streaming then w.race.session.table.request? n = some (r.complete (some failure)).1
    else ∃ result, w.told.lookup n = some result ∧
      (r.outcome = some result ∨ result = .error failure ∧ (midway ∨ r.outcome = none)) := by
  have lost := quiet.lost ends
  rcases expects with ⟨other, awaited, same, _⟩ | ⟨single, told⟩
  · have streaming := quiet.streaming_of_awaited awaited
    obtain ⟨c, there, waiting, found⟩ := Race.awaited?_eq_some_iff.mp awaited
    rcases same with rfl | rfl
    · have registered : c.isRegistered = true := by rw [Caller.isRegistered, waiting]
      have ended := (sound.race.ended_of_lost lost there registered (quiet.isAtRest there)).1
      rw [if_pos streaming, other.complete_of_isDone _ (Table.isDone_of_outcome? found ended),
        found]
    · rw [Request.streaming_complete] at streaming
      rw [if_pos streaming, found]
  · rw [if_neg (by rw [single]; exact Bool.false_ne_true)]
    exact told

/-- The loop is through with the end, and callers wait or are through with their requests. -/
structure Rested (w : Crowd) : Prop where
  lost : w.race.loop = .lost
  resting : ∀ (n : Nat) (c : Caller), w.race.callers[n]? = some c → c.isAtRest = true

/-- With everybody at rest, a call that comes back is through with its request. -/
theorem Rested.step_giveUp (rested : w.Rested) (sound : w.Sound) {r : Request}
    (awaited : w.race.awaited? n = some r) (single : r.streaming = false) :
    ∃ c, w.race.callers[n]? = some c ∧
      w.race.step (.giveUp n) = w.race.place n c w.race.session .gone := by
  obtain ⟨c, there, waiting, found⟩ := Race.awaited?_eq_some_iff.mp awaited
  have registered : c.isRegistered = true := by rw [Caller.isRegistered, waiting]
  have ended := (sound.race.ended_of_lost rested.lost there registered
    (rested.resting n c there)).1
  have gone : c.giveUp w.race.session.table n = .gone := by
    unfold Caller.giveUp
    rw [waiting, found]
    dsimp only
    rw [Table.isDone_of_outcome? found ended, single]
    rfl
  refine ⟨c, there, ?_⟩
  unfold Race.step
  dsimp only
  rw [there]
  dsimp only
  rw [gone]

/-- With everybody at rest, a call that waits finds nothing only at its last branch, when its time
is not up, and goes on to its request then. -/
theorem Rested.branch_of_pending (rested : w.Rested) (sound : w.Sound)
    (ends : w.race.loop.EndsWith failure w.race.session) {r : Request}
    (awaited : w.race.awaited? n = some r) {late : Bool}
    (pending : w.race.session.polled? n late (w.branch n) = none) : w.branch n = .deadline := by
  obtain ⟨c, there, waiting, _⟩ := Race.awaited?_eq_some_iff.mp awaited
  have registered : c.isRegistered = true := by rw [Caller.isRegistered, waiting]
  have ended := (sound.race.ended_of_lost rested.lost there registered
    (rested.resting n c there)).1
  cases branch : w.branch n with
  | outcome =>
    rw [branch] at pending
    rw [show w.race.session.table.outcome? n = none from pending] at ended
    cases ended
  | down =>
    rw [branch, polled?, if_pos (ends.down_of_lost rested.lost)] at pending
    cases pending
  | deadline => rfl

/-- With everybody at rest, a poll leaves it so, and whoever waits behind it has waited before.
Where a call still waits for the same request, its next poll finds the outcome. -/
theorem Rested.step_look (rested : w.Rested) (sound : w.Sound)
    (ends : w.race.loop.EndsWith failure w.race.session) (n : Nat) :
    (w.step (.look n)).Rested ∧
      (w.step (.look n)).race.callers.length = w.race.callers.length ∧
      ∀ m r, (w.step (.look n)).race.awaited? m = some r →
        w.race.awaited? m = some r ∧ (m = n → r.streaming = true ∨
          w.branch n = .deadline ∧ (w.step (.look n)).branch n = .outcome) := by
  show (w.poll n false).Rested ∧ (w.poll n false).race.callers.length = _ ∧
    ∀ m r, (w.poll n false).race.awaited? m = some r → _ ∧ (_ → _ ∨ _ ∧
      (w.poll n false).branch n = _)
  by_cases streams : ∀ r, w.race.awaited? n = some r → r.streaming = true
  · rw [poll_of_streaming streams]
    refine ⟨rested, rfl, fun m r awaited => ⟨awaited, ?_⟩⟩
    rintro rfl
    exact Or.inl (streams r awaited)
  push Not at streams
  obtain ⟨r, awaited, single⟩ := streams
  rw [ne_eq, Bool.not_eq_true] at single
  cases ready : w.race.session.polled? n false (w.branch n) with
  | none =>
    have last := rested.branch_of_pending sound ends awaited ready
    rw [poll_of_pending awaited single ready]
    refine ⟨⟨rested.lost, rested.resting⟩, rfl, fun m other also => ⟨also, fun _ => ?_⟩⟩
    refine Or.inr ⟨last, ?_⟩
    show Function.update w.branch n (w.branch n).next n = _
    rw [Function.update_self, last]
    rfl
  | some result =>
    obtain ⟨c, there, placed⟩ := rested.step_giveUp sound awaited single
    rw [poll_of_ready awaited single ready]
    dsimp only
    refine ⟨⟨?_, ?_⟩, ?_, ?_⟩
    · rw [placed]
      exact rested.lost
    · intro m other found
      dsimp only at found
      rw [placed, Race.callers_place there] at found
      split at found
      · cases found
        rfl
      · exact rested.resting m other found
    · rw [placed]
      exact List.length_set
    · intro m other also
      rw [placed] at also
      obtain ⟨later, found, still, same⟩ := Race.awaited?_eq_some_iff.mp also
      rw [Race.callers_place there] at found
      split at found
      · cases found
        cases still
      · rename_i different
        refine ⟨Race.awaited?_eq_some_iff.mpr ⟨later, found, still, same⟩, ?_⟩
        exact fun own => absurd own.symm different

/-- With everybody at rest, two polls bring a call back. -/
theorem Rested.run_looks (rested : w.Rested) (sound : w.Sound)
    (ends : w.race.loop.EndsWith failure w.race.session) (n : Nat) :
    (w.run [.look n, .look n]).Rested ∧
      (w.run [.look n, .look n]).race.callers.length = w.race.callers.length ∧
      ∀ m r, (w.run [.look n, .look n]).race.awaited? m = some r →
        w.race.awaited? m = some r ∧ (m = n → r.streaming = true) := by
  obtain ⟨still, same, waits⟩ := rested.step_look sound ends n
  obtain ⟨after, again, later⟩ :=
    still.step_look (sound.step _) (endsWith_step ends _) n
  refine ⟨after, again.trans same, fun m r awaited => ?_⟩
  obtain ⟨between, second⟩ := later m r awaited
  obtain ⟨before, first⟩ := waits m r between
  refine ⟨before, fun own => ?_⟩
  rcases first own with streaming | ⟨_, outcome⟩
  · exact streaming
  · rcases second own with streaming | ⟨deadline, _⟩
    · exact streaming
    · rw [outcome] at deadline
      cases deadline

/-- With everybody at rest, the calls poll one after the other, and then only streams are waited
for. -/
theorem Rested.exists_looks (rested : w.Rested) (sound : w.Sound)
    (ends : w.race.loop.EndsWith failure w.race.session) (count : Nat) :
    ∃ looks : List Move, (∀ move ∈ looks, move.isOwn = true) ∧ (w.run looks).Rested ∧
      (w.run looks).race.callers.length = w.race.callers.length ∧
      ∀ n r, n < count → (w.run looks).race.awaited? n = some r → r.streaming = true := by
  induction count with
  | zero =>
    refine ⟨[], ?_, rested, rfl, ?_⟩
    · intro move member
      cases member
    · intro n r before
      exact absurd before (Nat.not_lt_zero n)
  | succ count ih =>
    obtain ⟨looks, own, still, length, streams⟩ := ih
    obtain ⟨after, same, waits⟩ :=
      still.run_looks (sound.run looks) (endsWith_run ends looks) count
    refine ⟨looks ++ [.look count, .look count], ?_, ?_⟩
    · intro move member
      rcases List.mem_append.mp member with old | last
      · exact own move old
      · rcases List.mem_pair.mp last with rfl | rfl <;> rfl
    · rw [run_append]
      refine ⟨after, same.trans length, ?_⟩
      intro n r before awaited
      obtain ⟨earlier, last⟩ := waits n r awaited
      rcases Nat.lt_succ_iff_lt_or_eq.mp before with old | rfl
      · exact streams n r old earlier
      · exact last rfl

/-- With everybody at rest and only streams waited for, nothing goes on by itself. -/
theorem Rested.quiet (rested : w.Rested)
    (streams : ∀ n r, w.race.awaited? n = some r → r.streaming = true) : w.Quiet := by
  intro move own
  cases move with
  | act act =>
    cases act with
    | turn n =>
      have stays : w.race.step (.turn n) = w.race := by
        unfold Race.step
        dsimp only
        split
        · rename_i c there
          have still : c.turn w.race.session n = (w.race.session, c.stance) := by
            have resting := rested.resting n c there
            unfold Caller.isAtRest at resting
            unfold Caller.turn
            cases stance : c.stance with
            | refused | waiting | gone => rfl
            | fresh | registered | leaving _ _ | ending _ _ | telling _ =>
              rw [stance] at resting
              cases resting
          rw [still]
          obtain ⟨inside, found⟩ := List.getElem?_eq_some_iff.mp there
          unfold Race.place
          dsimp only
          rw [← found, List.set_getElem_self]
        · rfl
      rw [step, stays]
    | proceed =>
      have stays : w.race.step .proceed = w.race := by
        obtain ⟨⟨session, callers, loop⟩, told⟩ := w
        cases (rested.lost : loop = .lost)
        rfl
      rw [step, stays]
    | ask _ _ _ _ _ | giveUp _ | receive _ | lose _ | transport _ | close => cases own
  | look n => exact poll_of_streaming (streams n)
  | expire _ | draw _ | enter | leave | letGo => cases own

theorem run_acts (w : Crowd) (acts : List Race.Move) :
    w.run (acts.map .act) = { w with race := w.race.run acts } := by
  induction acts generalizing w with
  | nil => rfl
  | cons act rest ih => exact ih { w with race := w.race.step act }

/-- From wherever the end of the connection is, the loop, the callers and the calls that look come
by themselves to where nothing goes on any more. -/
theorem exists_quiet (sound : w.Sound) (ends : w.race.loop.EndsWith failure w.race.session) :
    ∃ more : List Move, (∀ move ∈ more, move.isOwn = true) ∧ (w.run more).Quiet := by
  have begun : ∀ task, w.race.loop ≠ .serving task := by
    intro task serving
    rw [serving] at ends
    exact ends
  -- first the loop alone, then the callers, and then the calls that look
  obtain ⟨count, lost⟩ := w.race.exists_lost_of_begun begun
  obtain ⟨turns, all, loop, resting⟩ :=
    (w.race.run (List.replicate count .proceed)).exists_all_rest
  let acts := List.replicate count Race.Move.proceed ++ turns
  have rested : (w.run (acts.map .act)).Rested := by
    rw [run_acts, Race.run_append]
    exact ⟨loop.trans lost, fun n c there => resting c (List.mem_of_getElem? there)⟩
  have still := sound.run (acts.map .act)
  obtain ⟨looks, own, finished, length, streams⟩ :=
    rested.exists_looks still (endsWith_run ends _) (w.run (acts.map .act)).race.callers.length
  refine ⟨acts.map .act ++ looks, ?_, ?_⟩
  · intro move member
    rcases List.mem_append.mp member with early | late
    · obtain ⟨act, among, rfl⟩ := List.mem_map.mp early
      rcases List.mem_append.mp among with proceeds | turn
      · cases List.eq_of_mem_replicate proceeds
        rfl
      · obtain ⟨n, rfl⟩ := all act turn
        rfl
    · exact own move late
  · rw [run_append]
    refine finished.quiet fun n r awaited => streams n r ?_ awaited
    obtain ⟨c, there, _⟩ := Race.awaited?_eq_some_iff.mp awaited
    rw [← length]
    exact (List.getElem?_eq_some_iff.mp there).1

end Crowd

end MarketLink.Session
