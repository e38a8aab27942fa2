import MarketLink.Proofs.Session.Race

set_option autoImplicit false

namespace MarketLink.Session

open Correlation

def Stance.stepsLeft : Stance → Nat
  | .fresh => 5
  | .registered => 4
  | .leaving _ _ => 3
  | .ending _ _ => 2
  | .telling _ => 1
  | .refused | .waiting | .gone => 0

theorem Caller.stepsLeft_turn (s : Session) (n : Nat) (c : Caller) :
    (c.turn s n).2.stepsLeft ≤ c.stance.stepsLeft - 1 := by
  unfold Caller.turn
  cases c.stance with
  | fresh =>
    dsimp only
    rcases s.register n with ⟨_, failure | _⟩
    · exact Nat.zero_le _
    · exact Nat.le_refl _
  | registered =>
    dsimp only
    rcases s.send c.frame with ⟨_, failure | _⟩
    · exact Nat.le_refl _
    · exact Nat.zero_le _
  | leaving _ _ | ending _ _ | telling _ | refused | waiting | gone => exact Nat.le_refl _

theorem Caller.stepsLeft_turns (count : Nat) (s : Session) (n : Nat) (c : Caller) :
    (c.turns count s n).2.stance.stepsLeft ≤ c.stance.stepsLeft - count := by
  induction count generalizing s c with
  | zero => exact Nat.le_refl _
  | succ count ih =>
    have first := c.stepsLeft_turn s n
    have rest := ih (c.turn s n).1 { c with stance := (c.turn s n).2 }
    rw [Caller.turns]
    simp only at rest
    omega

theorem Caller.isAtRest_of_stepsLeft (c : Caller) (none : c.stance.stepsLeft = 0) :
    c.isAtRest = true := by
  unfold Caller.isAtRest
  cases stance : c.stance with
  | refused | waiting | gone => rfl
  | fresh | registered | leaving _ _ | ending _ _ | telling _ =>
    rw [stance] at none
    cases none

theorem Caller.isAtRest_turns (s : Session) (n : Nat) (c : Caller) :
    (c.turns 5 s n).2.isAtRest = true := by
  have few : c.stance.stepsLeft ≤ 5 := by
    cases c.stance <;> simp [Stance.stepsLeft]
  have fewer := c.stepsLeft_turns 5 s n
  exact Caller.isAtRest_of_stepsLeft _ (by omega)

namespace Race

theorem exists_lost_of_failing (count : Nat) (failure : Failure) (callers : List Caller)
    (s : Session) (task : Task) (finished : (Task.proceed count s.table task).2 = .idle) :
    ∃ more, (run ⟨s, callers, .failing failure task⟩ (List.replicate more .proceed)).loop =
      .lost := by
  induction count generalizing s task with
  | zero =>
    cases (finished : task = .idle)
    exact ⟨1, rfl⟩
  | succ count ih =>
    cases state : task.isIdle with
    | true =>
      cases Task.eq_idle_of_isIdle state
      exact ⟨1, rfl⟩
    | false =>
      obtain ⟨more, lost⟩ := ih (Loop.work s task).1 (Loop.work s task).2 finished
      refine ⟨more + 1, ?_⟩
      rw [List.replicate_succ, run, List.foldl_cons, ← run, step, Loop.turn, state]
      exact lost

theorem exists_lost_of_clearing (failure : Failure) (callers : List Caller) (s : Session) :
    ∃ more,
      (run ⟨s, callers, .clearing failure⟩ (List.replicate more .proceed)).loop = .lost := by
  let swept := Loop.work s (.clear failure)
  obtain ⟨count, finished⟩ := Task.exists_proceed_idle swept.1.table swept.2
  obtain ⟨more, lost⟩ := exists_lost_of_failing count failure callers swept.1 swept.2 finished
  exact ⟨more + 1, lost⟩

/-- Once it has begun, the end of the connection needs nobody but the loop. -/
theorem exists_lost_of_begun (w : Race) (begun : ∀ task, w.loop ≠ .serving task) :
    ∃ more, (w.run (List.replicate more .proceed)).loop = .lost := by
  obtain ⟨s, callers, loop⟩ := w
  cases loop with
  | serving task => exact absurd rfl (begun task)
  | noting failure =>
    obtain ⟨more, lost⟩ :=
      exists_lost_of_clearing failure callers (s.noteEnd failure).signalDown.detach.closeLink
    exact ⟨more + 4, lost⟩
  | signalling failure =>
    obtain ⟨more, lost⟩ :=
      exists_lost_of_clearing failure callers s.signalDown.detach.closeLink
    exact ⟨more + 3, lost⟩
  | detaching failure =>
    obtain ⟨more, lost⟩ := exists_lost_of_clearing failure callers s.detach.closeLink
    exact ⟨more + 2, lost⟩
  | closing failure =>
    obtain ⟨more, lost⟩ := exists_lost_of_clearing failure callers s.closeLink
    exact ⟨more + 1, lost⟩
  | clearing failure => exact exists_lost_of_clearing failure callers s
  | failing failure task =>
    obtain ⟨count, finished⟩ := Task.exists_proceed_idle s.table task
    exact exists_lost_of_failing count failure callers s task finished
  | lost => exact ⟨0, rfl⟩

theorem exists_lost (w : Race) : ∃ more, (w.run more).loop = .lost := by
  by_cases serves : ∃ task, w.loop = .serving task
  · obtain ⟨task, serving⟩ := serves
    obtain ⟨s, callers, loop⟩ := w
    cases serving
    obtain ⟨count, finished⟩ := Task.exists_proceed_idle s.table task
    let served : Session := { s with table := (Task.proceed count s.table task).1 }
    have idle : run ⟨s, callers, .serving task⟩ (List.replicate count .proceed) =
        ⟨served, callers, .serving .idle⟩ := by
      rw [run_proceed_serving count _ task rfl, finished]
    obtain ⟨more, lost⟩ := run_lose served callers .closed
    refine ⟨List.replicate count .proceed ++ (.lose .closed :: List.replicate more .proceed), ?_⟩
    rw [run_append, idle, lost]
  · obtain ⟨more, lost⟩ := w.exists_lost_of_begun fun task serving => serves ⟨task, serving⟩
    exact ⟨_, lost⟩

theorem exists_rest (w : Race) (count : Nat) (inside : count ≤ w.callers.length) :
    ∃ more, (∀ move ∈ more, ∃ n, move = .turn n) ∧ (w.run more).loop = w.loop ∧
      (w.run more).callers.length = w.callers.length ∧
      ∀ n c, n < count → (w.run more).callers[n]? = some c → c.isAtRest = true := by
  induction count with
  | zero =>
    refine ⟨[], ?_, rfl, rfl, ?_⟩
    · intro move member
      cases member
    · intro n c before
      exact absurd before (Nat.not_lt_zero n)
  | succ count ih =>
    obtain ⟨more, turns, loop, length, resting⟩ := ih (Nat.le_of_succ_le inside)
    have there : (w.run more).callers[count]? = some ((w.run more).callers.get ⟨count, by omega⟩) :=
      List.getElem?_eq_getElem (by omega)
    have turned := run_turns 5 (w.run more) count _ there
    refine ⟨more ++ List.replicate 5 (.turn count), ?_, ?_⟩
    · intro move member
      rcases List.mem_append.mp member with old | last
      · exact turns move old
      · exact ⟨count, List.eq_of_mem_replicate last⟩
    rw [run_append, turned]
    refine ⟨loop, by rw [List.length_set, length], ?_⟩
    intro n c before found
    rw [List.getElem?_set] at found
    split at found
    · rename_i own
      split at found
      · cases found
        exact Caller.isAtRest_turns _ _ _
      · cases found
    · rename_i other
      exact resting n c (by omega) found

theorem exists_all_rest (w : Race) : ∃ more, (∀ move ∈ more, ∃ n, move = .turn n) ∧
    (w.run more).loop = w.loop ∧ ∀ c ∈ (w.run more).callers, c.isAtRest = true := by
  obtain ⟨more, turns, loop, length, resting⟩ := w.exists_rest _ (Nat.le_refl _)
  refine ⟨more, turns, loop, ?_⟩
  intro c member
  obtain ⟨n, found⟩ := List.mem_iff_getElem?.mp member
  have inside := (List.getElem?_eq_some_iff.mp found).1
  exact resting n c (by omega) found

/-- Every run can go on until the end of the connection is over and all callers are at rest. -/
theorem exists_finish (w : Race) : ∃ more, (w.run more).loop = .lost ∧
    ∀ c ∈ (w.run more).callers, c.isAtRest = true := by
  obtain ⟨before, lost⟩ := w.exists_lost
  obtain ⟨more, _, loop, resting⟩ := (w.run before).exists_all_rest
  refine ⟨before ++ more, ?_, ?_⟩
  · rw [run_append, loop, lost]
  · rw [run_append]
    exact resting

end Race

end MarketLink.Session
