import MarketLink.Proofs.Session.Ending

set_option autoImplicit false

namespace MarketLink.Correlation

theorem Task.keys_advance (task : Task) (t : Table) : (task.advance t).1.keys = t.keys := by
  cases task with
  | seek target handler =>
    rcases t.find_cases target with found | ⟨_, _, _, _, found⟩ | ⟨_, _, _, _, _, found⟩ <;>
      simp only [advance, found]
    exact Table.keys_setQueue ..
  | serve target n handler => exact Table.keys_handle t n handler
  | evict id failure =>
    simp only [advance, Table.takeId]
    cases t.pendingId? id <;> rfl
  | withdraw n endings => exact Table.keys_unregister t n
  | clear failure => rfl
  | settle endings =>
    cases endings with
    | nil => rfl
    | cons ending rest => exact Table.keys_complete t ending.1 ending.2

end MarketLink.Correlation

namespace MarketLink.Session

open Correlation Message Time Wire

namespace Race

variable {w : Race} {n : Nat}

theorem keys_turn (c : Caller) (s : Session) (n : Nat) :
    (c.turn s n).1.table.keys = s.table.keys := by
  unfold Caller.turn
  cases c.stance with
  | fresh =>
    have same : (s.table.register n).1.keys = s.table.keys :=
      Table.keys_register s.table n
    unfold Session.register
    dsimp only
    revert same
    rcases s.table.register n with ⟨table, failure | ⟨⟩⟩ <;> exact fun same => same
  | registered =>
    have same := congrArg Table.keys (table_send s c.frame)
    dsimp only
    revert same
    rcases s.send c.frame with ⟨after, failure | ⟨⟩⟩ <;> exact fun same => same
  | leaving _ _ => exact Table.keys_unregister s.table n
  | ending failure _ => exact Table.keys_complete s.table n (some failure)
  | telling note => exact congrArg Table.keys (table_withdraw s note)
  | refused | waiting | gone => rfl

theorem keys_step (w : Race) (move : Move) :
    w.session.table.keys <+: (w.step move).session.table.keys := by
  have kept : ∀ {t : Table}, t.keys = w.session.table.keys → w.session.table.keys <+: t.keys :=
    fun same => same ▸ List.prefix_rfl
  cases move with
  | ask key slot streaming frame withdrawal =>
    rw [step]
    dsimp only
    rw [Table.keys_create]
    exact List.prefix_append _ _
  | turn n =>
    unfold step
    dsimp only
    split
    · exact kept (keys_turn _ _ n)
    · exact List.prefix_rfl
  | giveUp n | receive _ | lose _ =>
    unfold step
    dsimp only
    split <;> exact List.prefix_rfl
  | proceed =>
    apply kept
    unfold step Loop.turn
    dsimp only
    cases w.loop with
    | serving task => exact task.keys_advance w.session.table
    | clearing failure => exact (Task.clear failure).keys_advance w.session.table
    | failing failure task =>
      dsimp only
      split
      · exact congrArg Table.keys (table_announceEnd w.session failure).1
      · exact task.keys_advance w.session.table
    | noting _ | signalling _ | detaching _ | closing _ | lost => rfl
  | transport _ | close => exact List.prefix_rfl

theorem Sound.outcome?_step (sound : w.Sound) {result : Except Failure Slot}
    (ended : w.session.table.outcome? n = some result) (move : Move) :
    (w.step move).session.table.outcome? n = some result := by
  have progress := w.loop.task.progress sound.filed sound.subjects
  cases move with
  | ask key slot streaming frame withdrawal =>
    obtain ⟨r, found, outcome⟩ := Option.bind_eq_some_iff.mp ended
    exact Option.bind_eq_some_iff.mpr ⟨r, Table.request?_create_of_some found _, outcome⟩
  | turn m =>
    unfold Race.step
    dsimp only
    split
    · rename_i c there
      show (c.turn w.session m).1.table.outcome? n = _
      rcases request?_turn c w.session m n with same | ⟨own, note, _, _, completed⟩
      · rw [Table.outcome?, same]
        exact ended
      · obtain ⟨r, found, outcome⟩ := Option.bind_eq_some_iff.mp ended
        rw [Table.outcome?, completed, found, Option.map_some, Option.bind_some,
          Request.outcome_complete, outcome]
        rfl
    · exact ended
  | giveUp m | receive _ | lose _ =>
    unfold Race.step
    dsimp only
    split <;> exact ended
  | proceed =>
    unfold Race.step Loop.turn
    dsimp only
    cases loop : w.loop with
    | serving task =>
      rw [loop] at progress
      exact progress.outcomes n result ended
    | clearing failure =>
      rw [loop] at progress
      exact progress.outcomes n result ended
    | failing failure task =>
      rw [loop] at progress
      dsimp only
      split
      · rw [(table_announceEnd w.session failure).1]
        exact ended
      · exact progress.outcomes n result ended
    | noting _ | signalling _ | detaching _ | closing _ | lost => exact ended
  | transport _ | close => exact ended

end Race

namespace Crowd

variable {w : Crowd}

theorem keys_run (w : Crowd) (moves : List Move) :
    w.race.session.table.keys <+: (w.run moves).race.session.table.keys := by
  induction moves generalizing w with
  | nil => exact List.prefix_rfl
  | cons move rest ih =>
    refine List.IsPrefix.trans ?_ (ih (w.step move))
    rcases w.race_step_cases move with same | ⟨act, same, _⟩ | ⟨session, aside, same⟩
    · exact ⟨[], by rw [same, List.append_nil]⟩
    · rw [same]
      exact Race.keys_step w.race act
    · refine ⟨[], ?_⟩
      rw [same, List.append_nil]
      exact congrArg (List.map Request.key) aside.requests.symm

theorem Sound.outcome?_run (sound : w.Sound) {n : Nat} {result : Except Failure Slot}
    (ended : w.race.session.table.outcome? n = some result) (moves : List Move) :
    (w.run moves).race.session.table.outcome? n = some result := by
  induction moves generalizing w with
  | nil => exact ended
  | cons move rest ih =>
    refine ih (sound.step move) ?_
    rcases w.race_step_cases move with same | ⟨act, same, _⟩ | ⟨session, aside, same⟩ <;> rw [same]
    · exact ended
    · exact sound.race.outcome?_step ended act
    · rw [Table.outcome?, aside.request?]
      exact ended

end Crowd

end MarketLink.Session
