import MarketLink.Proofs.Session.Connecting
import MarketLink.Proofs.Session.Desk

set_option autoImplicit false

namespace MarketLink.Session

open Correlation Message Wire

theorem Attempt.isNumber_usableId (raw : Int) : IsNumber (usableId raw) := by
  unfold IsNumber usableId greatestId
  split <;> omega

theorem sober_of_ended {settings : Settings} {clientId offset : Int} {happenings : List Happening}
    {s : Session} (opened : ended settings clientId offset happenings = .ok s) :
    s.Sober ∧ ∃ firstId, IsNumber firstId ∧ s.table = Table.empty.seed firstId := by
  have settled := settled_attempt settings clientId happenings
  unfold ended at opened
  dsimp only at opened
  split at opened <;> cases opened
  rename_i version text id decided
  have number : IsNumber id := by
    obtain ⟨verdict, same, judged | ⟨rfl, -⟩⟩ := settled.judged <;> cases decided.symm.trans same
    generalize (attempt settings clientId happenings).phase = phase at judged
    cases judged with
    | ready raw => exact Attempt.isNumber_usableId raw
  refine ⟨⟨?_, nofun⟩, id, number, rfl⟩
  intro failure kept
  exact Failure.not_isInternal_of_ofConnection (settled.own failure kept)

/-- Whatever way leads to it, a session that was opened begins without anything that must not be,
and with an id that the counter hands out. -/
theorem opened_session_begins_sober (network : Network) (script : List (List Happening))
    (settings : Settings) (fresh : Int) {s : Session}
    (opened : (connect network script settings fresh).2 = .ok s) :
    s.Sober ∧ ∃ firstId, firstId ≤ greatestId ∧ (Desk.opened s firstId).session = s := by
  have arrived : ∀ {clientId offset : Int} {script address count dials result},
      Trail network settings clientId offset script address count dials result → result = .ok s →
        s.Sober ∧ ∃ firstId, IsNumber firstId ∧ s.table = Table.empty.seed firstId := by
    intro clientId offset script address count dials result trail same
    induction trail with
    | refused _ | limited _ _ => cases same
    | redirected _ _ _ ih => exact ih same
    | arrived _ => exact sober_of_ended same
  have valid : settings.validate = .ok () := by
    cases checked : settings.validate with
    | ok _ => rfl
    | error failure =>
      rw [connect_of_invalid network script fresh checked] at opened
      cases opened
  rw [connect_eq_follow network script fresh valid] at opened
  obtain ⟨sober, firstId, counting, seeded⟩ :=
    arrived (trail_follow network settings _ _ script settings.address 0) opened
  refine ⟨sober, firstId, counting.2, ?_⟩
  show { s with table := Table.empty.seed firstId } = s
  rw [← seeded]

end MarketLink.Session
