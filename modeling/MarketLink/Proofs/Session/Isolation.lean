import Mathlib
import MarketLink.Proofs.Session.Course

set_option autoImplicit false

namespace MarketLink.Session

open Correlation Message Time Wire

namespace Course

def Leads (s after : Session) : Prop := ∃ moves, run s moves = after

section Leads

variable {s between after : Session}

theorem Leads.refl (s : Session) : Leads s s := ⟨[], rfl⟩

theorem Leads.trans (first : Leads s between) (second : Leads between after) : Leads s after := by
  obtain ⟨moves, rfl⟩ := first
  obtain ⟨more, rfl⟩ := second
  exact ⟨moves ++ more, List.foldl_append ..⟩

theorem leads_step (s : Session) (move : Move) : Leads s (step s move) := ⟨[move], rfl⟩

theorem leads_of_places (requests : after.table.requests = s.table.requests)
    (ids : after.table.byId = s.table.byId) (codes : after.table.byCode = s.table.byCode) :
    Leads s after := by
  have table :
      ({ s.table with
        nextId := after.table.nextId, nextSeq := after.table.nextSeq } : Table) =
      after.table := by
    rw [Table.mk.injEq]
    exact ⟨requests.symm, ids.symm, codes.symm, rfl, rfl⟩
  refine ⟨[.around fun _ => after], ?_⟩
  exact congrArg (fun table => ({ after with table } : Session)) table

theorem leads_of_table (same : after.table = s.table) : Leads s after :=
  leads_of_places (by rw [same]) (by rw [same]) (by rw [same])

theorem leads_leave (s : Session) : Leads s s.leave := leads_of_table rfl

theorem leads_submit (s : Session) (key : Key) (slot : Slot) (streaming : Bool)
    (frame : Except WireError Bytes) :
    Leads s (s.submit (Request.new key slot streaming) frame).1 := by
  rcases frame with e | frame
  · exact Leads.refl s
  rw [submit_frame]
  have enrolled := leads_step s (.enroll key slot streaming)
  dsimp only
  split
  · exact enrolled
  · exact enrolled.trans (leads_step _ (.place s.table.requests.length frame))

/-- Whoever passes the gate makes a request pending, queues its frame and leaves, or stays
inside. -/
theorem leads_submit_of_enter {inside : Session} (drawn : Leads s between)
    (entered : between.enter = some inside) (key : Key) (slot : Slot) (streaming : Bool)
    (frame : Except WireError Bytes) :
    let submitted := (inside.submit (Request.new key slot streaming) frame).1
    Leads s submitted ∧ Leads s submitted.leave := by
  intro submitted
  have through : Leads s submitted :=
    drawn.trans ((leads_of_table (table_enter entered)).trans
      (leads_submit inside key slot streaming frame))
  exact ⟨through, through.trans (leads_leave submitted)⟩

theorem leads_keyFor (s : Session) (question : Question) : Leads s (s.keyFor question).1 := by
  unfold keyFor
  split <;> exact leads_of_places rfl rfl rfl

/-- Whoever asks draws a key, passes the gate, makes the request pending and queues its frame. -/
theorem leads_ask (s : Session) (question : Question) : Leads s (s.ask question).1 := by
  have drawn := leads_keyFor s question
  unfold ask
  rcases keyed : s.keyFor question with ⟨s, failure | key⟩
  · rw [keyed] at drawn
    exact drawn
  rw [keyed] at drawn
  dsimp only
  split
  · exact drawn
  rename_i inside entered
  have submitted :=
    leads_submit_of_enter drawn entered key question.slot false (question.frame key)
  revert submitted
  rcases inside.submit _ _ with ⟨s, failure | n⟩
  · exact And.right
  · exact And.left

theorem leads_subscribe (s : Session) (feed : Feed) : Leads s (s.subscribe feed).1 := by
  have drawn : Leads s { s with table := s.table.allocate.1 } := leads_of_places rfl rfl rfl
  unfold subscribe
  rcases feed.check with failure | ⟨⟩
  · exact Leads.refl s
  dsimp only
  rcases s.table.allocate.2 with failure | id
  · exact drawn
  dsimp only
  split
  · exact drawn
  rename_i inside entered
  have submitted :=
    leads_submit_of_enter drawn entered (.ticker id) feed.slot true (feed.frame id)
  revert submitted
  rcases inside.submit _ _ with ⟨s, failure | n⟩ <;> exact And.right

theorem leads_setMarketDataType (s : Session) (kind : Int) :
    Leads s (s.setMarketDataType kind).1 := by
  unfold setMarketDataType
  split
  · exact Leads.refl s
  rename_i inside entered
  have same := table_enter entered
  split
  · exact leads_of_table same
  · exact leads_of_table ((table_send inside _).trans same)

theorem leads_cancelStream (s : Session) (stream : Stream) : Leads s (s.cancelStream stream).1 :=
  leads_step s (.cancelStream stream)

theorem leads_giveUp (s : Session) (call : Call) : Leads s (s.giveUp call) :=
  (leads_step s (.abandon call)).trans (leads_leave _)

theorem leads_dispatch (s : Session) : Leads s s.dispatch := by
  fun_induction dispatch s with
  | case1 s still => exact Leads.refl s
  | case2 s after turned ih =>
    have turn : step s .turn = after := by
      show s.next?.getD s = after
      rw [turned, Option.getD_some]
    exact Leads.trans (turn ▸ leads_step s .turn) ih

theorem leads_close (s : Session) : Leads s s.close := by
  have begun : Leads s s.beginClose := leads_of_table rfl
  exact begun.trans (leads_dispatch s.beginClose)

end Leads

end Course

end MarketLink.Session
