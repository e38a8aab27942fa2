import MarketLink.Proofs.Correlation.Keys

set_option autoImplicit false

namespace MarketLink.Correlation

namespace Table

section Ended

variable {t : Table} {m : Nat} {result : Except Failure Slot}

theorem outcome?_dispatch_id_of_some (ended : t.outcome? m = some result) (id : Int)
    (handler : Handler) : (t.dispatch (.id id) handler).1.outcome? m = some result := by
  rw [dispatch_id]
  split
  · exact ended
  · apply outcome?_conclude_of_some
    rw [outcome?_handle]
    exact ended

theorem outcome?_fail_of_some (ended : t.outcome? m = some result) (id : Int) (failure : Failure) :
    (t.fail id failure).1.outcome? m = some result := by
  unfold fail takeId
  cases t.pendingId? id with
  | none => exact ended
  | some n => exact outcome?_complete_of_some (t := t.eraseId id) ended n (some failure)

theorem outcome?_enroll_of_some (ended : t.outcome? m = some result) (r : Request) :
    (t.enroll r).1.outcome? m = some result := by
  obtain ⟨old, found, outcome⟩ := Option.bind_eq_some_iff.mp ended
  have there : (t.create r).1.request? m = some old := request?_create_of_some found r
  rw [enroll, outcome?_of_requests (requests_register _ _), outcome?, there, Option.bind_some,
    outcome]

theorem outcome?_completeAll_of_some (ended : t.outcome? m = some result) (numbers : List Nat)
    (failure : Failure) : (t.completeAll numbers failure).outcome? m = some result := by
  induction numbers generalizing t with
  | nil => exact ended
  | cons n rest ih => exact ih (outcome?_complete_of_some ended n (some failure))

theorem outcome?_teardown_of_some (ended : t.outcome? m = some result) (failure : Failure) :
    (t.teardown failure).outcome? m = some result :=
  outcome?_completeAll_of_some (t := t.takeAll.1) ended t.takeAll.2 failure

end Ended

/-- The request with a number is pending under an id, and what it has gathered is this. -/
structure Waits (t : Table) (id : Int) (n : Nat) (slot : Slot) : Prop where
  pending : t.pendingId? id = some n
  holds : ∃ r, t.request? n = some r ∧ r.Holds slot

section Waits

variable {t : Table} {id : Int} {n m : Nat} {slot : Slot}

theorem Waits.outcome? (waits : t.Waits id n slot) : t.outcome? n = none := by
  obtain ⟨r, found, _, running⟩ := waits.holds
  rw [Table.outcome?, found, Option.bind_some, running]

theorem Waits.handle (waits : t.Waits id n slot) (handler : Handler) :
    (t.handle n handler).2 = some (handler slot).verdict ∧
      (t.handle n handler).1.Waits id n (handler slot).slot := by
  obtain ⟨r, found, holds⟩ := waits.holds
  obtain ⟨said, shown⟩ := handle_of_holds found holds handler
  refine ⟨said, ?_, shown⟩
  rw [handle_fst, pendingId?_update]
  exact waits.pending

/-- After a reply that is not the last one the request goes on with what the handler left. -/
theorem Waits.dispatch_of_more (waits : t.Waits id n slot) {handler : Handler}
    (more : (handler slot).verdict = .ok false) :
    (t.dispatch (.id id) handler).1.Waits id n (handler slot).slot := by
  obtain ⟨said, goes⟩ := waits.handle handler
  have shown : (t.dispatch (.id id) handler).1 = (t.handle n handler).1 := by
    rw [dispatch_id, waits.pending]
    dsimp only
    rw [said, more]
    rfl
  rw [shown]
  exact goes

theorem Waits.outcome?_of_last (waits : t.Waits id n slot) {handler : Handler}
    (last : (handler slot).verdict = .ok true) :
    (t.dispatch (.id id) handler).1.outcome? n = some (.ok (handler slot).slot) := by
  obtain ⟨said, goes⟩ := waits.handle handler
  have shown : (t.dispatch (.id id) handler).1 =
      (((t.handle n handler).1.unregister n).complete n none).1 := by
    rw [dispatch_id, waits.pending]
    dsimp only
    rw [said, last]
    rfl
  obtain ⟨r, found, holds⟩ := goes.holds
  have there : ((t.handle n handler).1.unregister n).request? n = some r := by
    rw [request?_unregister, found]
  rw [shown]
  exact outcome?_complete_of_holds there holds

theorem pendingId?_unregister_of_ne (pending : t.pendingId? id = some n) (other : m ≠ n) :
    (t.unregister m).pendingId? id = some n := by
  rcases t.carried_cases m with absent | ⟨own, carried⟩ | ⟨code, waits⟩
  · rw [unregister_of_absent absent, pending]
  · rw [unregister_of_id carried]
    split
    · rename_i found
      have different : id ≠ own := by
        rintro rfl
        exact other (Option.some.inj (found.symm.trans pending))
      rw [pendingId?_eraseId, if_neg different, pending]
    · exact pending
  · rw [unregister_of_code waits, pendingId?_setQueue, pending]

theorem Waits.complete_of_ne (waits : t.Waits id n slot) (other : m ≠ n)
    (failure : Option Failure) :
    (t.complete m failure).1.Waits id n slot := by
  refine ⟨?_, ?_⟩
  · rw [complete_fst, pendingId?_update]
    exact waits.pending
  · rw [request?_complete_of_ne t (Ne.symm other)]
    exact waits.holds

theorem Waits.cancel_of_ne (waits : t.Waits id n slot) (other : m ≠ n) (failure : Failure) :
    (t.cancel m failure).1.Waits id n slot := by
  have out : (t.unregister m).Waits id n slot := by
    refine ⟨pendingId?_unregister_of_ne waits.pending other, ?_⟩
    rw [request?_unregister]
    exact waits.holds
  exact out.complete_of_ne other (some failure)

theorem Waits.abandon_of_ne (waits : t.Waits id n slot) (other : m ≠ n) :
    (t.abandon m).1.Waits id n slot := by
  unfold abandon
  split
  · exact waits.complete_of_ne other (some .cancelled)
  · exact waits.cancel_of_ne other .cancelled

theorem Waits.enroll (waits : t.Waits id n slot) {r : Request} (carries : r.key.id? = some id) :
    (t.enroll r).1.Waits id n slot := by
  have taken : (t.pendingId? id).isSome = true := by rw [waits.pending, Option.isSome_some]
  have refused : (t.enroll r).1 = (t.create r).1 := by rw [enroll_of_id carries, if_pos taken]
  obtain ⟨old, found, holds⟩ := waits.holds
  rw [refused]
  exact ⟨waits.pending, old, request?_create_of_some found r, holds⟩

theorem waits_enroll {key : Key} (carries : key.id? = some id) (free : t.pendingId? id = none)
    (slot : Slot) (streaming : Bool) :
    (t.enroll (Request.new key slot streaming)).1.Waits id t.requests.length slot := by
  have own : (Request.new key slot streaming).key.id? = some id := carries
  have letIn : ¬ (t.pendingId? id).isSome = true := by
    rw [free]
    exact Bool.false_ne_true
  rw [enroll_of_id own, if_neg letIn]
  refine ⟨?_, Request.new key slot streaming, ?_, rfl, rfl⟩
  · exact (pendingId?_pushId (t.create _).1 id id _).trans (if_pos rfl)
  · simp [request?, create]

end Waits

end Table

end MarketLink.Correlation
