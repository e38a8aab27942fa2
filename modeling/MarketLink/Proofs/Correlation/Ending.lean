import MarketLink.Proofs.Correlation.Items

set_option autoImplicit false

namespace MarketLink.Correlation

def failureOf : Except Failure Slot → Option Failure
  | .error failure => some failure
  | .ok _ => none

@[simp] theorem failureOf_outcomeOf (failure : Option Failure) (slot : Slot) :
    failureOf (Request.outcomeOf failure (some slot)) = failure := by
  cases failure <;> rfl

namespace Table

section Holds

variable {t : Table} {n : Nat} {slot : Slot}

theorem outcome?_complete_of_open (holds : ∃ r, t.request? n = some r ∧ r.Holds slot)
    (failure : Option Failure) :
    (t.complete n failure).1.outcome? n = some (Request.outcomeOf failure (some slot)) := by
  obtain ⟨r, found, held, running⟩ := holds
  rw [(complete_of_open found running failure).2, held]

theorem outcome?_evict_of_open (holds : ∃ r, t.request? n = some r ∧ r.Holds slot)
    (failure : Option Failure) :
    ((t.unregister n).complete n failure).1.outcome? n =
      some (Request.outcomeOf failure (some slot)) := by
  refine outcome?_complete_of_open ?_ failure
  rw [request?_unregister]
  exact holds

/-- The failure of the end of the connection reaches every request that was found. -/
theorem outcome?_completeAll_of_open {numbers : List Nat} (member : n ∈ numbers)
    (holds : ∃ r, t.request? n = some r ∧ r.Holds slot) (failure : Failure) :
    (t.completeAll numbers failure).outcome? n = some (.error failure) := by
  induction numbers generalizing t with
  | nil => cases member
  | cons m rest ih =>
    by_cases same : m = n
    · subst same
      exact outcome?_completeAll_of_some (outcome?_complete_of_open holds (some failure))
        rest failure
    · have later : n ∈ rest := (List.mem_cons.mp member).resolve_left (Ne.symm same)
      refine ih later ?_
      rw [request?_complete_of_ne t (Ne.symm same)]
      exact holds

end Holds

section Waits

variable {t : Table} {id : Int} {n : Nat} {slot : Slot}

theorem Waits.outcome?_cancel (waits : t.Waits id n slot) (failure : Failure) :
    (t.cancel n failure).1.outcome? n = some (.error failure) :=
  outcome?_evict_of_open waits.holds (some failure)

theorem Waits.outcome?_abandon (waits : t.Waits id n slot) :
    (t.abandon n).1.outcome? n = some (.error .cancelled) := by
  unfold abandon
  split
  · exact outcome?_complete_of_open waits.holds (some .cancelled)
  · exact waits.outcome?_cancel .cancelled

theorem Waits.outcome?_fail (waits : t.Waits id n slot) (failure : Failure) :
    (t.fail id failure).1.outcome? n = some (.error failure) := by
  unfold fail takeId
  rw [waits.pending]
  exact outcome?_complete_of_open (t := t.eraseId id) waits.holds (some failure)

theorem Waits.outcome?_teardown (waits : t.Waits id n slot) (failure : Failure) :
    (t.teardown failure).outcome? n = some (.error failure) := by
  refine outcome?_completeAll_of_open (t := t.takeAll.1) ?_ waits.holds failure
  obtain ⟨front, back, parts, _⟩ := List.lookup_eq_some_iff.mp waits.pending
  have row : (id, n) ∈ t.byId := parts ▸ List.mem_append_right front List.mem_cons_self
  exact List.mem_append_left _ (List.mem_map.mpr ⟨(id, n), row, rfl⟩)

theorem Waits.outcome?_of_refused (waits : t.Waits id n slot) {handler : Handler}
    {failure : Failure} (refused : (handler slot).verdict = .error failure) :
    (t.dispatch (.id id) handler).1.outcome? n = some (.error failure) := by
  obtain ⟨said, goes⟩ := waits.handle handler
  have shown : (t.dispatch (.id id) handler).1 =
      (((t.handle n handler).1.unregister n).complete n (some failure)).1 := by
    rw [dispatch_id, waits.pending]
    dsimp only
    rw [said, refused]
    rfl
  rw [shown]
  exact outcome?_evict_of_open goes.holds (some failure)

@[simp] theorem pendingId?_complete (t : Table) (n : Nat) (failure : Option Failure) (id : Int) :
    (t.complete n failure).1.pendingId? id = t.pendingId? id := by
  rw [complete_fst, pendingId?_update]

theorem Filed.pendingId?_unregister (filed : t.Filed)
    (out : t.pendingId? id = some n ∨ t.pendingId? id = none) :
    (t.unregister n).pendingId? id = none := by
  rw [(filed.without_unregister n).ids]
  rcases out with own | free
  · rw [if_pos own]
  · rw [free, ite_self]

theorem Filed.pendingId?_abandon (filed : t.Filed)
    (out : t.idOf? n = some id ∧ t.pendingId? id = some n ∨ t.pendingId? id = none) :
    (t.abandon n).1.pendingId? id = none := by
  unfold Table.abandon
  split
  · rename_i kept
    rcases out with ⟨carried, _⟩ | free
    · rcases key_of_idOf? carried with also | also <;>
        · rw [also] at kept
          cases kept
    · rw [pendingId?_complete]
      exact free
  · rw [cancel, pendingId?_complete]
    exact filed.pendingId?_unregister (out.imp_left And.right)

theorem pendingId?_teardown (t : Table) (failure : Failure) (id : Int) :
    (t.teardown failure).pendingId? id = none := by
  have emptied : ∀ (numbers : List Nat) (t : Table), t.pendingId? id = none →
      (t.completeAll numbers failure).pendingId? id = none := by
    intro numbers
    induction numbers with
    | nil => exact fun _ free => free
    | cons m rest ih => exact fun t free => ih _ ((t.pendingId?_complete m _ id).trans free)
  exact emptied _ _ rfl

theorem pendingId?_fail (t : Table) (id : Int) (failure : Failure) :
    (t.fail id failure).1.pendingId? id = none := by
  unfold fail takeId
  cases found : t.pendingId? id <;> simp

/-- A reply that is not followed by another one leaves nobody under its id. -/
theorem Waits.pendingId?_of_ended (waits : t.Waits id n slot) (filed : t.Filed) {handler : Handler}
    (ended : (handler slot).verdict ≠ .ok false) :
    (t.dispatch (.id id) handler).1.pendingId? id = none := by
  obtain ⟨said, goes⟩ := waits.handle handler
  have out := (filed.handle n handler).pendingId?_unregister (Or.inl goes.pending)
  rw [dispatch_id, waits.pending]
  dsimp only
  rw [said]
  rcases verdict : (handler slot).verdict with failure | _ | _
  · exact (pendingId?_complete _ _ _ _).trans out
  · exact absurd verdict ended
  · exact (pendingId?_complete _ _ _ _).trans out

end Waits

end Table

end MarketLink.Correlation
