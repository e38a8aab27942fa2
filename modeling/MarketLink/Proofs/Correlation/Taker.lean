import MarketLink.Proofs.Correlation.Keys

set_option autoImplicit false

namespace MarketLink.Correlation

namespace Table

/-- The request that a reply finds: the one that is pending under its id, or the oldest that waits
for its code. -/
def taker? (t : Table) : Target → Option Nat
  | .id id => t.pendingId? id
  | .code code => (t.queue code).head?

section Taker

variable {t : Table} {target : Target} {id : Int} {n m : Nat}

theorem dispatch_snd (t : Table) (target : Target) (handler : Handler) :
    (t.dispatch target handler).2 = t.taker? target := by
  cases target with
  | id id =>
    simp only [dispatch, find, taker?]
    cases t.pendingId? id <;> rfl
  | code code =>
    simp only [dispatch, find, taker?]
    cases t.queue code <;> rfl

theorem fail_snd (t : Table) (id : Int) (failure : Failure) :
    (t.fail id failure).2 = (t.taker? (.id id)).isSome := by
  simp only [fail, takeId, taker?]
  cases t.pendingId? id <;> rfl

theorem dispatch_of_nobody (nobody : t.taker? target = none) (handler : Handler) :
    t.dispatch target handler = (t, none) := by
  cases target with
  | id id =>
    have free : t.pendingId? id = none := nobody
    simp only [dispatch, find, free]
  | code code => exact dispatch_of_empty (List.head?_eq_none_iff.mp nobody) handler

theorem fail_of_nobody (nobody : t.taker? (.id id) = none) (failure : Failure) :
    t.fail id failure = (t, false) := by
  have free : t.pendingId? id = none := nobody
  simp only [fail, takeId, free, eraseId_of_absent free]

theorem request?_dispatch_of_other (other : t.taker? target ≠ some m) (handler : Handler) :
    (t.dispatch target handler).1.request? m = t.request? m := by
  cases target with
  | id id =>
    rw [dispatch_id]
    cases pending : t.pendingId? id with
    | none => rfl
    | some n =>
      have apart : m ≠ n := fun same => other (pending.trans (congrArg some same.symm))
      dsimp only
      rw [request?_conclude_of_ne _ apart, request?_handle_of_ne _ apart]
  | code code =>
    cases queue : t.queue code with
    | nil => rw [dispatch_of_empty queue]
    | cons n rest =>
      have front : t.taker? (.code code) = some n := congrArg List.head? queue
      exact request?_dispatch_of_ne queue handler fun same =>
        other (front.trans (congrArg some same.symm))

theorem request?_fail_of_other (other : t.taker? (.id id) ≠ some m) (failure : Failure) :
    (t.fail id failure).1.request? m = t.request? m := by
  cases pending : t.pendingId? id with
  | none => rw [fail_of_nobody pending]
  | some n =>
    have apart : m ≠ n := fun same => other (pending.trans (congrArg some same.symm))
    simp only [fail, takeId, pending]
    exact request?_complete_of_ne (t.eraseId id) apart _

theorem Filed.mem_pending_conclude_of_ne (filed : t.Filed) (other : m ≠ n)
    (verdict : Option (Except Failure Bool)) :
    m ∈ (t.conclude n verdict).pending ↔ m ∈ t.pending := by
  rcases t.conclude_cases n verdict with same | ⟨failure, same⟩
  · rw [same]
  · rw [same, pending_complete, (filed.without_unregister n).mem_pending filed.toRows]
    exact and_iff_left other

theorem Filed.mem_pending_dispatch_of_other (filed : t.Filed) (other : t.taker? target ≠ some m)
    (handler : Handler) : m ∈ (t.dispatch target handler).1.pending ↔ m ∈ t.pending := by
  cases target with
  | id id =>
    rw [dispatch_id]
    cases pending : t.pendingId? id with
    | none => exact Iff.rfl
    | some n =>
      have apart : m ≠ n := fun same => other (pending.trans (congrArg some same.symm))
      dsimp only
      rw [(filed.handle n handler).mem_pending_conclude_of_ne apart, pending_handle]
  | code code =>
    cases queue : t.queue code with
    | nil => rw [dispatch_of_empty queue]
    | cons n rest =>
      have front : t.taker? (.code code) = some n := congrArg List.head? queue
      have apart : m ≠ n := fun same => other (front.trans (congrArg some same.symm))
      have out := filed.without_find queue
      rw [dispatch_of_queue queue]
      dsimp only
      rw [pending_complete, ((out.filed filed).handle n handler).mem_pending_conclude_of_ne apart,
        pending_handle, out.mem_pending filed.toRows]
      exact and_iff_left apart

theorem Filed.mem_pending_fail_of_other (filed : t.Filed) (other : t.taker? (.id id) ≠ some m)
    (failure : Failure) : m ∈ (t.fail id failure).1.pending ↔ m ∈ t.pending := by
  cases pending : t.pendingId? id with
  | none => rw [fail_of_nobody pending]
  | some n =>
    have apart : m ≠ n := fun same => other (pending.trans (congrArg some same.symm))
    simp only [Table.fail, takeId, pending]
    rw [pending_complete, (filed.without_eraseId pending).mem_pending filed.toRows]
    exact and_iff_left apart

theorem requests_dispatch_of_ended (found : t.taker? target = some n)
    (ended : (t.outcome? n).isSome = true) (handler : Handler) :
    (t.dispatch target handler).1.requests = t.requests := by
  cases target with
  | id id =>
    have pending : t.pendingId? id = some n := found
    rw [dispatch_id, pending]
    dsimp only
    rw [handle_of_ended ended]
    rfl
  | code code =>
    obtain ⟨rest, queue⟩ := List.head?_eq_some_iff.mp found
    rw [dispatch_of_ended queue ended]
    rfl

theorem requests_fail_of_ended (found : t.taker? (.id id) = some n)
    (ended : (t.outcome? n).isSome = true) (failure : Failure) :
    (t.fail id failure).1.requests = t.requests := by
  have pending : t.pendingId? id = some n := found
  have still : ((t.eraseId id).outcome? n).isSome = true := ended
  simp only [fail, takeId, pending]
  rw [complete_of_ended still]
  rfl

end Taker

end Table

end MarketLink.Correlation
