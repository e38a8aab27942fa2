import MarketLink.Proofs.Correlation.Entry

set_option autoImplicit false

namespace MarketLink.Correlation

namespace Request

theorem outcome_complete (r : Request) (failure : Failure) :
    (r.complete (some failure)).1.outcome = some (r.outcome.getD (.error failure)) := by
  unfold complete isDone
  cases ended : r.outcome with
  | none => rfl
  | some result => exact ended

theorem complete_complete (r : Request) (first second : Option Failure) :
    ((r.complete first).1.complete second).1 = (r.complete first).1 := by
  rw [complete_of_isDone _ _ (r.isDone_complete _)]

theorem streaming_complete (r : Request) (failure : Option Failure) :
    (r.complete failure).1.streaming = r.streaming := by
  unfold complete
  split <;> rfl

end Request

namespace Table

def outcome? (t : Table) (n : Nat) : Option (Except Failure Slot) :=
  (t.request? n).bind Request.outcome

theorem isDone_of_outcome? {t : Table} {n : Nat} {r : Request} (found : t.request? n = some r)
    (ended : (t.outcome? n).isSome = true) : r.isDone = true := by
  rw [outcome?, found] at ended
  exact ended

theorem complete_of_ended {t : Table} {n : Nat} (ended : (t.outcome? n).isSome = true)
    (failure : Option Failure) : t.complete n failure = (t, false) := by
  cases found : t.request? n with
  | none =>
    rw [outcome?, found] at ended
    cases ended
  | some r =>
    have same := r.complete_of_isDone failure (isDone_of_outcome? found ended)
    apply Prod.ext
    · rw [complete_fst, ← update_const found, same, update_self found]
    · rw [complete_snd, found]
      simp [isDone_of_outcome? found ended]

theorem handle_of_ended {t : Table} {n : Nat} (ended : (t.outcome? n).isSome = true)
    (handler : Handler) : t.handle n handler = (t, none) := by
  cases found : t.request? n with
  | none =>
    rw [outcome?, found] at ended
    cases ended
  | some r =>
    have same := r.handle_of_isDone handler (isDone_of_outcome? found ended)
    apply Prod.ext
    · rw [handle_fst, ← update_const found, same, update_self found]
    · rw [handle_snd, found, Option.bind_some, same]

theorem complete_of_open {t : Table} {n : Nat} {r : Request} (found : t.request? n = some r)
    (running : r.outcome = none) (failure : Option Failure) :
    (t.complete n failure).2 = true ∧
      (t.complete n failure).1.outcome? n = some (Request.outcomeOf failure r.slot) := by
  have notDone : r.isDone = false := by simp [Request.isDone, running]
  constructor
  · simp [complete_snd, found, notDone]
  · simp [outcome?, complete_fst, found, Request.complete, notDone]

theorem outcome?_update (t : Table) (n m : Nat) (change : Request → Request)
    (kept : ∀ r, (change r).outcome = r.outcome) :
    (t.update n change).outcome? m = t.outcome? m := by
  unfold outcome?
  rw [request?_update]
  split
  · cases t.request? m <;> simp [kept]
  · rfl

theorem outcome?_complete_of_ne (t : Table) {n m : Nat} (other : n ≠ m)
    (failure : Option Failure) : (t.complete n failure).1.outcome? m = t.outcome? m := by
  rw [outcome?, complete_fst, request?_update, if_neg other, outcome?]

theorem outcome?_complete_of_some {t : Table} {m : Nat} {result : Except Failure Slot}
    (ended : t.outcome? m = some result) (n : Nat) (failure : Option Failure) :
    (t.complete n failure).1.outcome? m = some result := by
  by_cases same : n = m
  · subst same
    rw [complete_of_ended (by rw [ended]; rfl), ended]
  · rw [outcome?_complete_of_ne t same, ended]

theorem ended_complete {t : Table} {n : Nat} (inside : n < t.requests.length)
    (failure : Option Failure) : ((t.complete n failure).1.outcome? n).isSome = true := by
  have found : t.request? n = some t.requests[n] := List.getElem?_eq_getElem inside
  rw [outcome?, complete_fst, request?_update, if_pos rfl, found, Option.map_some,
    Option.bind_some]
  exact Request.isDone_complete _ failure

theorem outcome?_handle (t : Table) (n m : Nat) (handler : Handler) :
    (t.handle n handler).1.outcome? m = t.outcome? m := by
  unfold outcome?
  rw [handle_fst, request?_update]
  split
  · cases t.request? m with
    | none => rfl
    | some r =>
      simp only [Option.map_some, Option.bind_some, Request.handle]
      split
      · rfl
      · split <;> rfl
  · rfl

theorem outcome?_of_requests {t after : Table} (same : after.requests = t.requests) (n : Nat) :
    after.outcome? n = t.outcome? n := by
  rw [outcome?, request?, same, outcome?, request?]

theorem ended_of_kept {t after : Table} {n : Nat}
    (kept : ∀ result, t.outcome? n = some result → after.outcome? n = some result)
    (ended : (t.outcome? n).isSome = true) : (after.outcome? n).isSome = true := by
  obtain ⟨result, done⟩ := Option.isSome_iff_exists.mp ended
  exact Option.isSome_iff_exists.mpr ⟨result, kept result done⟩

theorem outcome?_create (t : Table) {r : Request} (running : r.outcome = none) (n : Nat) :
    (t.create r).1.outcome? n = t.outcome? n := by
  cases found : t.request? n with
  | some old => rw [outcome?, request?_create_of_some found, outcome?, found]
  | none =>
    rw [outcome?, outcome?, found]
    have outside : t.requests.length ≤ n := by simpa [request?] using found
    unfold create request?
    rw [List.getElem?_append_right outside, Option.bind_none]
    rcases Nat.eq_zero_or_pos (n - t.requests.length) with first | beyond
    · rw [first]
      exact running
    · rw [List.getElem?_eq_none (by rw [List.length_singleton]; exact beyond)]
      rfl

theorem length_complete (t : Table) (n : Nat) (failure : Option Failure) :
    (t.complete n failure).1.requests.length = t.requests.length := by
  rw [complete_fst, update, List.length_modify]

theorem length_handle (t : Table) (n : Nat) (handler : Handler) :
    (t.handle n handler).1.requests.length = t.requests.length := by
  rw [handle_fst, update, List.length_modify]

end Table

end MarketLink.Correlation
