import MarketLink.Proofs.Correlation.TaskStep

set_option autoImplicit false

namespace MarketLink.Correlation

/-- What an open request with this in its slot comes to when a handler sees the slot and nothing
else follows. -/
def Handler.result (handler : Handler) (slot : Slot) : Except Failure Slot :=
  match (handler slot).verdict with
  | .ok _ => .ok (handler slot).slot
  | .error failure => .error failure

def Request.Holds (r : Request) (slot : Slot) : Prop := r.slot = some slot ∧ r.outcome = none

/-- A handler puts its items behind those that are there, and leaves what it makes of the slot. -/
theorem Request.handle_of_holds {r : Request} {slot : Slot} (holds : r.Holds slot)
    (handler : Handler) :
    r.handle handler =
      ({ r with slot := some (handler slot).slot, items := r.items ++ (handler slot).items },
        some (handler slot).verdict) := by
  obtain ⟨held, running⟩ := holds
  have unfinished : r.isDone = false := by simp [Request.isDone, running]
  simp [Request.handle, unfinished, held]

namespace Table

/-- Creates a request that is answered by a code and makes it pending; gives its number. -/
def join (t : Table) (code : Int) (slot : Slot) (streaming : Bool) : Table × Nat :=
  let (drawn, key) := t.keyOfCode code
  let (created, n) := drawn.create (Request.new key slot streaming)
  ((created.register n).1, n)

section Join

variable (t : Table) (code : Int) (slot : Slot) (streaming : Bool)

theorem join_fst :
    (t.join code slot streaming).1 =
      ((t.keyOfCode code).1.create (Request.new (t.keyOfCode code).2 slot streaming)).1.setQueue
        code (t.queue code ++ [t.requests.length]) := by
  have waits : ((t.keyOfCode code).1.create
      (Request.new (t.keyOfCode code).2 slot streaming)).1.codeOf? t.requests.length =
        some code := by
    simp [codeOf?, request?, create, keyOfCode, Request.new, Key.code?]
  exact congrArg Prod.fst (register_of_code waits)

theorem queue_join :
    (t.join code slot streaming).1.queue code = t.queue code ++ [t.requests.length] := by
  rw [join_fst, queue_setQueue, if_pos rfl]

theorem request?_join_self :
    ∃ r, (t.join code slot streaming).1.request? t.requests.length = some r ∧ r.Holds slot ∧
      r.key.code? = some code := by
  refine ⟨Request.new (t.keyOfCode code).2 slot streaming, ?_, ⟨rfl, rfl⟩, rfl⟩
  rw [join_fst, request?_setQueue]
  simp [request?, create, keyOfCode]

variable {t} in
theorem request?_join_of_some {m : Nat} {old : Request} (found : t.request? m = some old) :
    (t.join code slot streaming).1.request? m = some old := by
  have there : (t.keyOfCode code).1.request? m = some old := found
  rw [join_fst, request?_setQueue, request?_create_of_some there]

variable {t} in
theorem codeOf?_join_of_some {m : Nat} {other : Int} (waits : t.codeOf? m = some other) :
    (t.join code slot streaming).1.codeOf? m = some other := by
  obtain ⟨old, found, waits⟩ := Option.bind_eq_some_iff.mp waits
  rw [codeOf?, request?_join_of_some code slot streaming found]
  exact waits

theorem codeOf?_join_self :
    (t.join code slot streaming).1.codeOf? t.requests.length = some code := by
  obtain ⟨r, found, _, waits⟩ := t.request?_join_self code slot streaming
  rw [codeOf?, found]
  exact waits

variable {t} in
theorem outcome?_join_of_some {m : Nat} {result : Except Failure Slot}
    (ended : t.outcome? m = some result) :
    (t.join code slot streaming).1.outcome? m = some result := by
  obtain ⟨old, found, ended⟩ := Option.bind_eq_some_iff.mp ended
  rw [outcome?, request?_join_of_some code slot streaming found]
  exact ended

end Join

theorem requests_unregister (t : Table) (n : Nat) : (t.unregister n).requests = t.requests := by
  rcases t.carried_cases n with absent | ⟨id, carried⟩ | ⟨code, waits⟩
  · rw [unregister_of_absent absent]
  · rw [unregister_of_id carried]
    split <;> rfl
  · rw [unregister_of_code waits]
    rfl

@[simp] theorem request?_unregister (t : Table) (n m : Nat) :
    (t.unregister n).request? m = t.request? m := by
  rw [request?, requests_unregister, request?]

theorem request?_complete_of_ne (t : Table) {n m : Nat} (other : m ≠ n)
    (failure : Option Failure) : (t.complete n failure).1.request? m = t.request? m := by
  rw [complete_fst, request?_update, if_neg (Ne.symm other)]

theorem request?_handle_of_ne (t : Table) {n m : Nat} (other : m ≠ n) (handler : Handler) :
    (t.handle n handler).1.request? m = t.request? m := by
  rw [handle_fst, request?_update, if_neg (Ne.symm other)]

theorem queue_complete (t : Table) (n : Nat) (failure : Option Failure) (code : Int) :
    (t.complete n failure).1.queue code = t.queue code := by
  rw [complete_fst, queue_update]

theorem queue_handle (t : Table) (n : Nat) (handler : Handler) (code : Int) :
    (t.handle n handler).1.queue code = t.queue code := by
  rw [handle_fst, queue_update]

theorem codeOf?_complete (t : Table) (n m : Nat) (failure : Option Failure) :
    (t.complete n failure).1.codeOf? m = t.codeOf? m := by
  rw [complete_fst]
  exact codeOf?_update t n m _ fun r => r.key_complete failure

theorem codeOf?_handle (t : Table) (n m : Nat) (handler : Handler) :
    (t.handle n handler).1.codeOf? m = t.codeOf? m := by
  rw [handle_fst]
  exact codeOf?_update t n m _ fun r => r.key_handle handler

theorem codeOf?_unregister (t : Table) (n m : Nat) :
    (t.unregister n).codeOf? m = t.codeOf? m := by
  rw [codeOf?, request?_unregister, codeOf?]

/-- Giving up a request without an id leaves it in its queue. -/
theorem abandon_of_code {t : Table} {n : Nat} {code : Int} (waits : t.codeOf? n = some code) :
    t.abandon n = t.complete n (some .cancelled) := by
  obtain ⟨seq, kept⟩ := key_of_codeOf? waits
  rw [abandon, kept]

theorem abandon_of_codeOf?_eq_none {t : Table} {n : Nat} (free : t.codeOf? n = none) :
    t.abandon n = t.cancel n .cancelled := by
  unfold abandon
  split
  · rename_i code seq kept
    obtain ⟨r, found, same⟩ := Option.map_eq_some_iff.mp kept
    rw [codeOf?, found, Option.bind_some, same] at free
    cases free
  · rfl

theorem queue_cancel {t : Table} {n : Nat} {code : Int} (waits : t.codeOf? n = some code)
    (failure : Failure) :
    (t.cancel n failure).1.queue code = (t.queue code).filter fun m => m != n := by
  rw [cancel, queue_complete, unregister_of_code waits, queue_setQueue, if_pos rfl]

theorem request?_cancel_of_ne (t : Table) {n m : Nat} (other : m ≠ n) (failure : Failure) :
    (t.cancel n failure).1.request? m = t.request? m := by
  rw [cancel, request?_complete_of_ne _ other, request?_unregister]

theorem outcome?_cancel_of_some {t : Table} {m : Nat} {result : Except Failure Slot}
    (ended : t.outcome? m = some result) (n : Nat) (failure : Failure) :
    (t.cancel n failure).1.outcome? m = some result := by
  apply outcome?_complete_of_some
  rw [outcome?_of_requests (t.requests_unregister n), ended]

theorem outcome?_abandon_of_some {t : Table} {m : Nat} {result : Except Failure Slot}
    (ended : t.outcome? m = some result) (n : Nat) :
    (t.abandon n).1.outcome? m = some result := by
  unfold abandon
  split
  · exact outcome?_complete_of_some ended n _
  · exact outcome?_cancel_of_some ended n _

/-- The steps behind a verdict: nothing, or the request is taken out and completed. -/
theorem conclude_cases (t : Table) (n : Nat) (verdict : Option (Except Failure Bool)) :
    t.conclude n verdict = t ∨
      ∃ failure, t.conclude n verdict = ((t.unregister n).complete n failure).1 := by
  rcases verdict with none | failure | last
  · exact Or.inl rfl
  · exact Or.inr ⟨some failure, rfl⟩
  · cases last with
    | false => exact Or.inl rfl
    | true => exact Or.inr ⟨none, rfl⟩

theorem request?_conclude_of_ne (t : Table) {n m : Nat} (other : m ≠ n)
    (verdict : Option (Except Failure Bool)) :
    (t.conclude n verdict).request? m = t.request? m := by
  rcases t.conclude_cases n verdict with same | ⟨failure, same⟩
  · rw [same]
  · rw [same, request?_complete_of_ne _ other, request?_unregister]

theorem codeOf?_conclude (t : Table) (n m : Nat) (verdict : Option (Except Failure Bool)) :
    (t.conclude n verdict).codeOf? m = t.codeOf? m := by
  rcases t.conclude_cases n verdict with same | ⟨failure, same⟩
  · rw [same]
  · rw [same, codeOf?_complete, codeOf?_unregister]

theorem outcome?_conclude_of_some {t : Table} {m : Nat} {result : Except Failure Slot}
    (ended : t.outcome? m = some result) (n : Nat) (verdict : Option (Except Failure Bool)) :
    (t.conclude n verdict).outcome? m = some result := by
  rcases t.conclude_cases n verdict with same | ⟨failure, same⟩
  · rw [same, ended]
  · rw [same]
    apply outcome?_complete_of_some
    rw [outcome?_of_requests (t.requests_unregister n), ended]

theorem queue_conclude {t : Table} {n : Nat} {code : Int} (waits : t.codeOf? n = some code)
    (absent : n ∉ t.queue code) (verdict : Option (Except Failure Bool)) :
    (t.conclude n verdict).queue code = t.queue code := by
  rcases t.conclude_cases n verdict with same | ⟨failure, same⟩
  · rw [same]
  · rw [same, queue_complete, unregister_of_code waits, queue_setQueue, if_pos rfl]
    exact List.filter_bne_eq_self_of_not_mem absent

theorem dispatch_id (t : Table) (id : Int) (handler : Handler) :
    (t.dispatch (.id id) handler).1 =
      match t.pendingId? id with
      | none => t
      | some n => (t.handle n handler).1.conclude n (t.handle n handler).2 := by
  simp only [dispatch, find]
  cases t.pendingId? id <;> rfl

theorem dispatch_of_empty {t : Table} {code : Int} (nobody : t.queue code = [])
    (handler : Handler) :
    t.dispatch (.code code) handler = (t, none) := by
  simp only [dispatch, find, nobody]

/-- The oldest request leaves the queue, sees its handler, and is completed in any case. -/
theorem dispatch_of_queue {t : Table} {code : Int} {n : Nat} {rest : List Nat}
    (queue : t.queue code = n :: rest) (handler : Handler) :
    t.dispatch (.code code) handler =
      let shown := (t.setQueue code rest).handle n handler
      (((shown.1.conclude n shown.2).complete n none).1, some n) := by
  simp only [dispatch, find, queue]

section Oldest

variable {t : Table} {code : Int} {n : Nat} {rest : List Nat}

theorem request?_dispatch_of_ne (queue : t.queue code = n :: rest) (handler : Handler) {m : Nat}
    (other : m ≠ n) : (t.dispatch (.code code) handler).1.request? m = t.request? m := by
  rw [dispatch_of_queue queue]
  dsimp only
  rw [request?_complete_of_ne _ other, request?_conclude_of_ne _ other,
    request?_handle_of_ne _ other, request?_setQueue]

theorem queue_dispatch (queue : t.queue code = n :: rest) (once : (n :: rest).Nodup)
    (waits : t.codeOf? n = some code) (handler : Handler) :
    (t.dispatch (.code code) handler).1.queue code = rest := by
  have left : ((t.setQueue code rest).handle n handler).1.queue code = rest := by
    rw [queue_handle, queue_setQueue, if_pos rfl]
  rw [dispatch_of_queue queue]
  dsimp only
  rw [queue_complete, queue_conclude _ _, left]
  · rw [codeOf?_handle]
    exact waits
  · rw [left]
    exact (List.nodup_cons.mp once).1

theorem dispatch_of_ended (queue : t.queue code = n :: rest)
    (ended : (t.outcome? n).isSome = true) (handler : Handler) :
    t.dispatch (.code code) handler = (t.setQueue code rest, some n) := by
  have ended : ((t.setQueue code rest).outcome? n).isSome = true := ended
  rw [dispatch_of_queue queue, handle_of_ended ended]
  dsimp only [conclude]
  rw [complete_of_ended ended]

theorem handle_of_holds {t : Table} {n : Nat} {r : Request} {slot : Slot}
    (found : t.request? n = some r) (holds : r.Holds slot) (handler : Handler) :
    (t.handle n handler).2 = some (handler slot).verdict ∧
      ∃ shown, (t.handle n handler).1.request? n = some shown ∧
        shown.Holds (handler slot).slot := by
  have handled := Request.handle_of_holds holds handler
  refine ⟨?_, { r with slot := some (handler slot).slot, items := r.items ++ (handler slot).items },
    ?_, rfl, holds.2⟩
  · rw [handle_snd, found, Option.bind_some, handled]
  · rw [handle_fst, request?_update, if_pos rfl, found, Option.map_some, handled]

theorem outcome?_complete_of_holds {t : Table} {n : Nat} {r : Request} {slot : Slot}
    (found : t.request? n = some r) (holds : r.Holds slot) :
    (t.complete n none).1.outcome? n = some (.ok slot) := by
  rw [(complete_of_open found holds.2 none).2, holds.1]
  rfl

theorem outcome?_dispatch_of_open (queue : t.queue code = n :: rest) {r : Request} {slot : Slot}
    (found : t.request? n = some r) (holds : r.Holds slot) (handler : Handler) :
    (t.dispatch (.code code) handler).1.outcome? n = some (handler.result slot) := by
  let popped := t.setQueue code rest
  have front : popped.request? n = some r := by rw [request?_setQueue, found]
  obtain ⟨verdict, shown, there, keeps⟩ := handle_of_holds front holds handler
  have taken : ((popped.handle n handler).1.unregister n).request? n = some shown := by
    rw [request?_unregister, there]
  rw [dispatch_of_queue queue]
  dsimp only
  rw [verdict]
  unfold Handler.result
  cases said : (handler slot).verdict with
  | error failure =>
    apply outcome?_complete_of_some
    exact (complete_of_open taken keeps.2 (some failure)).2
  | ok last =>
    cases last with
    | false => exact outcome?_complete_of_holds there keeps
    | true =>
      apply outcome?_complete_of_some
      exact outcome?_complete_of_holds taken keeps

end Oldest

theorem codeOf?_dispatch (t : Table) (code : Int) (handler : Handler) (m : Nat) :
    (t.dispatch (.code code) handler).1.codeOf? m = t.codeOf? m := by
  cases queue : t.queue code with
  | nil => rw [dispatch_of_empty queue]
  | cons n rest =>
    rw [dispatch_of_queue queue]
    dsimp only
    rw [codeOf?_complete, codeOf?_conclude, codeOf?_handle]
    rfl

theorem outcome?_dispatch_of_some {t : Table} {m : Nat} {result : Except Failure Slot}
    (ended : t.outcome? m = some result) (code : Int) (handler : Handler) :
    (t.dispatch (.code code) handler).1.outcome? m = some result := by
  cases queue : t.queue code with
  | nil => rw [dispatch_of_empty queue, ended]
  | cons n rest =>
    rw [dispatch_of_queue queue]
    dsimp only
    apply outcome?_complete_of_some
    apply outcome?_conclude_of_some
    rw [outcome?_handle]
    exact ended

end Table

end MarketLink.Correlation
