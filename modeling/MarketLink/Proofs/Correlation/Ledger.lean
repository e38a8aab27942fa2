import MarketLink.Proofs.Correlation.Reply

set_option autoImplicit false

namespace MarketLink.Correlation

namespace Table

/-- A table into which these requests were let, the oldest first, while of those taken out some are
still to be completed. -/
structure Coherent (t : Table) (entered owed : List Nat) : Prop extends Filed t where
  created : ∀ n ∈ entered, n < t.requests.length
  once : entered.Nodup
  listed : ∀ n ∈ t.pending, n ∈ entered
  inOrder : ∀ code, (t.queue code).Sublist entered
  running : ∀ id n, t.pendingId? id = some n → t.outcome? n = none
  standing : ∀ n ∈ entered, t.outcome? n = none → n ∈ t.pending ∨ n ∈ owed

section Coherent

variable {t : Table} {entered owed : List Nat}

theorem Coherent.weaken (coherent : t.Coherent entered owed) (n : Nat) :
    t.Coherent entered (n :: owed) :=
  { coherent with
    standing := fun m member runs =>
      (coherent.standing m member runs).imp_right (List.mem_cons_of_mem n) }

/-- A change that leaves every request where it stands and as it has ended. -/
theorem Coherent.of_places (coherent : t.Coherent entered owed) {after : Table}
    (filed : after.Filed) (ids : after.byId = t.byId) (codes : after.byCode = t.byCode)
    (length : t.requests.length ≤ after.requests.length)
    (outcomes : ∀ n, after.outcome? n = t.outcome? n) : after.Coherent entered owed := by
  have pending : after.pending = t.pending := by rw [Table.pending, ids, codes, Table.pending]
  refine { filed with
    created := fun n member => Nat.lt_of_lt_of_le (coherent.created n member) length
    once := coherent.once
    listed := fun n member => coherent.listed n (pending ▸ member)
    inOrder := ?_, running := ?_, standing := ?_ }
  · intro code
    rw [queue, codes]
    exact coherent.inOrder code
  · intro id n found
    rw [pendingId?, ids] at found
    rw [outcomes]
    exact coherent.running id n found
  · intro n member runs
    rw [outcomes] at runs
    rw [pending]
    exact coherent.standing n member runs

theorem Coherent.of_counters (coherent : t.Coherent entered owed) {after : Table}
    (requests : after.requests = t.requests) (ids : after.byId = t.byId)
    (codes : after.byCode = t.byCode) : after.Coherent entered owed := by
  have same : ∀ n, after.request? n = t.request? n := fun n => by
    rw [request?, requests, request?]
  refine coherent.of_places (coherent.toFiled.of_keys ids codes ?_ ?_) ids codes
    (Nat.le_of_eq (congrArg List.length requests.symm)) (outcome?_of_requests requests)
  · intro n id carried
    rw [idOf?, same]
    exact carried
  · intro n code waits
    rw [codeOf?, same]
    exact waits

theorem Coherent.without (coherent : t.Coherent entered owed) {n : Nat} {after : Table}
    (out : Without t n after) : after.Coherent entered (n :: owed) := by
  have outcomes := outcome?_of_requests out.requests
  have pending := out.mem_pending coherent.toRows
  refine { out.filed coherent.toFiled with
    created := fun m member => out.requests ▸ coherent.created m member
    once := coherent.once
    listed := fun m member => coherent.listed m ((pending m).mp member).1
    inOrder := ?_, running := ?_, standing := ?_ }
  · intro code
    rw [out.queues]
    exact List.filter_sublist.trans (coherent.inOrder code)
  · intro id m found
    rw [out.ids] at found
    split at found
    · cases found
    · rw [outcomes]
      exact coherent.running id m found
  · intro m member runs
    rw [outcomes] at runs
    by_cases same : m = n
    · exact Or.inr (same ▸ List.mem_cons_self)
    · rcases coherent.standing m member runs with stands | owes
      · exact Or.inl ((pending m).mpr ⟨stands, same⟩)
      · exact Or.inr (List.mem_cons_of_mem n owes)

theorem Coherent.complete {n : Nat} (coherent : t.Coherent entered (n :: owed))
    (out : ∀ id, t.pendingId? id ≠ some n) (failure : Option Failure) :
    (t.complete n failure).1.Coherent entered owed := by
  have pending := t.pending_complete n failure
  refine { coherent.toFiled.complete n failure with
    created := fun m member => (t.length_complete n failure).symm ▸ coherent.created m member
    once := coherent.once
    listed := fun m member => coherent.listed m (pending ▸ member)
    inOrder := ?_, running := ?_, standing := ?_ }
  · intro code
    rw [queue_complete]
    exact coherent.inOrder code
  · intro id m found
    rw [complete_fst, pendingId?_update] at found
    have other : n ≠ m := fun same => out id (same ▸ found)
    rw [outcome?_complete_of_ne t other]
    exact coherent.running id m found
  · intro m member runs
    rw [pending]
    by_cases same : n = m
    · subst same
      have ended := ended_complete (coherent.created n member) failure
      rw [runs] at ended
      cases ended
    · rw [outcome?_complete_of_ne t same] at runs
      refine (coherent.standing m member runs).imp_right fun owes => ?_
      exact (List.mem_cons.mp owes).resolve_left (Ne.symm same)

/-- Taking a request out and completing it leaves nothing to be done. -/
theorem Coherent.settle (coherent : t.Coherent entered owed) {n : Nat} {after : Table}
    (out : Without t n after) (failure : Option Failure) :
    (after.complete n failure).1.Coherent entered owed := by
  refine (coherent.without out).complete ?_ failure
  intro id found
  have member := ((out.filed coherent.toFiled).mem_pending n).mpr (Or.inl ⟨id, found⟩)
  exact ((out.mem_pending coherent.toRows n).mp member).2 rfl

theorem Coherent.cancel (coherent : t.Coherent entered owed) (n : Nat) (failure : Failure) :
    (t.cancel n failure).1.Coherent entered owed :=
  coherent.settle (coherent.without_unregister n) (some failure)

theorem Coherent.conclude (coherent : t.Coherent entered owed) (n : Nat)
    (verdict : Option (Except Failure Bool)) : (t.conclude n verdict).Coherent entered owed := by
  rcases t.conclude_cases n verdict with same | ⟨failure, same⟩
  · rw [same]
    exact coherent
  · rw [same]
    exact coherent.settle (coherent.without_unregister n) failure

theorem Coherent.handle (coherent : t.Coherent entered owed) (n : Nat) (handler : Handler) :
    (t.handle n handler).1.Coherent entered owed := by
  refine coherent.of_places (coherent.toFiled.handle n handler) ?_ ?_
    (Nat.le_of_eq (t.length_handle n handler).symm) fun m => t.outcome?_handle n m handler
  · rw [handle_fst, update]
  · rw [handle_fst, update]

/-- A reply by its code leaves its request completed, whatever the verdict was. -/
theorem Coherent.dispatch (coherent : t.Coherent entered []) (target : Target)
    (handler : Handler) : (t.dispatch target handler).1.Coherent entered [] := by
  unfold Table.dispatch
  rcases t.find_cases target with found | ⟨id, n, rfl, _, found⟩ |
    ⟨code, n, rest, rfl, queue, found⟩
  · rw [found]
    exact coherent
  · rw [found]
    exact (coherent.handle n handler).conclude n _
  · rw [found]
    have waits : t.codeOf? n = some code := coherent.ofCode _ _ (queue ▸ List.mem_cons_self)
    have shown := ((coherent.without (coherent.without_find queue)).handle n handler).conclude n
      ((t.setQueue code rest).handle n handler).2
    have still : (((t.setQueue code rest).handle n handler).1.conclude n
        ((t.setQueue code rest).handle n handler).2).codeOf? n = some code := by
      rw [codeOf?_conclude, codeOf?_handle]
      exact waits
    exact shown.complete (shown.not_found_of_code still) none

theorem Coherent.fail (coherent : t.Coherent entered owed) (id : Int) (failure : Failure) :
    (t.fail id failure).1.Coherent entered owed := by
  unfold Table.fail takeId
  cases found : t.pendingId? id with
  | none =>
    rw [eraseId_of_absent found]
    exact coherent
  | some n => exact coherent.settle (coherent.without_eraseId found) (some failure)

theorem Coherent.complete_of_code (coherent : t.Coherent entered owed) {n : Nat} {code : Int}
    (waits : t.codeOf? n = some code) (failure : Option Failure) :
    (t.complete n failure).1.Coherent entered owed :=
  (coherent.weaken n).complete (coherent.not_found_of_code waits) failure

theorem Coherent.abandon (coherent : t.Coherent entered owed) (n : Nat) :
    (t.abandon n).1.Coherent entered owed := by
  cases waits : t.codeOf? n with
  | some code =>
    rw [abandon_of_code waits]
    exact coherent.complete_of_code waits _
  | none =>
    rw [abandon_of_codeOf?_eq_none waits]
    exact coherent.cancel n .cancelled

theorem Coherent.takeAll (coherent : t.Coherent entered []) :
    t.takeAll.1.Coherent entered t.takeAll.2 := by
  refine { filed_empty t.takeAll.1 rfl rfl with
    created := coherent.created
    once := coherent.once
    listed := ?_, inOrder := ?_, running := ?_, standing := ?_ }
  · intro n member
    cases member
  · intro code
    exact List.nil_sublist entered
  · intro id n found
    cases found
  · intro n member runs
    exact Or.inr ((coherent.standing n member runs).resolve_right List.not_mem_nil)

theorem Coherent.completeAll {numbers : List Nat} (coherent : t.Coherent entered numbers)
    (blank : t.byId = []) (failure : Failure) :
    (t.completeAll numbers failure).Coherent entered [] := by
  induction numbers generalizing t with
  | nil => exact coherent
  | cons n rest ih =>
    refine ih (coherent.complete ?_ (some failure)) ?_
    · intro id found
      rw [pendingId?, blank] at found
      cases found
    · show (t.complete n (some failure)).1.byId = []
      rw [complete_fst, update]
      exact blank

theorem Coherent.teardown (coherent : t.Coherent entered []) (failure : Failure) :
    (t.teardown failure).Coherent entered [] :=
  coherent.takeAll.completeAll rfl failure

theorem Coherent.create (coherent : t.Coherent entered owed) (r : Request)
    (fresh : r.outcome = none) : (t.create r).1.Coherent entered owed := by
  refine coherent.of_places (coherent.toFiled.create r) rfl rfl ?_ (t.outcome?_create fresh)
  simp [Table.create]

/-- A request that is let in stands behind those that were let in before. -/
theorem Coherent.register (coherent : t.Coherent entered []) {n : Nat} {r : Request}
    (found : t.request? n = some r) (fresh : r.outcome = none) (first : n ∉ entered)
    (letIn : n ∈ (t.register n).1.pending) : (t.register n).1.Coherent (entered ++ [n]) [] := by
  have absent : n ∉ t.pending := fun member => first (coherent.listed n member)
  have requests := t.requests_register n
  have outcomes := outcome?_of_requests requests
  have runs : t.outcome? n = none := by rw [outcome?, found, Option.bind_some, fresh]
  refine { coherent.toFiled.register absent with
    created := ?_, once := nodup_append_singleton coherent.once first, listed := ?_, inOrder := ?_,
    running := ?_, standing := ?_ }
  · intro m member
    rw [requests]
    rcases List.mem_append.mp member with old | new
    · exact coherent.created m old
    · rw [List.mem_singleton.mp new]
      exact (List.getElem?_eq_some_iff.mp found).1
  · intro m member
    rcases coherent.mem_pending_register absent member with old | rfl
    · exact List.mem_append_left _ (coherent.listed m old)
    · exact List.mem_append_right _ (List.mem_singleton_self m)
  · intro code
    have grown := (coherent.inOrder code).trans (List.sublist_append_left entered [n])
    rcases t.register_cases n with same | ⟨_, _, _, same⟩ | ⟨waited, _, same⟩
    · rw [same]
      exact grown
    · rw [same]
      exact grown
    · rw [same, queue_setQueue]
      split
      · exact (coherent.inOrder waited).append (List.Sublist.refl [n])
      · exact grown
  · intro id m pending
    rw [outcomes]
    rcases t.register_cases n with same | ⟨_, _, _, same⟩ | ⟨_, _, same⟩
    · rw [same] at pending
      exact coherent.running id m pending
    · rw [same, pendingId?_pushId] at pending
      split at pending
      · cases pending
        exact runs
      · exact coherent.running id m pending
    · rw [same, pendingId?_setQueue] at pending
      exact coherent.running id m pending
  · intro m member open_
    rw [outcomes] at open_
    by_cases same : m = n
    · exact Or.inl (same ▸ letIn)
    · rcases List.mem_append.mp member with old | new
      · have stood := (coherent.standing m old open_).resolve_right List.not_mem_nil
        exact Or.inl ((coherent.mem_pending_register_of_ne absent same).mpr stood)
      · exact absurd (List.mem_singleton.mp new) same

end Coherent

end Table

/-- A table with the requests that it has let in, the oldest first. -/
structure Ledger where
  table : Table := Table.empty
  entered : List Nat := []

namespace Ledger

/-- Whether an operation may be asked for. A request is registered before it has ended, and not
again once it was let in. A request is completed where it stands only if it waits for a code, which
is what giving it up does; every other operation that completes requests also takes them out. -/
def permits (l : Ledger) : Operation → Bool
  | .register n => (l.table.request? n).any (fun r => !r.isDone) && !l.entered.contains n
  | .complete n _ => (l.table.codeOf? n).isSome
  | .seed _ | .allocate | .create _ _ _ | .hangUp _ | .dispatch _ _ | .handle _ _ | .cancel _ _
  | .abandon _ | .fail _ _ | .teardown _ => true

/-- The requests that were let in, after one more operation with this answer. -/
def noted (entered : List Nat) : Operation → Answer → List Nat
  | .register n, .registered (.ok ()) => entered ++ [n]
  | _, _ => entered

/-- Carries out one operation; one that may not be asked for does not happen. -/
def step (l : Ledger) (operation : Operation) : Ledger :=
  if l.permits operation then
    let (table, answer) := l.table.perform operation
    { table, entered := noted l.entered operation answer }
  else l

def run (l : Ledger) (operations : List Operation) : Ledger := operations.foldl step l

/-- Nothing is left to be done between two operations. -/
def Sound (l : Ledger) : Prop := l.table.Coherent l.entered []

theorem sound_empty : Sound {} := by
  refine { Table.filed_empty _ rfl rfl with
    created := ?_, once := List.nodup_nil, listed := ?_, inOrder := ?_, running := ?_,
    standing := ?_ }
  · intro n member
    cases member
  · intro n member
    cases member
  · intro code
    exact List.Sublist.refl []
  · intro id n found
    cases found
  · intro n member
    cases member

theorem Sound.register {l : Ledger} (sound : l.Sound) (n : Nat) :
    (l.step (.register n)).Sound := by
  unfold step
  split
  · rename_i permitted
    simp only [permits, Bool.and_eq_true, Bool.not_eq_true', Option.any_eq_true] at permitted
    obtain ⟨⟨r, found, running⟩, first⟩ := permitted
    have fresh : r.outcome = none := by simpa [Request.isDone] using running
    have first : n ∉ l.entered := by simpa using first
    have inside : n < l.table.requests.length := (List.getElem?_eq_some_iff.mp found).1
    have absent : n ∉ l.table.pending := fun member => first (sound.listed n member)
    rcases sound.register_result inside absent with ⟨letIn, stands⟩ | ⟨⟨failure, refused⟩, same⟩
    · simp only [Table.perform, letIn, noted]
      exact Table.Coherent.register sound found fresh first stands
    · simp only [Table.perform, refused, same, noted]
      exact sound
  · exact sound

theorem Sound.of_table {l : Ledger} {operation : Operation}
    (coherent : (l.table.perform operation).1.Coherent l.entered [])
    (others : ∀ answer, noted l.entered operation answer = l.entered) (sound : l.Sound) :
    (l.step operation).Sound := by
  unfold step
  split
  · show ((l.table.perform operation).1).Coherent (noted l.entered operation _) []
    rw [others]
    exact coherent
  · exact sound

theorem Sound.create {l : Ledger} (sound : l.Sound) (key : NewKey) (slot : Slot)
    (streaming : Bool) :
    (l.table.perform (.create key slot streaming)).1.Coherent l.entered [] := by
  have drawn : (l.table.newKey key).1.Coherent l.entered [] := by
    cases key with
    | withId _ | ticker _ => exact sound
    | withoutId code => exact sound.of_counters rfl rfl rfl
  exact drawn.create _ rfl

/-- Every operation that may be asked for keeps what holds between operations. -/
theorem Sound.step {l : Ledger} (sound : l.Sound) (operation : Operation) :
    (l.step operation).Sound := by
  cases operation with
  | register n => exact sound.register n
  | create key slot streaming =>
    exact Sound.of_table (sound.create key slot streaming) (fun _ => rfl) sound
  | seed first => exact Sound.of_table (sound.of_counters rfl rfl rfl) (fun _ => rfl) sound
  | allocate => exact Sound.of_table (sound.of_counters rfl rfl rfl) (fun _ => rfl) sound
  | hangUp n =>
    refine Sound.of_table (sound.of_places (sound.toFiled.update n _ fun _ => rfl) rfl rfl ?_ ?_)
      (fun _ => rfl) sound
    · simp [Table.perform, Table.update]
    · exact fun m => l.table.outcome?_update n m _ fun _ => rfl
  | dispatch target handler =>
    exact Sound.of_table (Table.Coherent.dispatch sound target handler) (fun _ => rfl) sound
  | handle n handler =>
    exact Sound.of_table (Table.Coherent.handle sound n handler) (fun _ => rfl) sound
  | complete n failure =>
    unfold Ledger.step
    split
    · rename_i permitted
      obtain ⟨code, waits⟩ := Option.isSome_iff_exists.mp permitted
      exact Table.Coherent.complete_of_code sound waits failure
    · exact sound
  | cancel n failure =>
    exact Sound.of_table (Table.Coherent.cancel sound n failure) (fun _ => rfl) sound
  | abandon n => exact Sound.of_table (Table.Coherent.abandon sound n) (fun _ => rfl) sound
  | fail id failure =>
    exact Sound.of_table (Table.Coherent.fail sound id failure) (fun _ => rfl) sound
  | teardown failure =>
    exact Sound.of_table (Table.Coherent.teardown sound failure) (fun _ => rfl) sound

theorem Sound.run {l : Ledger} (sound : l.Sound) (operations : List Operation) :
    (l.run operations).Sound := by
  induction operations generalizing l with
  | nil => exact sound
  | cons operation rest ih => exact ih (sound.step operation)

/-- After every run of operations: what stands under an id carries that id and is open; a queue is
not empty and holds requests that wait for its code, each once and in the order of registration; no
request stands in two places; every open request that was let in stands in its place; and whoever
comes with an id under which a request is pending is refused, which changes nothing. -/
theorem tables_are_in_order_after_every_run (operations : List Operation) :
    let l := run {} operations
    let t := l.table
    ((t.byId.map Prod.fst).Nodup ∧ ∀ id n, (id, n) ∈ t.byId →
      ∃ r, t.request? n = some r ∧ r.key.id? = some id ∧ r.isDone = false) ∧
    ((t.byCode.map Prod.fst).Nodup ∧ ∀ code queue, (code, queue) ∈ t.byCode →
      queue ≠ [] ∧ queue.Nodup ∧ queue.Sublist l.entered ∧
        ∀ n ∈ queue, ∃ r, t.request? n = some r ∧ r.key.code? = some code) ∧
    l.entered.Nodup ∧
    (t.byId.map Prod.snd ++ t.byCode.flatMap Prod.snd).Nodup ∧
    (∀ n ∈ l.entered, ∃ r, t.request? n = some r ∧ (r.isDone = false →
      (∃ id, r.key.id? = some id ∧ (id, n) ∈ t.byId) ∨
        ∃ code queue, r.key.code? = some code ∧ (code, queue) ∈ t.byCode ∧ n ∈ queue)) ∧
    ∀ n id m, t.idOf? n = some id → (id, m) ∈ t.byId →
      t.register n = (t, .error (.internal ("id " ++ toString id ++ " is already pending"))) := by
  intro l t
  have sound : l.Sound := sound_empty.run operations
  refine ⟨⟨sound.distinctIds, ?_⟩, ⟨sound.distinctCodes, ?_⟩, sound.once,
    sound.nodup_pending, ?_, ?_⟩
  · intro id n member
    have pending := (sound.mem_byId id n).mp member
    obtain ⟨r, found, carried⟩ := Option.bind_eq_some_iff.mp (sound.ofId id n pending)
    have running := sound.running id n pending
    rw [Table.outcome?, found, Option.bind_some] at running
    exact ⟨r, found, carried, by rw [Request.isDone, running, Option.isSome_none]⟩
  · intro code queue row
    rw [← sound.queue_of_mem row]
    refine ⟨?_, sound.inLine code, sound.inOrder code, ?_⟩
    · rw [sound.queue_of_mem row]
      exact sound.filled _ row
    · intro n inside
      exact Option.bind_eq_some_iff.mp (sound.ofCode code n inside)
  · intro n entered
    have inside : n < t.requests.length := sound.created n entered
    have found : t.request? n = some t.requests[n] := List.getElem?_eq_getElem inside
    refine ⟨_, found, fun running => ?_⟩
    have open_ : t.outcome? n = none := by
      rw [Table.outcome?, found, Option.bind_some]
      simpa [Request.isDone] using running
    have stands := (sound.standing n entered open_).resolve_right List.not_mem_nil
    rcases (sound.mem_pending n).mp stands with ⟨id, pending⟩ | ⟨code, queued⟩
    · have carried := sound.ofId id n pending
      rw [Table.idOf?, found, Option.bind_some] at carried
      exact Or.inl ⟨id, carried, (sound.mem_byId id n).mpr pending⟩
    · have waits := sound.ofCode code n queued
      rw [Table.codeOf?, found, Option.bind_some] at waits
      exact Or.inr ⟨code, _, waits, sound.mem_byCode_of_queued queued, queued⟩
  · intro n id m carried member
    have pending := (sound.mem_byId id m).mp member
    rw [Table.register_of_id carried, pending, Option.isSome_some, if_pos rfl]

end Ledger

end MarketLink.Correlation
