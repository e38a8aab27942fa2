import MarketLink.Proofs.Correlation.Keys

set_option autoImplicit false

namespace MarketLink.Correlation

namespace Table

/-- Two tables that differ at most in one request and in where it stands. -/
structure Apart (n : Nat) (t after : Table) : Prop where
  ids : ∀ id, (after.pendingId? id).filter (· != n) = (t.pendingId? id).filter (· != n)
  queues : ∀ code, ((after.queue code).filter fun m => m != n) =
    (t.queue code).filter fun m => m != n
  requests : ∀ m, m ≠ n → after.request? m = t.request? m

/-- Nothing has changed for whoever was there: under every id and in the queue of every code stand
the same requests in the same order, and those that were made are as they were. -/
structure Unchanged (t after : Table) : Prop where
  ids : ∀ id, after.byId.lookup id = t.byId.lookup id
  codes : ∀ code, after.byCode.lookup code = t.byCode.lookup code
  requests : ∀ m r, t.request? m = some r → after.request? m = some r

theorem Unchanged.refl (t : Table) : Unchanged t t :=
  ⟨fun _ => rfl, fun _ => rfl, fun _ _ found => found⟩

theorem Unchanged.of_rows {t after : Table} (ids : after.byId = t.byId)
    (codes : after.byCode = t.byCode) (requests : after.requests = t.requests) :
    Unchanged t after := by
  refine ⟨fun id => by rw [ids], fun code => by rw [codes], fun m r found => ?_⟩
  rw [request?, requests]
  exact found

theorem Unchanged.trans {first second third : Table} (before : Unchanged first second)
    (next : Unchanged second third) : Unchanged first third :=
  ⟨fun id => (next.ids id).trans (before.ids id),
    fun code => (next.codes code).trans (before.codes code),
    fun m r found => next.requests m r (before.requests m r found)⟩

section Apart

variable {n m : Nat} {t after : Table} {r : Request}

theorem Apart.refl (n : Nat) (t : Table) : Apart n t t :=
  ⟨fun _ => rfl, fun _ => rfl, fun _ _ => rfl⟩

theorem Apart.trans {first second third : Table} (before : Apart n first second)
    (next : Apart n second third) : Apart n first third :=
  ⟨fun id => (next.ids id).trans (before.ids id),
    fun code => (next.queues code).trans (before.queues code),
    fun m other => (next.requests m other).trans (before.requests m other)⟩

theorem Apart.mem_pending (apart : Apart n t after) (rows : t.Rows) (rowsAfter : after.Rows)
    (other : m ≠ n) : m ∈ after.pending ↔ m ∈ t.pending := by
  have ids : ∀ id, after.pendingId? id = some m ↔ t.pendingId? id = some m := by
    intro id
    have same : (after.pendingId? id).filter (· != n) = some m ↔
        (t.pendingId? id).filter (· != n) = some m := by rw [apart.ids id]
    simpa [Option.filter_eq_some_iff, other] using same
  have queues : ∀ code, m ∈ after.queue code ↔ m ∈ t.queue code := by
    intro code
    have same : m ∈ ((after.queue code).filter fun m => m != n) ↔
        m ∈ ((t.queue code).filter fun m => m != n) := by rw [apart.queues code]
    simpa [other] using same
  rw [rows.mem_pending, rowsAfter.mem_pending]
  simp only [ids, queues]

/-- What is stored for a code is its queue, unless nobody waits. -/
theorem Rows.lookup_byCode (rows : t.Rows) (code : Int) :
    t.byCode.lookup code = if t.queue code = [] then none else some (t.queue code) := by
  unfold Table.queue
  cases found : t.byCode.lookup code with
  | none => rfl
  | some waiting =>
    have filled := rows.filled (code, waiting) ((mem_iff_lookup rows.distinctCodes _ _).mpr found)
    exact (if_neg filled).symm

/-- Once the request stands nowhere, the table is as it was without it. -/
theorem Apart.unchanged (apart : Apart n t after) (rows : t.Rows) (rowsAfter : after.Rows)
    (fresh : t.request? n = none) (out : n ∉ t.pending) (outAfter : n ∉ after.pending) :
    Unchanged t after := by
  rw [rows.mem_pending, not_or, not_exists, not_exists] at out
  rw [rowsAfter.mem_pending, not_or, not_exists, not_exists] at outAfter
  have elsewhere : ∀ place : Option Nat, place ≠ some n → place.filter (· != n) = place := by
    intro place other
    cases place with
    | none => rfl
    | some m => simpa using fun same => other (congrArg some same)
  have queues : ∀ code, after.queue code = t.queue code := by
    intro code
    have same := apart.queues code
    rwa [List.filter_bne_eq_self_of_not_mem (outAfter.2 code),
      List.filter_bne_eq_self_of_not_mem (out.2 code)] at same
  refine ⟨?_, ?_, ?_⟩
  · intro id
    have same := apart.ids id
    rwa [elsewhere _ (outAfter.1 id), elsewhere _ (out.1 id)] at same
  · intro code
    rw [rows.lookup_byCode, rowsAfter.lookup_byCode, queues]
  · intro m r found
    rw [apart.requests m, found]
    rintro rfl
    rw [fresh] at found
    cases found

theorem apart_create (t : Table) (r : Request) : Apart t.requests.length t (t.create r).1 := by
  refine ⟨fun _ => rfl, fun _ => rfl, fun m other => ?_⟩
  show (t.requests ++ [r])[m]? = t.requests[m]?
  rcases Nat.lt_or_gt_of_ne other with before | behind
  · exact List.getElem?_append_left before
  · rw [List.getElem?_eq_none (by simp; omega), List.getElem?_eq_none (by omega)]

theorem apart_register (t : Table) (n : Nat) : Apart n t (t.register n).1 := by
  rcases t.register_cases n with same | ⟨id, _, free, same⟩ | ⟨code, _, same⟩
  · rw [same]
    exact .refl n t
  · rw [same]
    refine ⟨fun other => ?_, fun _ => rfl, fun _ _ => rfl⟩
    rw [pendingId?_pushId]
    split
    · rename_i own
      rw [own, free]
      simp
    · rfl
  · rw [same]
    refine ⟨fun _ => rfl, fun other => ?_, fun _ _ => rfl⟩
    rw [queue_setQueue]
    split
    · rename_i own
      rw [own]
      simp
    · rfl

theorem Filed.apart_unregister (filed : t.Filed) (n : Nat) : Apart n t (t.unregister n) := by
  have out := filed.without_unregister n
  refine ⟨fun id => ?_, fun code => ?_, fun m _ => ?_⟩
  · rw [out.ids]
    split
    · rename_i own
      rw [own]
      simp [Option.filter]
    · rfl
  · rw [out.queues, List.filter_filter]
    simp
  · rw [request?, out.requests, request?]

theorem apart_complete (t : Table) (n : Nat) (failure : Option Failure) :
    Apart n t (t.complete n failure).1 := by
  rw [complete_fst]
  refine ⟨fun _ => rfl, fun _ => rfl, fun m other => ?_⟩
  rw [request?_update, if_neg other.symm]

theorem Filed.enroll_result (filed : t.Filed) (r : Request) :
    (t.enroll r).2 = .ok () ∧ t.requests.length ∈ (t.enroll r).1.pending ∨
      (∃ failure, (t.enroll r).2 = .error failure) ∧ (t.enroll r).1 = (t.create r).1 := by
  refine (filed.create r).register_result ?_ fun member => ?_
  · show t.requests.length < (t.requests ++ [r]).length
    simp
  · exact Nat.lt_irrefl _ (filed.inside_of_pending member)

theorem unchanged_create (t : Table) (r : Request) : Unchanged t (t.create r).1 :=
  ⟨fun _ => rfl, fun _ => rfl, fun _ _ found => request?_create_of_some found r⟩

/-- A request that comes into the table and is taken back changes nothing. -/
theorem Filed.unchanged_cancel_enroll (filed : t.Filed) (r : Request) (failure : Failure) :
    Unchanged t ((t.enroll r).1.cancel t.requests.length failure).1 := by
  have enrolled := filed.enroll r
  have removed := enrolled.without_unregister t.requests.length
  have absent : t.requests.length ∉ t.pending := fun member =>
    Nat.lt_irrefl _ (filed.inside_of_pending member)
  have apart : Apart t.requests.length t ((t.enroll r).1.cancel t.requests.length failure).1 :=
    (((t.apart_create r).trans (apart_register _ _)).trans (enrolled.apart_unregister _)).trans
      (apart_complete _ _ _)
  refine apart.unchanged filed.toRows ((removed.filed enrolled).complete _ _).toRows
    (List.getElem?_eq_none (Nat.le_refl _)) absent ?_
  rw [cancel, pending_complete, removed.mem_pending enrolled.toRows]
  exact fun member => member.2 rfl

end Apart

end Table

end MarketLink.Correlation
