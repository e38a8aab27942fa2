import MarketLink.Proofs.Correlation.Filing

set_option autoImplicit false

namespace MarketLink.Correlation

namespace Table

theorem filed_empty (t : Table) (ids : t.byId = []) (codes : t.byCode = []) : t.Filed := by
  refine ⟨⟨by simp [ids], by simp [codes], by simp [codes]⟩, ?_, ?_, ?_⟩
  · intro id n found
    simp [pendingId?, ids] at found
  · intro code n queued
    simp [queue, codes] at queued
  · intro code
    simp [queue, codes]

/-- Requests may change in all but their keys, and new ones may be created. -/
theorem Filed.of_keys {t after : Table} (filed : t.Filed) (ids : after.byId = t.byId)
    (codes : after.byCode = t.byCode)
    (carried : ∀ n id, t.idOf? n = some id → after.idOf? n = some id)
    (waits : ∀ n code, t.codeOf? n = some code → after.codeOf? n = some code) : after.Filed := by
  have found : ∀ id, after.pendingId? id = t.pendingId? id := fun id => by
    rw [pendingId?, ids, pendingId?]
  have queued : ∀ code, after.queue code = t.queue code := fun code => by
    rw [queue, codes, queue]
  refine ⟨⟨ids ▸ filed.distinctIds, codes ▸ filed.distinctCodes, codes ▸ filed.filled⟩, ?_, ?_, ?_⟩
  · intro id n pending
    exact carried n id (filed.ofId id n (found id ▸ pending))
  · intro code n inside
    exact waits n code (filed.ofCode code n (queued code ▸ inside))
  · intro code
    rw [queued]
    exact filed.inLine code

theorem idOf?_update (t : Table) (n m : Nat) (change : Request → Request)
    (kept : ∀ r, (change r).key = r.key) : (t.update n change).idOf? m = t.idOf? m := by
  unfold idOf?
  rw [request?_update]
  split
  · cases t.request? m <;> simp [kept]
  · rfl

theorem codeOf?_update (t : Table) (n m : Nat) (change : Request → Request)
    (kept : ∀ r, (change r).key = r.key) : (t.update n change).codeOf? m = t.codeOf? m := by
  unfold codeOf?
  rw [request?_update]
  split
  · cases t.request? m <;> simp [kept]
  · rfl

theorem Filed.update {t : Table} (filed : t.Filed) (n : Nat) (change : Request → Request)
    (kept : ∀ r, (change r).key = r.key) : (t.update n change).Filed := by
  refine filed.of_keys rfl rfl ?_ ?_
  · intro m id carried
    rw [idOf?_update t n m change kept, carried]
  · intro m code waits
    rw [codeOf?_update t n m change kept, waits]

end Table

theorem Request.key_complete (r : Request) (failure : Option Failure) :
    (r.complete failure).1.key = r.key := by
  unfold Request.complete
  split <;> rfl

theorem Request.key_handle (r : Request) (handler : Handler) :
    (r.handle handler).1.key = r.key := by
  unfold Request.handle
  split
  · rfl
  · split <;> rfl

namespace Table

theorem Filed.complete {t : Table} (filed : t.Filed) (n : Nat) (failure : Option Failure) :
    (t.complete n failure).1.Filed := by
  rw [complete_fst]
  exact filed.update n _ fun r => r.key_complete failure

theorem Filed.handle {t : Table} (filed : t.Filed) (n : Nat) (handler : Handler) :
    (t.handle n handler).1.Filed := by
  rw [handle_fst]
  exact filed.update n _ fun r => r.key_handle handler

theorem pending_complete (t : Table) (n : Nat) (failure : Option Failure) :
    (t.complete n failure).1.pending = t.pending := by
  rw [complete_fst]
  rfl

theorem pending_handle (t : Table) (n : Nat) (handler : Handler) :
    (t.handle n handler).1.pending = t.pending := by
  rw [handle_fst]
  rfl

theorem request?_create_of_some {t : Table} {m : Nat} {old : Request}
    (found : t.request? m = some old) (r : Request) : (t.create r).1.request? m = some old := by
  have inside : m < t.requests.length := (List.getElem?_eq_some_iff.mp found).1
  unfold create request?
  rw [List.getElem?_append_left inside]
  exact found

theorem Filed.create {t : Table} (filed : t.Filed) (r : Request) : (t.create r).1.Filed := by
  refine filed.of_keys rfl rfl ?_ ?_
  · intro m id carried
    obtain ⟨old, found, carried⟩ := Option.bind_eq_some_iff.mp carried
    rw [idOf?, request?_create_of_some found, Option.bind_some, carried]
  · intro m code waits
    obtain ⟨old, found, waits⟩ := Option.bind_eq_some_iff.mp waits
    rw [codeOf?, request?_create_of_some found, Option.bind_some, waits]

theorem register_cases (t : Table) (n : Nat) :
    (t.register n).1 = t ∨
      (∃ id, t.idOf? n = some id ∧ t.pendingId? id = none ∧
        (t.register n).1 = { t with byId := (id, n) :: t.byId }) ∨
      ∃ code, t.codeOf? n = some code ∧
        (t.register n).1 = t.setQueue code (t.queue code ++ [n]) := by
  rcases t.carried_cases n with absent | ⟨id, carried⟩ | ⟨code, waits⟩
  · left
    unfold register
    rw [absent]
    rfl
  · rw [register_of_id carried]
    by_cases taken : (t.pendingId? id).isSome = true
    · rw [if_pos taken]
      exact Or.inl rfl
    · rw [if_neg taken]
      exact Or.inr (Or.inl ⟨id, carried, by simpa using taken, rfl⟩)
  · rw [register_of_code waits]
    exact Or.inr (Or.inr ⟨code, waits, rfl⟩)

theorem requests_register (t : Table) (n : Nat) : (t.register n).1.requests = t.requests := by
  rcases t.register_cases n with same | ⟨_, _, _, same⟩ | ⟨_, _, same⟩
  · rw [same]
  · rw [same]
  · rw [same, setQueue]

theorem Rows.pushId {t : Table} (rows : t.Rows) {id : Int} (free : t.pendingId? id = none)
    (n : Nat) : Rows { t with byId := (id, n) :: t.byId } := by
  refine ⟨?_, rows.distinctCodes, rows.filled⟩
  rw [List.map_cons, List.nodup_cons]
  refine ⟨?_, rows.distinctIds⟩
  intro member
  obtain ⟨⟨_, m⟩, inside, rfl⟩ := List.mem_map.mp member
  have found : t.pendingId? _ = some m := (mem_iff_lookup rows.distinctIds _ _).mp inside
  rw [free] at found
  cases found

theorem pendingId?_pushId (t : Table) (id other : Int) (n : Nat) :
    Table.pendingId? { t with byId := (id, n) :: t.byId } other =
      if other = id then some n else t.pendingId? other := by
  unfold pendingId?
  by_cases same : other = id
  · subst same
    simp
  · have different : (other == id) = false := beq_eq_false_iff_ne.mpr same
    simp [List.lookup_cons, different, same]

theorem Filed.register {t : Table} (filed : t.Filed) {n : Nat} (fresh : n ∉ t.pending) :
    (t.register n).1.Filed := by
  rw [filed.mem_pending, not_or, not_exists, not_exists] at fresh
  rcases t.register_cases n with same | ⟨id, carried, free, same⟩ | ⟨code, waits, same⟩
  · rw [same]
    exact filed
  · rw [same]
    refine ⟨filed.toRows.pushId free n, ?_, filed.ofCode, filed.inLine⟩
    intro other m found
    rw [pendingId?_pushId] at found
    split at found
    · rename_i this
      cases found
      exact this ▸ carried
    · exact filed.ofId other m found
  · rw [same]
    refine ⟨filed.toRows.setQueue _ _, filed.ofId, ?_, ?_⟩
    · intro other m queued
      rw [queue_setQueue] at queued
      split at queued
      · rename_i this
        subst this
        rcases List.mem_append.mp queued with old | new
        · exact filed.ofCode _ _ old
        · rw [List.mem_singleton.mp new]
          exact waits
      · exact filed.ofCode _ _ queued
    · intro other
      rw [queue_setQueue]
      split
      · exact nodup_append_singleton (filed.inLine code) (fresh.2 code)
      · exact filed.inLine other

theorem Filed.mem_pending_register {t : Table} (filed : t.Filed) {n : Nat}
    (fresh : n ∉ t.pending) {m : Nat} (inside : m ∈ (t.register n).1.pending) :
    m ∈ t.pending ∨ m = n := by
  rw [(filed.register fresh).mem_pending] at inside
  rw [filed.mem_pending]
  rcases t.register_cases n with same | ⟨id, _, _, same⟩ | ⟨code, _, same⟩
  · rw [same] at inside
    exact Or.inl inside
  · rw [same] at inside
    rcases inside with ⟨other, found⟩ | queued
    · rw [pendingId?_pushId] at found
      split at found
      · cases found
        exact Or.inr rfl
      · exact Or.inl (Or.inl ⟨other, found⟩)
    · exact Or.inl (Or.inr queued)
  · rw [same] at inside
    rcases inside with found | ⟨other, queued⟩
    · exact Or.inl (Or.inl found)
    · rw [queue_setQueue] at queued
      split at queued
      · rcases List.mem_append.mp queued with old | new
        · exact Or.inl (Or.inr ⟨code, old⟩)
        · exact Or.inr (List.mem_singleton.mp new)
      · exact Or.inl (Or.inr ⟨other, queued⟩)

theorem Filed.mem_pending_register_of_ne {t : Table} (filed : t.Filed) {n : Nat}
    (fresh : n ∉ t.pending) {m : Nat} (other : m ≠ n) :
    m ∈ (t.register n).1.pending ↔ m ∈ t.pending := by
  refine ⟨fun inside => (filed.mem_pending_register fresh inside).resolve_right other, ?_⟩
  rw [(filed.register fresh).mem_pending, filed.mem_pending]
  rcases t.register_cases n with same | ⟨id, _, free, same⟩ | ⟨code, _, same⟩
  · rw [same]
    exact fun inside => inside
  · rw [same]
    rintro (⟨taken, found⟩ | queued)
    · refine Or.inl ⟨taken, ?_⟩
      rw [pendingId?_pushId, if_neg, found]
      rintro rfl
      rw [free] at found
      cases found
    · exact Or.inr queued
  · rw [same]
    rintro (found | ⟨waited, queued⟩)
    · exact Or.inl found
    · refine Or.inr ⟨waited, ?_⟩
      rw [queue_setQueue]
      split
      · rename_i this
        subst this
        exact List.mem_append_left _ queued
      · exact queued

theorem Filed.register_result {t : Table} (filed : t.Filed) {n : Nat}
    (inside : n < t.requests.length) (fresh : n ∉ t.pending) :
    (t.register n).2 = .ok () ∧ n ∈ (t.register n).1.pending ∨
      (∃ failure, (t.register n).2 = .error failure) ∧ (t.register n).1 = t := by
  have after := (filed.register fresh).mem_pending n
  rcases t.carried_cases n with absent | ⟨id, carried⟩ | ⟨code, waits⟩
  · have found : t.request? n = some t.requests[n] := List.getElem?_eq_getElem inside
    rw [found] at absent
    cases absent
  · by_cases taken : (t.pendingId? id).isSome = true
    · rw [register_of_id carried, if_pos taken]
      exact Or.inr ⟨⟨_, rfl⟩, rfl⟩
    · rw [register_of_id carried, if_neg taken] at after ⊢
      refine Or.inl ⟨rfl, after.mpr (Or.inl ⟨id, ?_⟩)⟩
      rw [pendingId?_pushId, if_pos rfl]
  · rw [register_of_code waits] at after ⊢
    refine Or.inl ⟨rfl, after.mpr (Or.inr ⟨code, ?_⟩)⟩
    rw [queue_setQueue, if_pos rfl]
    exact List.mem_append_right _ (List.mem_singleton_self n)

end Table

end MarketLink.Correlation
