import MarketLink.Proofs.Correlation.Lookup

set_option autoImplicit false

namespace MarketLink.Correlation

namespace Table

def pending (t : Table) : List Nat := t.byId.map Prod.snd ++ t.byCode.flatMap Prod.snd

/-- The entries themselves: no key twice, and no empty queue. -/
structure Rows (t : Table) : Prop where
  distinctIds : (t.byId.map Prod.fst).Nodup
  distinctCodes : (t.byCode.map Prod.fst).Nodup
  filled : ∀ entry ∈ t.byCode, entry.2 ≠ []

/-- Every pending request stands where its key says, and once. -/
structure Filed (t : Table) : Prop extends Rows t where
  ofId : ∀ id n, t.pendingId? id = some n → t.idOf? n = some id
  ofCode : ∀ code n, n ∈ t.queue code → t.codeOf? n = some code
  inLine : ∀ code, (t.queue code).Nodup

theorem Rows.mem_pending {t : Table} (rows : t.Rows) (n : Nat) :
    n ∈ t.pending ↔ (∃ id, t.pendingId? id = some n) ∨ ∃ code, n ∈ t.queue code := by
  unfold pending
  rw [List.mem_append, List.mem_map, List.mem_flatMap]
  constructor
  · rintro (⟨⟨id, _⟩, member, rfl⟩ | ⟨⟨code, queue⟩, member, inside⟩)
    · exact Or.inl ⟨id, (mem_iff_lookup rows.distinctIds _ _).mp member⟩
    · refine Or.inr ⟨code, ?_⟩
      have found := (mem_iff_lookup rows.distinctCodes _ _).mp member
      simpa only [Table.queue, found, Option.getD_some] using inside
  · rintro (⟨id, found⟩ | ⟨code, inside⟩)
    · exact Or.inl ⟨(id, n), (mem_iff_lookup rows.distinctIds _ _).mpr found, rfl⟩
    · unfold Table.queue at inside
      cases found : t.byCode.lookup code with
      | none =>
        rw [found] at inside
        cases inside
      | some queue =>
        rw [found] at inside
        exact Or.inr ⟨(code, queue), (mem_iff_lookup rows.distinctCodes _ _).mpr found, inside⟩

theorem Rows.eraseId {t : Table} (rows : t.Rows) (id : Int) : (t.eraseId id).Rows :=
  ⟨nodup_keys_filter rows.distinctIds _, rows.distinctCodes, rows.filled⟩

theorem Rows.setQueue {t : Table} (rows : t.Rows) (code : Int) (queue : List Nat) :
    (t.setQueue code queue).Rows := by
  have others := nodup_keys_filter rows.distinctCodes fun entry => entry.1 != code
  refine ⟨rows.distinctIds, ?_, ?_⟩
  · unfold Table.setQueue
    dsimp only
    split
    · exact others
    · rw [List.map_cons, List.nodup_cons]
      refine ⟨?_, others⟩
      intro member
      obtain ⟨entry, kept, same⟩ := List.mem_map.mp member
      simp [same] at kept
  · unfold Table.setQueue
    dsimp only
    split
    · exact fun entry member => rows.filled entry (List.mem_of_mem_filter member)
    · rename_i filled
      intro entry member
      rcases List.mem_cons.mp member with rfl | member
      · simpa using filled
      · exact rows.filled entry (List.mem_of_mem_filter member)

theorem Filed.id_unique {t : Table} (filed : t.Filed) {n : Nat} {id other : Int}
    (found : t.pendingId? id = some n) (again : t.pendingId? other = some n) : id = other :=
  Option.some.inj ((filed.ofId _ _ found).symm.trans (filed.ofId _ _ again))

theorem Filed.not_queued_of_id {t : Table} (filed : t.Filed) {n : Nat} {id : Int}
    (carried : t.idOf? n = some id) (code : Int) : n ∉ t.queue code := by
  intro queued
  have waits := filed.ofCode _ _ queued
  rw [codeOf?_eq_none_of_idOf? carried] at waits
  cases waits

theorem Filed.not_found_of_code {t : Table} (filed : t.Filed) {n : Nat} {code : Int}
    (waits : t.codeOf? n = some code) (id : Int) : t.pendingId? id ≠ some n := by
  intro found
  rw [codeOf?_eq_none_of_idOf? (filed.ofId _ _ found)] at waits
  cases waits

theorem carried_cases (t : Table) (n : Nat) :
    t.request? n = none ∨ (∃ id, t.idOf? n = some id) ∨ ∃ code, t.codeOf? n = some code := by
  unfold idOf? codeOf?
  cases t.request? n with
  | none => exact Or.inl rfl
  | some r =>
    rcases r.key.id_or_code with ⟨id, carried, _⟩ | ⟨code, _, waits⟩
    · exact Or.inr (Or.inl ⟨id, carried⟩)
    · exact Or.inr (Or.inr ⟨code, waits⟩)

theorem key_of_idOf? {t : Table} {n : Nat} {id : Int} (carried : t.idOf? n = some id) :
    (t.request? n).map Request.key = some (.withId id) ∨
      (t.request? n).map Request.key = some (.ticker id) := by
  obtain ⟨r, found, carried⟩ := Option.bind_eq_some_iff.mp carried
  rw [found, Option.map_some]
  cases kept : r.key with
  | withId _ =>
    rw [kept] at carried
    cases carried
    exact Or.inl rfl
  | withoutId _ _ =>
    rw [kept] at carried
    cases carried
  | ticker _ =>
    rw [kept] at carried
    cases carried
    exact Or.inr rfl

theorem key_of_codeOf? {t : Table} {n : Nat} {code : Int} (waits : t.codeOf? n = some code) :
    ∃ seq, (t.request? n).map Request.key = some (.withoutId code seq) := by
  obtain ⟨r, found, waits⟩ := Option.bind_eq_some_iff.mp waits
  rw [found, Option.map_some]
  cases kept : r.key with
  | withId _ | ticker _ =>
    rw [kept] at waits
    cases waits
  | withoutId _ seq =>
    rw [kept] at waits
    cases waits
    exact ⟨seq, rfl⟩

theorem register_of_id {t : Table} {n : Nat} {id : Int} (carried : t.idOf? n = some id) :
    t.register n =
      if (t.pendingId? id).isSome then
        (t, .error (.internal ("id " ++ toString id ++ " is already pending")))
      else ({ t with byId := (id, n) :: t.byId }, .ok ()) := by
  unfold register
  rcases key_of_idOf? carried with kept | kept <;> rw [kept]

theorem register_of_code {t : Table} {n : Nat} {code : Int} (waits : t.codeOf? n = some code) :
    t.register n = (t.setQueue code (t.queue code ++ [n]), .ok ()) := by
  obtain ⟨seq, kept⟩ := key_of_codeOf? waits
  unfold register
  rw [kept]

theorem unregister_of_id {t : Table} {n : Nat} {id : Int} (carried : t.idOf? n = some id) :
    t.unregister n = if t.pendingId? id = some n then t.eraseId id else t := by
  unfold unregister
  rcases key_of_idOf? carried with kept | kept <;> rw [kept]

theorem unregister_of_code {t : Table} {n : Nat} {code : Int} (waits : t.codeOf? n = some code) :
    t.unregister n = t.setQueue code ((t.queue code).filter fun m => m != n) := by
  obtain ⟨seq, kept⟩ := key_of_codeOf? waits
  unfold unregister
  rw [kept]

theorem unregister_of_absent {t : Table} {n : Nat} (absent : t.request? n = none) :
    t.unregister n = t := by
  unfold unregister
  rw [absent]
  rfl

/-- A table without one of its requests; every other request stands where it stood. -/
structure Without (t : Table) (n : Nat) (after : Table) : Prop where
  rows : after.Rows
  requests : after.requests = t.requests
  ids : ∀ id, after.pendingId? id = if t.pendingId? id = some n then none else t.pendingId? id
  queues : ∀ code, after.queue code = (t.queue code).filter fun m => m != n

theorem Without.mem_pending {t after : Table} {n : Nat} (out : Without t n after)
    (rows : t.Rows) (m : Nat) : m ∈ after.pending ↔ m ∈ t.pending ∧ m ≠ n := by
  rw [out.rows.mem_pending, rows.mem_pending]
  constructor
  · rintro (⟨id, found⟩ | ⟨code, queued⟩)
    · rw [out.ids] at found
      split at found
      · cases found
      · rename_i other
        exact ⟨Or.inl ⟨id, found⟩, fun same => other (same ▸ found)⟩
    · rw [out.queues, List.mem_filter, bne_iff_ne] at queued
      exact ⟨Or.inr ⟨code, queued.1⟩, queued.2⟩
  · rintro ⟨⟨id, found⟩ | ⟨code, queued⟩, other⟩
    · refine Or.inl ⟨id, ?_⟩
      rw [out.ids, found]
      simp [other]
    · refine Or.inr ⟨code, ?_⟩
      rw [out.queues, List.mem_filter, bne_iff_ne]
      exact ⟨queued, other⟩

theorem Without.filed {t after : Table} {n : Nat} (out : Without t n after) (filed : t.Filed) :
    after.Filed := by
  refine ⟨out.rows, ?_, ?_, ?_⟩
  · intro id m found
    rw [out.ids] at found
    split at found
    · cases found
    · simpa only [idOf?, request?, out.requests] using filed.ofId id m found
  · intro code m queued
    rw [out.queues] at queued
    simpa only [codeOf?, request?, out.requests] using
      filed.ofCode code m (List.mem_of_mem_filter queued)
  · intro code
    rw [out.queues]
    exact (filed.inLine code).filter _

/-- Taking a request that is not pending out of a table changes nothing. -/
theorem Filed.without_self {t : Table} (filed : t.Filed) {n : Nat} (absent : n ∉ t.pending) :
    Without t n t := by
  rw [filed.mem_pending, not_or, not_exists, not_exists] at absent
  refine ⟨filed.toRows, rfl, ?_, ?_⟩
  · intro id
    rw [if_neg (absent.1 id)]
  · intro code
    exact (List.filter_bne_eq_self_of_not_mem (absent.2 code)).symm

theorem Filed.without_eraseId {t : Table} (filed : t.Filed) {n : Nat} {id : Int}
    (found : t.pendingId? id = some n) : Without t n (t.eraseId id) := by
  refine ⟨filed.toRows.eraseId id, rfl, ?_, ?_⟩
  · intro other
    rw [pendingId?_eraseId]
    by_cases same : other = id
    · subst same
      rw [if_pos rfl, if_pos found]
    · rw [if_neg same, if_neg fun again => same (filed.id_unique again found)]
  · intro code
    have absent := filed.not_queued_of_id (filed.ofId _ _ found) code
    exact (List.filter_bne_eq_self_of_not_mem absent).symm

theorem Filed.without_setQueue {t : Table} (filed : t.Filed) {n : Nat} {code : Int}
    (waits : t.codeOf? n = some code) :
    Without t n (t.setQueue code ((t.queue code).filter fun m => m != n)) := by
  refine ⟨filed.toRows.setQueue _ _, rfl, ?_, ?_⟩
  · intro id
    rw [pendingId?_setQueue, if_neg (filed.not_found_of_code waits id)]
  · intro other
    rw [queue_setQueue]
    split
    · rename_i same
      rw [same]
    · rename_i different
      have absent : n ∉ t.queue other := fun queued =>
        different (Option.some.inj ((filed.ofCode _ _ queued).symm.trans waits))
      exact (List.filter_bne_eq_self_of_not_mem absent).symm

theorem Filed.without_unregister {t : Table} (filed : t.Filed) (n : Nat) :
    Without t n (t.unregister n) := by
  rcases t.carried_cases n with absent | ⟨id, carried⟩ | ⟨code, waits⟩
  · rw [unregister_of_absent absent]
    apply filed.without_self
    rw [filed.mem_pending]
    rintro (⟨id, found⟩ | ⟨code, queued⟩)
    · have carried := filed.ofId _ _ found
      rw [idOf?, absent] at carried
      cases carried
    · have waits := filed.ofCode _ _ queued
      rw [codeOf?, absent] at waits
      cases waits
  · rw [unregister_of_id carried]
    split
    · rename_i found
      exact filed.without_eraseId found
    · rename_i missing
      apply filed.without_self
      rw [filed.mem_pending]
      rintro (⟨other, found⟩ | ⟨code, queued⟩)
      · have same := Option.some.inj ((filed.ofId _ _ found).symm.trans carried)
        exact missing (same ▸ found)
      · exact filed.not_queued_of_id carried code queued
  · rw [unregister_of_code waits]
    exact filed.without_setQueue waits

/-- A reply code takes the oldest request out of its queue. -/
theorem Filed.without_find {t : Table} (filed : t.Filed) {code : Int} {n : Nat} {rest : List Nat}
    (queue : t.queue code = n :: rest) : Without t n (t.setQueue code rest) := by
  have once := filed.inLine code
  have tail : rest = (t.queue code).filter fun m => m != n := by
    rw [queue] at once ⊢
    exact (List.erase_cons_head n rest).symm.trans (once.erase_eq_filter n)
  rw [tail]
  exact filed.without_setQueue (filed.ofCode _ _ (by simp [queue]))

theorem Rows.mem_byId {t : Table} (rows : t.Rows) (id : Int) (n : Nat) :
    (id, n) ∈ t.byId ↔ t.pendingId? id = some n :=
  mem_iff_lookup rows.distinctIds id n

theorem Rows.queue_of_mem {t : Table} (rows : t.Rows) {code : Int} {queue : List Nat}
    (row : (code, queue) ∈ t.byCode) : t.queue code = queue := by
  rw [Table.queue, (mem_iff_lookup rows.distinctCodes code queue).mp row, Option.getD_some]

theorem Rows.mem_byCode_of_queued {t : Table} (rows : t.Rows) {code : Int} {n : Nat}
    (queued : n ∈ t.queue code) : (code, t.queue code) ∈ t.byCode := by
  rw [mem_iff_lookup rows.distinctCodes]
  unfold Table.queue at queued ⊢
  cases found : t.byCode.lookup code with
  | none =>
    rw [found] at queued
    cases queued
  | some queue => rfl

theorem Rows.empty_of_pending {t : Table} (rows : t.Rows) (nobody : t.pending = []) :
    t.byId = [] ∧ t.byCode = [] := by
  obtain ⟨ids, codes⟩ := List.append_eq_nil_iff.mp nobody
  refine ⟨List.map_eq_nil_iff.mp ids, ?_⟩
  apply List.eq_nil_iff_forall_not_mem.mpr
  intro entry member
  exact rows.filled entry member (List.flatMap_eq_nil_iff.mp codes entry member)

theorem Filed.nodup_pending {t : Table} (filed : t.Filed) : t.pending.Nodup := by
  unfold pending
  rw [List.nodup_append']
  refine ⟨?_, ?_, ?_⟩
  · refine List.Nodup.map_on ?_ (List.Nodup.of_map Prod.fst filed.distinctIds)
    rintro ⟨id, n⟩ first ⟨other, m⟩ second same
    cases (same : n = m)
    have found := (filed.mem_byId id n).mp first
    have again := (filed.mem_byId other n).mp second
    rw [filed.id_unique found again]
  · rw [List.nodup_flatMap]
    refine ⟨fun entry row => filed.queue_of_mem row ▸ filed.inLine entry.1, ?_⟩
    refine (List.pairwise_map.mp filed.distinctCodes).imp_of_mem ?_
    intro first second here there different
    refine List.disjoint_left.mpr fun n inside again => ?_
    rw [← filed.queue_of_mem here] at inside
    rw [← filed.queue_of_mem there] at again
    have waits := (filed.ofCode _ _ inside).symm.trans (filed.ofCode _ _ again)
    exact different (Option.some.inj waits)
  · rw [List.disjoint_left]
    intro n byId byCode
    obtain ⟨⟨id, _⟩, member, rfl⟩ := List.mem_map.mp byId
    obtain ⟨⟨code, queue⟩, row, inside⟩ := List.mem_flatMap.mp byCode
    have found := (filed.mem_byId id _).mp member
    refine filed.not_queued_of_id (filed.ofId _ _ found) code ?_
    rw [filed.queue_of_mem row]
    exact inside

theorem pending_takeAll (t : Table) : t.takeAll.1.pending = [] := rfl

end Table

end MarketLink.Correlation
