import MarketLink.Correlation.Table
import Mathlib.Data.List.Nodup

set_option autoImplicit false

namespace MarketLink.Correlation

section Association

variable {α β : Type}

theorem nodup_keys_filter {entries : List (α × β)} (distinct : (entries.map Prod.fst).Nodup)
    (keep : α × β → Bool) : ((entries.filter keep).map Prod.fst).Nodup :=
  distinct.sublist (List.filter_sublist.map _)

theorem nodup_append_singleton {entries : List α} {entry : α} (distinct : entries.Nodup)
    (absent : entry ∉ entries) : (entries ++ [entry]).Nodup := by
  rw [← List.concat_eq_append]
  exact distinct.concat absent

theorem getElem?_append_singleton_cases {entries : List α} {last entry : α} {k : Nat}
    (found : (entries ++ [last])[k]? = some entry) :
    entries[k]? = some entry ∨ k = entries.length ∧ entry = last := by
  by_cases old : k < entries.length
  · rw [List.getElem?_append_left old] at found
    exact Or.inl found
  · have inside := (List.getElem?_eq_some_iff.mp found).1
    rw [List.length_append, List.length_singleton] at inside
    have final : k = entries.length := by omega
    rw [final, List.getElem?_append_right (Nat.le_refl _), Nat.sub_self] at found
    exact Or.inr ⟨final, (Option.some.inj found).symm⟩

variable [BEq α] [LawfulBEq α]

theorem lookup_filter_bne (entries : List (α × β)) (erased key : α) :
    (entries.filter fun entry => entry.1 != erased).lookup key =
      if key == erased then none else entries.lookup key := by
  induction entries with
  | nil => simp
  | cons entry rest ih =>
    obtain ⟨first, value⟩ := entry
    by_cases gone : first = erased
    · subst gone
      by_cases same : key = first
      · subst same
        simp [ih]
      · have other : (key == first) = false := beq_eq_false_iff_ne.mpr same
        simp [ih, List.lookup_cons, other]
    · by_cases same : key = first
      · subst same
        simp [gone]
      · have other : (key == first) = false := beq_eq_false_iff_ne.mpr same
        simp [List.lookup_cons, gone, other, ih]

theorem mem_iff_lookup {entries : List (α × β)} (distinct : (entries.map Prod.fst).Nodup)
    (key : α) (value : β) : (key, value) ∈ entries ↔ entries.lookup key = some value := by
  induction entries with
  | nil => simp
  | cons entry rest ih =>
    obtain ⟨first, held⟩ := entry
    rw [List.map_cons, List.nodup_cons] at distinct
    by_cases same : key = first
    · subst same
      have absent : (key, value) ∉ rest := fun member =>
        distinct.1 (List.mem_map.mpr ⟨_, member, rfl⟩)
      simp [absent, eq_comm]
    · have other : (key == first) = false := beq_eq_false_iff_ne.mpr same
      simp [List.lookup_cons, same, other, ih distinct.2]

end Association

/-- The reply code that a request without an id waits for. -/
def Key.code? : Key → Option Int
  | .withoutId code _ => some code
  | .withId _ | .ticker _ => none

theorem Key.id_or_code (key : Key) :
    (∃ id, key.id? = some id ∧ key.code? = none) ∨
      ∃ code, key.id? = none ∧ key.code? = some code := by
  cases key with
  | withId id => exact Or.inl ⟨id, rfl, rfl⟩
  | withoutId code _ => exact Or.inr ⟨code, rfl, rfl⟩
  | ticker id => exact Or.inl ⟨id, rfl, rfl⟩

namespace Table

def idOf? (t : Table) (n : Nat) : Option Int := (t.request? n).bind fun r => r.key.id?

def codeOf? (t : Table) (n : Nat) : Option Int := (t.request? n).bind fun r => r.key.code?

theorem codeOf?_eq_none_of_idOf? {t : Table} {n : Nat} {id : Int}
    (carried : t.idOf? n = some id) : t.codeOf? n = none := by
  unfold idOf? at carried
  unfold codeOf?
  cases found : t.request? n with
  | none => rfl
  | some r =>
    rw [found] at carried
    rcases r.key.id_or_code with ⟨_, _, none⟩ | ⟨_, none, _⟩
    · exact none
    · rw [Option.bind_some, none] at carried
      cases carried

theorem inside_of_codeOf? {t : Table} {n : Nat} {code : Int} (waits : t.codeOf? n = some code) :
    n < t.requests.length := by
  obtain ⟨r, found, _⟩ := Option.bind_eq_some_iff.mp waits
  exact (List.getElem?_eq_some_iff.mp found).1

@[simp] theorem request?_update (t : Table) (n m : Nat) (change : Request → Request) :
    (t.update n change).request? m =
      if n = m then (t.request? m).map change else t.request? m := by
  simp only [request?, update, List.getElem?_modify]
  split <;> simp

@[simp] theorem request?_setQueue (t : Table) (code : Int) (queue : List Nat) (n : Nat) :
    (t.setQueue code queue).request? n = t.request? n := rfl

@[simp] theorem pendingId?_setQueue (t : Table) (code : Int) (queue : List Nat) (id : Int) :
    (t.setQueue code queue).pendingId? id = t.pendingId? id := rfl

@[simp] theorem pendingId?_eraseId (t : Table) (erased id : Int) :
    (t.eraseId erased).pendingId? id = if id = erased then none else t.pendingId? id := by
  simpa only [pendingId?, eraseId, beq_iff_eq] using lookup_filter_bne t.byId erased id

theorem eraseId_of_absent {t : Table} {id : Int} (nobody : t.pendingId? id = none) :
    t.eraseId id = t := by
  have absent : ∀ entry ∈ t.byId, id ≠ entry.1 := by
    simpa only [pendingId?, List.lookup_eq_none_iff, bne_iff_ne] using nobody
  rw [eraseId, List.filter_eq_self.mpr]
  intro entry member
  exact bne_iff_ne.mpr (absent entry member).symm

@[simp] theorem pendingId?_update (t : Table) (n : Nat) (change : Request → Request) (id : Int) :
    (t.update n change).pendingId? id = t.pendingId? id := rfl

@[simp] theorem queue_update (t : Table) (n : Nat) (change : Request → Request) (code : Int) :
    (t.update n change).queue code = t.queue code := rfl

@[simp] theorem queue_setQueue (t : Table) (changed code : Int) (queue : List Nat) :
    (t.setQueue changed queue).queue code = if code = changed then queue else t.queue code := by
  have others := lookup_filter_bne t.byCode changed code
  simp only [beq_iff_eq] at others
  unfold Table.queue setQueue
  by_cases blank : queue.isEmpty = true
  · simp only [blank, ↓reduceIte, others]
    by_cases same : code = changed
    · simp only [same, ↓reduceIte, Option.getD_none]
      exact (List.isEmpty_iff.mp blank).symm
    · simp only [same, ↓reduceIte]
  · simp only [blank, Bool.false_eq_true, ↓reduceIte, List.lookup_cons]
    by_cases same : code = changed
    · simp [same]
    · have other : (code == changed) = false := beq_eq_false_iff_ne.mpr same
      simp only [other, others, same, ↓reduceIte]

theorem update_of_absent {t : Table} {n : Nat} (absent : t.request? n = none)
    (change : Request → Request) : t.update n change = t := by
  have outside : t.requests.length ≤ n := by simpa [request?] using absent
  rw [update, List.modify_eq_self outside]

/-- A change may be computed beforehand from the request that is there. -/
theorem update_const {t : Table} {n : Nat} {r : Request} (found : t.request? n = some r)
    (change : Request → Request) : (t.update n fun _ => change r) = t.update n change := by
  have inside : t.requests[n]? = some r := found
  simp only [update, Table.mk.injEq, and_true]
  apply List.ext_getElem?
  intro m
  by_cases same : n = m
  · subst same
    simp [inside]
  · simp [same]

theorem update_self {t : Table} {n : Nat} {r : Request} (found : t.request? n = some r) :
    (t.update n fun _ => r) = t :=
  (update_const found id).trans (by simp [update])

theorem complete_fst (t : Table) (n : Nat) (failure : Option Failure) :
    (t.complete n failure).1 = t.update n fun r => (r.complete failure).1 := by
  unfold complete
  cases found : t.request? n with
  | none => exact (update_of_absent found _).symm
  | some r => exact update_const found fun r => (r.complete failure).1

theorem complete_snd (t : Table) (n : Nat) (failure : Option Failure) :
    (t.complete n failure).2 = ((t.request? n).map fun r => !r.isDone).getD false := by
  unfold complete
  cases t.request? n with
  | none => rfl
  | some r =>
    unfold Request.complete
    cases done : r.isDone <;> simp [done]

theorem handle_fst (t : Table) (n : Nat) (handler : Handler) :
    (t.handle n handler).1 = t.update n fun r => (r.handle handler).1 := by
  unfold handle
  cases found : t.request? n with
  | none => exact (update_of_absent found _).symm
  | some r => exact update_const found fun r => (r.handle handler).1

theorem handle_snd (t : Table) (n : Nat) (handler : Handler) :
    (t.handle n handler).2 = (t.request? n).bind fun r => (r.handle handler).2 := by
  unfold handle
  cases t.request? n <;> rfl

end Table

end MarketLink.Correlation
