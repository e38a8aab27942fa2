import Mathlib
import MarketLink.Market.Depth

set_option autoImplicit false

namespace MarketLink.Market

namespace DepthUpdate

def level (u : DepthUpdate) : DepthLevel := ⟨u.price, u.size, u.marketMaker⟩

def fits (depth : Nat) (u : DepthUpdate) : Bool := decide (0 ≤ u.position ∧ u.position < depth)

/-- What an accepted update makes of the rows of its side. -/
def change (depth : Nat) (rows : List DepthLevel) (u : DepthUpdate) : List DepthLevel :=
  DepthBook.changeRows depth u.operation rows u.position.toNat u.level

/-- How the rows of a side look after an accepted update, row by row. -/
def Makes (depth : Nat) (u : DepthUpdate) (old new : List DepthLevel) : Prop :=
  let n := old.length
  let p := u.position.toNat
  match u.operation with
  | .insert =>
    new.length = min depth (max n p + 1) ∧ (∀ i, i < min n p → new[i]? = old[i]?) ∧
      (∀ i, n ≤ i → i < p → new[i]? = some .blank) ∧ new[p]? = some u.level ∧
      ∀ i, p < i → i < new.length → new[i]? = old[i - 1]?
  | .update =>
    new.length = max n (p + 1) ∧ (∀ i, i < n → i ≠ p → new[i]? = old[i]?) ∧
      (∀ i, n ≤ i → i < p → new[i]? = some .blank) ∧ new[p]? = some u.level
  | .delete =>
    if p < n then
      new.length = n - 1 ∧ (∀ i, i < p → new[i]? = old[i]?) ∧ ∀ i, p ≤ i → new[i]? = old[i + 1]?
    else new = old

end DepthUpdate

namespace DepthBook

section Rows

variable {depth position : Nat} {rows : List DepthLevel}

@[simp] theorem length_grow (rows : List DepthLevel) (count : Nat) :
    (grow rows count).length = max rows.length count := by
  rw [grow, List.length_append, List.length_replicate]
  omega

theorem getElem?_grow_of_lt {i : Nat} (old : i < rows.length) (count : Nat) :
    (grow rows count)[i]? = rows[i]? := List.getElem?_append_left old

theorem getElem?_grow_of_gap {i count : Nat} (behind : rows.length ≤ i) (inside : i < count) :
    (grow rows count)[i]? = some .blank := by
  rw [grow, List.getElem?_append_right behind, List.getElem?_replicate, if_pos (by omega)]

/-- The rows that stay when one is inserted: all of them, or all but the last at capacity. -/
def kept (depth : Nat) (rows : List DepthLevel) : List DepthLevel :=
  if depth ≤ rows.length then rows.take (depth - 1) else rows

theorem insertRow_eq (depth : Nat) (rows : List DepthLevel) (position : Nat) (level : DepthLevel) :
    insertRow depth rows position level =
      (grow (kept depth rows) position).insertIdx position level := rfl

theorem length_kept (depth : Nat) (rows : List DepthLevel) (room : 0 < depth) :
    (kept depth rows).length = min rows.length (depth - 1) := by
  unfold kept
  split
  · rw [List.length_take, Nat.min_comm]
  · omega

theorem getElem?_kept {i : Nat} (stays : i < depth - 1) : (kept depth rows)[i]? = rows[i]? := by
  unfold kept
  split
  · exact List.getElem?_take_of_lt stays
  · rfl

variable (fits : position < depth) (level : DepthLevel)
include fits

theorem getElem?_insertRow_of_gap {i : Nat} (behind : rows.length ≤ i) (before : i < position) :
    (insertRow depth rows position level)[i]? = some .blank := by
  have length := length_kept depth rows (by omega)
  rw [insertRow_eq, List.getElem?_insertIdx_of_lt before, getElem?_grow_of_gap (by omega) before]

theorem getElem?_insertRow_self :
    (insertRow depth rows position level)[position]? = some level := by
  have length := length_kept depth rows (by omega)
  rw [insertRow_eq, List.getElem?_insertIdx_self, if_pos]
  rw [length_grow]
  omega

variable (within : rows.length ≤ depth)
include within

theorem length_insertRow :
    (insertRow depth rows position level).length = min depth (max rows.length position + 1) := by
  have length := length_kept depth rows (by omega)
  have room : position ≤ (grow (kept depth rows) position).length := by
    rw [length_grow]
    omega
  rw [insertRow_eq, List.length_insertIdx_of_le_length room, length_grow, length]
  omega

theorem getElem?_insertRow_of_lt {i : Nat} (before : i < min rows.length position) :
    (insertRow depth rows position level)[i]? = rows[i]? := by
  have length := length_kept depth rows (by omega)
  rw [insertRow_eq, List.getElem?_insertIdx_of_lt (by omega), getElem?_grow_of_lt (by omega),
    getElem?_kept (by omega)]

theorem getElem?_insertRow_of_gt {i : Nat} (behind : position < i)
    (inside : i < (insertRow depth rows position level).length) :
    (insertRow depth rows position level)[i]? = rows[i - 1]? := by
  have length := length_kept depth rows (by omega)
  rw [length_insertRow fits level within] at inside
  rw [insertRow_eq, List.getElem?_insertIdx_of_gt behind, getElem?_grow_of_lt (by omega),
    getElem?_kept (by omega)]

end Rows

section Update

variable (rows : List DepthLevel) (position : Nat) (level : DepthLevel)

theorem length_updateRow :
    (updateRow rows position level).length = max rows.length (position + 1) := by
  rw [updateRow, List.length_set, length_grow]

theorem getElem?_updateRow_self : (updateRow rows position level)[position]? = some level := by
  rw [updateRow, List.getElem?_set_self]
  rw [length_grow]
  omega

variable {rows position} in
theorem getElem?_updateRow_of_lt {i : Nat} (old : i < rows.length) (other : i ≠ position) :
    (updateRow rows position level)[i]? = rows[i]? := by
  rw [updateRow, List.getElem?_set_ne other.symm, getElem?_grow_of_lt old]

variable {rows position} in
theorem getElem?_updateRow_of_gap {i : Nat} (behind : rows.length ≤ i) (before : i < position) :
    (updateRow rows position level)[i]? = some .blank := by
  rw [updateRow, List.getElem?_set_ne (by omega), getElem?_grow_of_gap behind (by omega)]

end Update

section Apply

variable {depth : Nat} {u : DepthUpdate} {rows : List DepthLevel}

theorem lt_of_fits (fits : u.fits depth = true) : u.position.toNat < depth := by
  have inside : 0 ≤ u.position ∧ u.position < depth := of_decide_eq_true fits
  omega

theorem makes_change (within : rows.length ≤ depth) (fits : u.fits depth = true) :
    u.Makes depth rows (u.change depth rows) := by
  have inside := lt_of_fits fits
  unfold DepthUpdate.Makes DepthUpdate.change changeRows
  cases u.operation with
  | insert =>
    exact ⟨length_insertRow inside _ within, fun i => getElem?_insertRow_of_lt inside _ within,
      fun i => getElem?_insertRow_of_gap inside _, getElem?_insertRow_self inside _,
      fun i => getElem?_insertRow_of_gt inside _ within⟩
  | update =>
    exact ⟨length_updateRow rows _ _, fun i => getElem?_updateRow_of_lt _,
      fun i => getElem?_updateRow_of_gap _, getElem?_updateRow_self rows _ _⟩
  | delete =>
    dsimp only
    split
    · rename_i there
      exact ⟨List.length_eraseIdx_of_lt there, fun i => List.getElem?_eraseIdx_of_lt,
        fun i => List.getElem?_eraseIdx_of_ge⟩
    · rename_i absent
      exact List.eraseIdx_of_length_le (Nat.le_of_not_lt absent)

theorem length_le_of_makes {old new : List DepthLevel} (makes : u.Makes depth old new)
    (within : old.length ≤ depth) (fits : u.fits depth = true) : new.length ≤ depth := by
  have inside := lt_of_fits fits
  unfold DepthUpdate.Makes at makes
  split at makes
  · have length := makes.1
    omega
  · have length := makes.1
    omega
  · dsimp only at makes
    split at makes
    · have length := makes.1
      omega
    · rw [makes]
      exact within

@[simp] theorem rows_withRows_self (book : DepthBook) (side : Side) (rows : List DepthLevel) :
    (book.withRows side rows).rows side = rows := by
  cases side <;> rfl

theorem rows_withRows_of_ne (book : DepthBook) {side other : Side} (different : other ≠ side)
    (rows : List DepthLevel) : (book.withRows side rows).rows other = book.rows other := by
  cases side <;> cases other <;> first | rfl | exact absurd rfl different

theorem depth_withRows (book : DepthBook) (side : Side) (rows : List DepthLevel) :
    (book.withRows side rows).depth = book.depth := by
  cases side <;> rfl

theorem apply_of_fits {book : DepthBook} (fits : u.fits book.depth = true) :
    book.apply u = .ok (book.withRows u.side (u.change book.depth (book.rows u.side))) := by
  have checked : book.checkPosition u.position = .ok u.position.toNat :=
    if_pos (of_decide_eq_true fits)
  unfold apply
  rw [checked]
  rfl

theorem apply_of_not_fits {book : DepthBook} (out : u.fits book.depth = false) :
    book.apply u = .error (.positionOutOfRange u.position book.depth) := by
  have checked : book.checkPosition u.position =
      .error (.positionOutOfRange u.position book.depth) := if_neg (of_decide_eq_false out)
  unfold apply
  rw [checked]
  rfl

end Apply

/-- Takes an update; one that is refused is passed over. -/
def take (book : DepthBook) (u : DepthUpdate) : DepthBook :=
  match book.apply u with
  | .ok changed => changed
  | .error _ => book

def run (book : DepthBook) (updates : List DepthUpdate) : DepthBook := updates.foldl take book

section Run

variable {u : DepthUpdate} (book : DepthBook)

theorem take_of_fits {book : DepthBook} (fits : u.fits book.depth = true) :
    book.take u = book.withRows u.side (u.change book.depth (book.rows u.side)) := by
  rw [take, apply_of_fits fits]

theorem take_of_not_fits {book : DepthBook} (out : u.fits book.depth = false) :
    book.take u = book := by
  rw [take, apply_of_not_fits out]

theorem depth_take (u : DepthUpdate) : (book.take u).depth = book.depth := by
  cases fits : u.fits book.depth with
  | true => rw [take_of_fits fits, depth_withRows]
  | false => rw [take_of_not_fits fits]

@[simp] theorem depth_run (updates : List DepthUpdate) : (book.run updates).depth = book.depth := by
  induction updates generalizing book with
  | nil => rfl
  | cons u rest ih => exact (ih (book.take u)).trans (book.depth_take u)

def accepted (depth : Nat) (side : Side) (updates : List DepthUpdate) : List DepthUpdate :=
  updates.filter fun u => u.fits depth && u.side == side

/-- A side is changed by its own accepted updates alone. -/
theorem rows_run (side : Side) (updates : List DepthUpdate) :
    (book.run updates).rows side =
      (accepted book.depth side updates).foldl (DepthUpdate.change book.depth)
      (book.rows side) := by
  induction updates generalizing book with
  | nil => rfl
  | cons u rest ih =>
    have later : (book.run (u :: rest)).rows side =
        (accepted book.depth side rest).foldl (DepthUpdate.change book.depth)
          ((book.take u).rows side) := by
      have through := ih (book.take u)
      rw [depth_take] at through
      exact through
    rw [later]
    cases fits : u.fits book.depth with
    | false =>
      have passed : accepted book.depth side (u :: rest) = accepted book.depth side rest := by
        simp [accepted, fits]
      rw [take_of_not_fits fits, passed]
    | true =>
      by_cases own : u.side = side
      · have first : accepted book.depth side (u :: rest) = u :: accepted book.depth side rest := by
          simp [accepted, fits, own]
        rw [first, List.foldl_cons, take_of_fits fits, ← own, rows_withRows_self]
      · have passed : accepted book.depth side (u :: rest) = accepted book.depth side rest := by
          simp [accepted, fits, own]
        rw [take_of_fits fits, rows_withRows_of_ne book (Ne.symm own), passed]

theorem length_rows_run {side : Side} (within : (book.rows side).length ≤ book.depth)
    (updates : List DepthUpdate) : ((book.run updates).rows side).length ≤ book.depth := by
  rw [rows_run]
  have all : ∀ u ∈ accepted book.depth side updates, u.fits book.depth = true := by
    intro u member
    have both := (List.mem_filter.mp member).2
    exact (Bool.and_eq_true_iff.mp both).1
  generalize book.rows side = rows at within
  revert all
  generalize accepted book.depth side updates = own
  intro all
  induction own generalizing rows with
  | nil => exact within
  | cons u rest ih =>
    have fits := all u List.mem_cons_self
    exact ih _ (length_le_of_makes (makes_change within fits) within fits)
      fun v later => all v (List.mem_cons_of_mem u later)

end Run

/-- Each side of a new book is what its own accepted updates make of no rows, however the updates of
the sides come in between each other, and has no more rows than the depth. An accepted update makes
of the rows of its side what is said of its operation and leaves the other side; one at a position
out of range is refused, and leaves both. -/
theorem sides_are_folds_of_own_updates (depth : Nat) (updates : List DepthUpdate) :
    let book := (empty depth).run updates
    (∀ side, (book.rows side).length ≤ depth ∧
      book.rows side = (accepted depth side updates).foldl (DepthUpdate.change depth) []) ∧
    (∀ (u : DepthUpdate) (rows : List DepthLevel), rows.length ≤ depth → u.fits depth = true →
      u.Makes depth rows (u.change depth rows)) ∧
    ∀ u : DepthUpdate,
      let next := (empty depth).run (updates ++ [u])
      if 0 ≤ u.position ∧ u.position < depth then
        book.apply u = .ok next ∧ u.Makes depth (book.rows u.side) (next.rows u.side) ∧
          ∀ other, other ≠ u.side → next.rows other = book.rows other
      else
        book.apply u = .error (.positionOutOfRange u.position depth) ∧
          next.bids = book.bids ∧ next.asks = book.asks := by
  intro book
  have same : book.depth = depth := depth_run (empty depth) updates
  have within : ∀ side, (book.rows side).length ≤ depth := fun side =>
    length_rows_run (empty depth) (by cases side <;> exact Nat.zero_le depth) updates
  refine ⟨fun side => ⟨within side, ?_⟩, fun u rows => makes_change, ?_⟩
  · rw [rows_run]
    cases side <;> rfl
  · intro u next
    have last : next = book.take u := List.foldl_concat ..
    split
    · rename_i inside
      have fits : u.fits book.depth = true := decide_eq_true (same ▸ inside)
      rw [last, take_of_fits fits, rows_withRows_self, same]
      refine ⟨same ▸ apply_of_fits fits, makes_change (within u.side) (same ▸ fits), ?_⟩
      exact fun other different => rows_withRows_of_ne book different _
    · rename_i outside
      have out : u.fits book.depth = false := decide_eq_false (same ▸ outside)
      rw [last, take_of_not_fits out]
      exact ⟨same ▸ apply_of_not_fits out, rfl, rfl⟩

end DepthBook

end MarketLink.Market
