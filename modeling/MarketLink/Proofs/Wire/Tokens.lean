import MarketLink.Proofs.Wire.Texts
import MarketLink.Wire.Cursor
import Mathlib.Data.List.TakeDrop
import Mathlib.Data.List.TakeWhile

set_option autoImplicit false

namespace MarketLink.Wire

open Text

/-- The fields of a payload: each ends at a zero byte, and what follows the last zero byte is a
field when there is something. -/
inductive Cuts : Bytes → List Bytes → Prop where
  | empty : Cuts [] []
  | last {token : Bytes} (solid : 0 ∉ token) (filled : token ≠ []) : Cuts token [token]
  | next {token rest : Bytes} {tokens : List Bytes} (solid : 0 ∉ token)
    (behind : Cuts rest tokens) :
      Cuts (token ++ 0 :: rest) (token :: tokens)

/-- The bytes of some fields, each with a zero byte at its end. -/
def terminated (tokens : List Bytes) : Bytes := tokens.flatMap (· ++ [0])

section Cuts

variable {payload rest token : Bytes} {tokens more : List Bytes}

@[simp] theorem terminated_nil : terminated [] = [] := rfl

@[simp] theorem terminated_cons :
    terminated (token :: tokens) = token ++ 0 :: terminated tokens := by
  unfold terminated
  rw [List.flatMap_cons, List.append_assoc, List.singleton_append]

theorem terminated_append : terminated (tokens ++ more) = terminated tokens ++ terminated more :=
  List.flatMap_append

theorem joined_eq_terminated (texts : List String) :
    joined texts = terminated (texts.map toBytes) := by
  unfold joined terminated
  rw [List.flatMap_map]

theorem fieldsOnto_solid (solid : 0 ∉ token) (current : Bytes) :
    fieldsOnto current token = fieldsOnto (token.reverse ++ current) [] := by
  induction token generalizing current with
  | nil => rfl
  | cons b token ih =>
    rw [List.mem_cons, not_or] at solid
    have step : fieldsOnto current (b :: token) = fieldsOnto (b :: current) token :=
      if_neg (Ne.symm solid.1)
    rw [step, ih solid.2, List.reverse_cons, List.append_assoc, List.singleton_append]

theorem Cuts.fieldsOf_eq (cuts : Cuts payload tokens) : fieldsOf payload = tokens := by
  induction cuts with
  | empty => rfl
  | @last token solid filled =>
    unfold fieldsOf
    rw [fieldsOnto_solid solid, List.append_nil, fieldsOnto, if_neg (by simpa using filled),
      List.reverse_reverse]
  | next solid _ ih =>
    unfold fieldsOf at ih ⊢
    rw [fieldsOnto_append solid, ih]
    rfl

theorem exists_cuts (payload : Bytes) : ∃ tokens, Cuts payload tokens := by
  induction payload with
  | nil => exact ⟨[], .empty⟩
  | cons b rest ih =>
    obtain ⟨tokens, cuts⟩ := ih
    by_cases zero : b = 0
    · -- an empty field in front
      subst zero
      exact ⟨[] :: tokens, .next (List.not_mem_nil) cuts⟩
    · -- the field in front begins one byte earlier
      have longer : ∀ {token : Bytes}, 0 ∉ token → 0 ∉ b :: token := fun solid =>
        mt List.mem_cons.mp (not_or.mpr ⟨Ne.symm zero, solid⟩)
      cases cuts with
      | empty => exact ⟨[[b]], .last (longer List.not_mem_nil) (List.cons_ne_nil _ _)⟩
      | last solid _ => exact ⟨[b :: rest], .last (longer solid) (List.cons_ne_nil _ _)⟩
      | @next token _ tokens solid behind =>
        exact ⟨(b :: token) :: tokens, .next (longer solid) behind⟩

theorem cuts_fieldsOf (payload : Bytes) : Cuts payload (fieldsOf payload) := by
  obtain ⟨tokens, cuts⟩ := exists_cuts payload
  exact cuts.fieldsOf_eq ▸ cuts

theorem Cuts.eq_nil_iff (cuts : Cuts payload tokens) : payload = [] ↔ tokens = [] := by
  cases cuts with
  | empty => simp
  | last _ filled => simp [filled]
  | next _ _ => simp

theorem Cuts.solid (cuts : Cuts payload tokens) : ∀ token ∈ tokens, 0 ∉ token := by
  induction cuts with
  | empty => exact fun _ => nofun
  | last solid _ => exact List.forall_mem_singleton.mpr solid
  | next solid _ ih => exact List.forall_mem_cons.mpr ⟨solid, ih⟩

/-- Behind the zero byte of a field stand the fields that follow it. -/
theorem Cuts.drop (cuts : Cuts payload tokens) (number : Nat) :
    Cuts (payload.drop (terminated (tokens.take number)).length) (tokens.drop number) := by
  induction cuts generalizing number with
  | empty =>
    rw [List.drop_nil, List.drop_nil]
    exact .empty
  | @last token solid filled =>
    cases number with
    | zero => exact .last solid filled
    | succ number =>
      rw [List.drop_eq_nil_of_le (by simp), List.drop_eq_nil_of_le (by simp)]
      exact .empty
  | @next token rest tokens solid behind ih =>
    cases number with
    | zero => exact .next solid behind
    | succ number =>
      have length : (terminated ((token :: tokens).take (number + 1))).length =
          (token ++ [0]).length + (terminated (tokens.take number)).length := by
        rw [List.take_succ_cons, terminated_cons, List.length_append, List.length_append,
          List.length_cons, List.length_singleton]
        omega
      rw [length, ← List.drop_drop, List.append_cons token 0 rest, List.drop_left,
        List.drop_succ_cons]
      exact ih number

theorem Cuts.terminated_append (cuts : Cuts rest more) (solid : ∀ token ∈ tokens, 0 ∉ token) :
    Cuts (terminated tokens ++ rest) (tokens ++ more) := by
  induction tokens with
  | nil => exact cuts
  | cons token tokens ih =>
    rw [List.forall_mem_cons] at solid
    rw [terminated_cons, List.append_assoc, List.cons_append]
    exact .next solid.1 (ih solid.2)

end Cuts

/-- A cursor in front of the field with this number, which has met no fault. -/
def cursorAt (payload : Bytes) (offset : Int) (number : Nat) : Cursor :=
  ⟨payload.drop (terminated ((fieldsOf payload).take number)).length, none, offset⟩

section Cursors

variable {payload : Bytes} {offset : Int} {number : Nat} {c : Cursor}

theorem cursorAt_zero : cursorAt payload offset 0 = Cursor.start payload offset := rfl

theorem fieldsOf_cursorAt :
    fieldsOf (cursorAt payload offset number).rest = (fieldsOf payload).drop number :=
  ((cuts_fieldsOf payload).drop number).fieldsOf_eq

theorem cursorAt_add (more : Nat) :
    cursorAt payload offset (number + more) =
      cursorAt (cursorAt payload offset number).rest offset more := by
  unfold cursorAt
  rw [((cuts_fieldsOf payload).drop number).fieldsOf_eq, List.drop_drop, ← List.length_append,
    ← terminated_append, List.take_add]

/-- Behind fields that all end in a zero byte stands what was put behind them. -/
theorem cursorAt_terminated {tokens : List Bytes} (solid : ∀ token ∈ tokens, 0 ∉ token)
    (more : Bytes) :
    cursorAt (terminated tokens ++ more) offset tokens.length = ⟨more, none, offset⟩ := by
  have front : (fieldsOf (terminated tokens ++ more)).take tokens.length = tokens := by
    rw [((cuts_fieldsOf more).terminated_append solid).fieldsOf_eq, List.take_left]
  unfold cursorAt
  rw [front, List.drop_left]

/-- Every cursor without a fault stands in front of the first field that it has left. -/
theorem eq_cursorAt (sound : c.fault = none) : c = cursorAt c.rest c.offset 0 := by
  obtain ⟨rest, fault, offset⟩ := c
  cases sound
  rfl

theorem isEmpty_cursorAt :
    (cursorAt payload offset number).rest.isEmpty =
      decide ((fieldsOf payload).length ≤ number) := by
  rw [Bool.eq_iff_iff, List.isEmpty_iff, (cuts_fieldsOf _).eq_nil_iff, fieldsOf_cursorAt,
    List.drop_eq_nil_iff, decide_eq_true_iff]

theorem hasRemaining_cursorAt :
    (cursorAt payload offset number).hasRemaining =
      decide (number < (fieldsOf payload).length) := by
  have sound : (cursorAt payload offset number).fault.isNone = true := rfl
  unfold Cursor.hasRemaining
  rw [isEmpty_cursorAt, sound, Bool.true_and, ← decide_not]
  exact decide_eq_decide.mpr Nat.not_le

/-- Behind the last field nothing is left, however far one goes. -/
theorem cursorAt_of_le (all : (fieldsOf payload).length ≤ number) :
    cursorAt payload offset number = ⟨[], none, offset⟩ := by
  have empty : (cursorAt payload offset number).rest = [] := by
    rw [← List.isEmpty_iff, isEmpty_cursorAt, decide_eq_true_iff]
    exact all
  exact congrArg (Cursor.mk · none offset) empty

theorem takeWhile_eq_of_fieldsOf {token : Bytes} {tokens : List Bytes}
    (cut : fieldsOf payload = token :: tokens) :
    payload.takeWhile (· != 0) = token ∧
      (payload.dropWhile (· != 0)).drop 1 = payload.drop (token.length + 1) := by
  have cuts := cuts_fieldsOf payload
  have stops : ∀ {token : Bytes}, 0 ∉ token → ∀ b ∈ token, (b != 0) = true := by
    intro token solid b member
    rw [bne_iff_ne]
    rintro rfl
    exact solid member
  rw [cut] at cuts
  cases cuts with
  | last solid _ =>
    refine ⟨List.takeWhile_eq_self_iff.mpr (stops solid), ?_⟩
    rw [List.dropWhile_eq_nil_iff.mpr (stops solid), List.drop_eq_nil_of_le (Nat.le_succ _)]
    rfl
  | @next _ rest _ solid _ =>
    constructor
    · rw [List.takeWhile_append_of_pos (stops solid)]
      simp
    · rw [List.dropWhile_append_of_pos (stops solid), List.drop_append]
      simp

theorem nextToken_cursorAt :
    (cursorAt payload offset number).nextToken =
      match (fieldsOf payload)[number]? with
      | none => (none, { cursorAt payload offset (number + 1) with fault := some .truncated })
      | some token => (some token, cursorAt payload offset (number + 1)) := by
  unfold Cursor.nextToken
  rw [isEmpty_cursorAt]
  by_cases all : (fieldsOf payload).length ≤ number
  · rw [List.getElem?_eq_none all, cursorAt_of_le all, cursorAt_of_le (Nat.le_succ_of_le all)]
    simp only [Option.isSome_none, Bool.false_eq_true, ↓reduceIte, all, decide_true]
    rfl
  · have inside : number < (fieldsOf payload).length := Nat.not_le.mp all
    have front : fieldsOf (cursorAt payload offset number).rest =
        (fieldsOf payload)[number] :: (fieldsOf payload).drop (number + 1) := by
      rw [fieldsOf_cursorAt, List.drop_eq_getElem_cons inside]
    obtain ⟨token, behind⟩ := takeWhile_eq_of_fieldsOf front
    have place : (terminated ((fieldsOf payload).take (number + 1))).length =
        (terminated ((fieldsOf payload).take number)).length +
        ((fieldsOf payload)[number].length + 1) := by
      rw [List.take_succ_eq_append_getElem inside, terminated_append, List.length_append]
      simp
    have next : cursorAt payload offset (number + 1) =
        ⟨(cursorAt payload offset number).rest.drop ((fieldsOf payload)[number].length + 1), none,
          offset⟩ := by
      unfold cursorAt
      rw [place, List.drop_drop]
    rw [List.getElem?_eq_getElem inside, next, ← behind, ← token]
    simp only [all, decide_false, Bool.false_eq_true, ↓reduceIte, List.span_eq_takeWhile_dropWhile]
    exact if_neg Bool.false_ne_true

end Cursors

end MarketLink.Wire
