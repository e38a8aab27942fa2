import Mathlib.Data.List.TakeDrop
import MarketLink.Message.Arrival

set_option autoImplicit false

namespace MarketLink.Message

open Market Number Text Time Wire

def firstField (payload : Bytes) : Bytes := payload.takeWhile (· != 0)

/-- What stands behind the field in front, to be read with an offset. -/
def behindField (offset : Int) (payload : Bytes) : Cursor :=
  { rest := (payload.dropWhile (· != 0)).drop 1, offset }

/-- The code of a payload: a whole number of 32 bits, for which an empty field stands as zero. -/
def codeOf (payload : Bytes) : Except WireError Int :=
  if payload.isEmpty then .error .truncated
  else
    match ofBytes? (firstField payload) with
    | none => .error .invalidUtf8
    | some token =>
      if token.isEmpty then .ok 0
      else (readWhole int32 token).mapError fun _ => .invalidField .int token

theorem nextToken_start (offset : Int) {payload : Bytes} (filled : payload.isEmpty = false) :
    (Cursor.start payload offset).nextToken =
      (some (firstField payload), behindField offset payload) := by
  unfold Cursor.nextToken Cursor.start firstField behindField
  simp only [Option.isSome_none, Bool.false_eq_true, ↓reduceIte, filled,
    List.span_eq_takeWhile_dropWhile]

theorem readCode_start (offset : Int) (payload : Bytes) :
    (readCode (Cursor.start payload offset)).1 = codeOf payload ∧
      ∀ raw, codeOf payload = .ok raw →
        (readCode (Cursor.start payload offset)).2 = behindField offset payload := by
  have read : readCode (Cursor.start payload offset) =
      let (raw, c) := Reading.int (Cursor.start payload offset)
      (c.finish raw, c) := rfl
  rw [read]
  unfold codeOf Reading.int Reading.fieldOrZero Reading.field Cursor.nextText
  cases filled : payload.isEmpty with
  | true =>
    have missing : (Cursor.start payload offset).nextToken =
        (none, (Cursor.start payload offset).fail .truncated) :=
      (if_neg Bool.false_ne_true).trans (if_pos filled)
    rw [missing]
    exact ⟨rfl, nofun⟩
  | false =>
    rw [nextToken_start offset filled]
    simp only [Bool.false_eq_true, ↓reduceIte]
    cases ofBytes? (firstField payload) with
    | none => exact ⟨rfl, nofun⟩
    | some token =>
      dsimp only
      cases token.isEmpty with
      | true => exact ⟨rfl, fun _ _ => rfl⟩
      | false =>
        simp only [Bool.false_eq_true, ↓reduceIte]
        cases readWhole int32 token with
        | error _ => exact ⟨rfl, nofun⟩
        | ok raw => exact ⟨rfl, fun _ _ => rfl⟩

theorem eq_code_of_known? {raw : Int} {message : Incoming} (known : known? raw = some message) :
    raw = message.code := by
  unfold known? splitCode at known
  by_cases biased : alternateBias < raw
  · rw [if_pos biased] at known
    cases known
  · rw [if_neg biased] at known
    have found : Incoming.all.find? (fun m => m.code == raw) = some message := known
    have same := List.find?_some found
    exact (beq_iff_eq.mp same).symm

theorem known?_code (message : Incoming) : known? message.code = some message := by
  cases message <;> rfl

/-- A code is not read when it has the bias of the alternate encoding or stands for no message. -/
theorem known?_eq_none_iff {raw : Int} :
    known? raw = none ↔ alternateBias < raw ∨ ∀ message : Incoming, message.code ≠ raw := by
  constructor
  · intro unknown
    refine Or.inr ?_
    rintro message rfl
    rw [known?_code] at unknown
    cases unknown
  · intro either
    cases known : known? raw with
    | none => rfl
    | some message =>
      have same := eq_code_of_known? known
      rcases either with biased | other
      · -- no code that is known is as great as the bias
        have small : message.code ≤ alternateBias := by cases message <;> decide
        omega
      · exact absurd same.symm (other message)

def refusal? {α : Type} : Except WireError α → Option WireError
  | .error why => some why
  | .ok _ => none

/-- Why the reader of a message refuses what stands behind the code, if it does. -/
def refusalBehind? (cursor : Cursor) : Incoming → Option WireError
  | .tickPrice => refusal? (tickPrice cursor).1
  | .tickSize => refusal? (tickSize cursor).1
  | .tickGeneric => refusal? (tickGeneric cursor).1
  | .tickString => refusal? (tickString cursor).1
  | .tickReqParams => refusal? (tickReqParams cursor).1
  | .marketDataType => refusal? (marketDataType cursor).1
  | .tickSnapshotEnd | .contractDataEnd => refusal? (endMarker cursor).1
  | .marketDepth => refusal? (marketDepth cursor).1
  | .marketDepthL2 => refusal? (marketDepthL2 cursor).1
  | .contractData => refusal? (contractData cursor).1
  | .historicalData => refusal? (historicalData cursor).1
  | .currentTime => refusal? (currentTime cursor).1
  | .managedAccounts => refusal? (managedAccounts cursor).1
  | .nextValidId => refusal? (nextValidId cursor).1
  | .errorMessage => refusal? (errorNotice cursor).1

/-- A payload cannot be read, and this is why: its code is no number, or it is the code of a message
whose reader refuses the rest. -/
def Unreadable (offset : Int) (payload : Bytes) (why : WireError) : Prop :=
  codeOf payload = .error why ∨
    ∃ message : Incoming, codeOf payload = .ok message.code ∧
      refusalBehind? (behindField offset payload) message = some why

theorem refusal?_eq_some_iff {α : Type} {read : Except WireError α} {why : WireError} :
    refusal? read = some why ↔ read = .error why := by
  cases read <;> simp [refusal?]

namespace Arrival

theorem refusal?_making {α : Type} (make : α → Arrival) (read : Reading (Except WireError α))
    (cursor : Cursor) : refusal? (making make read cursor).1 = refusal? (read cursor).1 := by
  have shape : (making make read cursor).1 = (read cursor).1.map make := rfl
  rw [shape]
  cases (read cursor).1 <;> rfl

/-- A message is refused by its own reader, and by nothing else. -/
theorem refusal?_body (message : Incoming) (cursor : Cursor) :
    refusal? (body message cursor).1 = refusalBehind? cursor message := by
  cases message <;> exact refusal?_making _ _ cursor

theorem making_eq_ok_iff {α : Type} {make : α → Arrival} {read : Reading (Except WireError α)}
    {cursor : Cursor} {arrival : Arrival} :
    (making make read cursor).1 = .ok arrival ↔
      ∃ value, (read cursor).1 = .ok value ∧ make value = arrival := by
  have shape : (making make read cursor).1 = (read cursor).1.map make := rfl
  rw [shape]
  cases (read cursor).1 with
  | error _ => simp [Except.map]
  | ok value => simp [Except.map]

/-- What comes of a payload follows from its code and from what stands behind that. -/
theorem read_eq (offset : Int) (payload : Bytes) :
    read offset payload =
      match codeOf payload with
      | .error e => .error e
      | .ok raw =>
        match known? raw with
        | none => .ok (.unknown raw)
        | some message => (body message (behindField offset payload)).1 := by
  obtain ⟨code, behind⟩ := readCode_start offset payload
  unfold read
  rw [← code] at behind ⊢
  revert behind
  rcases readCode (Cursor.start payload offset) with ⟨e | raw, cursor⟩
  · exact fun _ => rfl
  · intro behind
    have there : cursor = behindField offset payload := behind raw rfl
    subst there
    rfl

theorem read_eq_error_iff {offset : Int} {payload : Bytes} {why : WireError} :
    read offset payload = .error why ↔ Unreadable offset payload why := by
  unfold Unreadable
  rw [read_eq]
  cases code : codeOf payload with
  | error e =>
    have none : ¬∃ message : Incoming, (Except.error e : Except WireError Int) = .ok message.code ∧
        refusalBehind? (behindField offset payload) message = some why := by simp
    rw [or_iff_left none]
    exact ⟨fun same => congrArg _ (Except.error.inj same),
      fun same => congrArg _ (Except.error.inj same)⟩
  | ok raw =>
    dsimp only
    constructor
    · intro refused
      cases known : known? raw with
      | none =>
        rw [known] at refused
        cases refused
      | some message =>
        rw [known] at refused
        refine Or.inr ⟨message, congrArg _ (eq_code_of_known? known), ?_⟩
        rw [← refusal?_body]
        exact refusal?_eq_some_iff.mpr refused
    · rintro (broken | ⟨message, same, refused⟩)
      · cases broken
      · cases same
        rw [known?_code]
        rw [← refusal?_body] at refused
        exact refusal?_eq_some_iff.mp refused

/-- A payload is read as the message that its code stands for; with a code that is not known it is
reported. -/
theorem read_eq_ok_iff {offset : Int} {payload : Bytes} {arrival : Arrival} :
    read offset payload = .ok arrival ↔
      ∃ raw, codeOf payload = .ok raw ∧
        ((alternateBias < raw ∨ ∀ message : Incoming, message.code ≠ raw) ∧ arrival = .unknown raw ∨
          ∃ message : Incoming, message.code = raw ∧
            (body message (behindField offset payload)).1 = .ok arrival) := by
  rw [read_eq]
  cases code : codeOf payload with
  | error e => simp
  | ok raw =>
    dsimp only
    constructor
    · intro read
      refine ⟨raw, rfl, ?_⟩
      cases known : known? raw with
      | none =>
        rw [known] at read
        exact Or.inl ⟨known?_eq_none_iff.mp known, (Except.ok.inj read).symm⟩
      | some message =>
        rw [known] at read
        exact Or.inr ⟨message, (eq_code_of_known? known).symm, read⟩
    · rintro ⟨_, same, ⟨unknown, rfl⟩ | ⟨message, rfl, read⟩⟩
      · cases same
        rw [known?_eq_none_iff.mpr unknown]
      · cases same
        rw [known?_code]
        exact read

end Arrival

end MarketLink.Message
