import MarketLink.Number.Whole
import MarketLink.Text.Bytes
import MarketLink.Wire.Error

set_option autoImplicit false

namespace MarketLink.Wire

def frameLimit : Nat := 0x00FFFFFF

def checkLength (length : Nat) : Except WireError Unit :=
  if length = 0 then .error .emptyFrame
  else if frameLimit < length then .error (.frameTooLarge length)
  else .ok ()

def header (length : Nat) : Bytes :=
  [UInt8.ofNat (length / 16777216), UInt8.ofNat (length / 65536), UInt8.ofNat (length / 256),
    UInt8.ofNat length]

def announced (a b c d : UInt8) : Nat :=
  256 * (256 * (256 * a.toNat + b.toNat) + c.toNat) + d.toNat

def encodeFrame (payload : Bytes) : Except WireError Bytes := do
  let length := payload.length
  checkLength length
  .ok (header length ++ payload)

theorem encodeFrame_eq (payload : Bytes) :
    encodeFrame payload =
      if payload.length = 0 then .error .emptyFrame
      else if frameLimit < payload.length then .error (.frameTooLarge payload.length)
      else .ok (header payload.length ++ payload) := by
  unfold encodeFrame checkLength
  dsimp only
  split
  · rfl
  · split <;> rfl

def takePayload (length : Nat) (bytes : Bytes) : Option (Bytes × Bytes) :=
  let (payload, after) := bytes.splitAt length
  if payload.length = length then some (payload, after) else none

theorem takePayload_eq_some_iff {length : Nat} {bytes payload after : Bytes} :
    takePayload length bytes = some (payload, after) ↔
      payload.length = length ∧ bytes = payload ++ after := by
  simp only [takePayload, List.splitAt_eq, Option.ite_none_right_eq_some, Option.some.injEq,
    Prod.mk.injEq]
  constructor
  · rintro ⟨long, rfl, rfl⟩
    exact ⟨long, (List.take_append_drop length bytes).symm⟩
  · rintro ⟨rfl, rfl⟩
    simp

/-- The first frame's payload and what follows it, or `none` while bytes are missing. -/
def splitFrame (buffer : Bytes) : Except WireError (Option (Bytes × Bytes)) :=
  match buffer with
  | a :: b :: c :: d :: rest =>
    match checkLength (announced a b c d) with
    | .error e => .error e
    | .ok _ => .ok (takePayload (announced a b c d) rest)
  | _ => .ok none

theorem length_of_splitFrame {buffer payload after : Bytes}
    (h : splitFrame buffer = .ok (some (payload, after))) : after.length < buffer.length := by
  unfold splitFrame at h
  split at h
  · split at h
    · cases h
    · obtain ⟨-, rfl⟩ := takePayload_eq_some_iff.1 (Except.ok.inj h)
      simp only [List.length_cons, List.length_append]
      omega
  · cases h

/-- What came of cutting a buffer into frames. -/
structure Cut where
  frames : List Bytes
  rest : Bytes
  stop : Option WireError

/-- Cuts frames off the buffer behind those already cut, the latest of which comes first. -/
def cutOnto (done : List Bytes) (buffer : Bytes) : Cut :=
  match _h : splitFrame buffer with
  | .error e => ⟨done.reverse, buffer, some e⟩
  | .ok none => ⟨done.reverse, buffer, none⟩
  | .ok (some (payload, after)) => cutOnto (payload :: done) after
termination_by buffer.length
decreasing_by exact length_of_splitFrame _h

def cutFrames (buffer : Bytes) : Cut := cutOnto [] buffer

/-- The fields of the bytes that are left, when the field under way has these bytes, the latest
first. -/
def fieldsOnto (current : Bytes) : Bytes → List Bytes
  | [] => if current.isEmpty then [] else [current.reverse]
  | b :: rest =>
    if b = 0 then current.reverse :: fieldsOnto [] rest else fieldsOnto (b :: current) rest

/-- The fields of a payload: its bytes between zero bytes, of which the last ends the payload. -/
def fieldsOf (payload : Bytes) : List Bytes := fieldsOnto [] payload

def openingSign : Bytes := Text.toBytes "API\x00"

/-- The bytes that open a connection: a sign, then a frame with the range of versions and any
options. -/
def hello (least greatest : Int) (options : String) : Except WireError Bytes := do
  let range := "v" ++ Number.wholeText least ++ ".." ++ Number.wholeText greatest
  let text := if options.isEmpty then range else range ++ " " ++ options
  .ok (openingSign ++ (← encodeFrame (Text.toBytes text)))

end MarketLink.Wire
