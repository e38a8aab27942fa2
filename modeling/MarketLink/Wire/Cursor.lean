import MarketLink.Number.Decimal
import MarketLink.Number.Real
import MarketLink.Text.Bytes
import MarketLink.Time.Stamp
import MarketLink.Wire.Error

set_option autoImplicit false

namespace MarketLink.Wire

open MarketLink.Number MarketLink.Text MarketLink.Time

/-- What is left of a payload, the first fault, and the offset of times without a zone. -/
structure Cursor where
  rest : Bytes
  fault : Option WireError := none
  offset : Int := 0

abbrev Reading (α : Type) := StateM Cursor α

def Cursor.start (payload : Bytes) (offset : Int) : Cursor := { rest := payload, offset }

def Cursor.hasRemaining (c : Cursor) : Bool := c.fault.isNone && !c.rest.isEmpty

def Cursor.finish {α : Type} (c : Cursor) (value : α) : Except WireError α :=
  match c.fault with
  | some e => .error e
  | none => .ok value

def Cursor.fail (c : Cursor) (error : WireError) : Cursor :=
  { c with fault := c.fault.or (some error) }

/-- The next field's bytes; none behind a fault, and a fault when no field is left. -/
def Cursor.nextToken (c : Cursor) : Option Bytes × Cursor :=
  if c.fault.isSome then (none, c)
  else if c.rest.isEmpty then (none, c.fail .truncated)
  else
    let (token, after) := c.rest.span (· != 0)
    (some token, { c with rest := after.drop 1 })

def Cursor.nextText (c : Cursor) : Option String × Cursor :=
  match c.nextToken with
  | (none, c) => (none, c)
  | (some token, c) =>
    match ofBytes? token with
    | some text => (some text, c)
    | none => (none, c.fail .invalidUtf8)

namespace Reading

/-- Reads the next field with `parse`; a text it refuses is a fault. -/
def field {α : Type} (kind : FieldKind) (zero : α) (parse : String → Option α) : Reading α :=
  fun c =>
    match c.nextText with
    | (none, c) => (zero, c)
    | (some token, c) =>
      match parse token with
      | some value => (value, c)
      | none => (zero, c.fail (.invalidField kind token))

def fieldOrZero {α : Type} (kind : FieldKind) (zero : α) (parse : String → Option α) : Reading α :=
  field kind zero fun token => if token.isEmpty then some zero else parse token

def text : Reading String := fun c =>
  match c.nextText with
  | (none, c) => ("", c)
  | (some token, c) => (token, c)

def int : Reading Int := fieldOrZero .int 0 fun token => (readWhole int32 token).toOption

def long : Reading Int := fieldOrZero .long 0 fun token => (readWhole int64 token).toOption

/-- A whole number of 32 bits, or nothing when the field is empty. -/
def optionalInt : Reading (Option Int) :=
  fieldOrZero .int none fun token => (readWhole int32 token).toOption.map some

def real : Reading Float := fieldOrZero .float 0 readReal?

/-- A whole number, of which zero stands for no and all others for yes. -/
def flag : Reading Bool := do return (← int) != 0

def decimal : Reading Decimal := fieldOrZero .decimal Decimal.zero Decimal.read?

def time : Reading Instant := fun c => field .timestamp epoch (readStamp c.offset) c

def fail (error : WireError) : Reading Unit := fun c => ((), c.fail error)

def finish {α : Type} (value : α) : Reading (Except WireError α) := fun c => (c.finish value, c)

end Reading

end MarketLink.Wire
