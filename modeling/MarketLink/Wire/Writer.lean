import MarketLink.Number.Decimal
import MarketLink.Number.Real
import MarketLink.Text.Bytes
import MarketLink.Time.Instant
import MarketLink.Wire.Code
import MarketLink.Wire.Frame

set_option autoImplicit false

namespace MarketLink.Wire

open MarketLink.Number MarketLink.Text MarketLink.Time

/-- The fields of a frame so far, the latest first, and the fault that spoiled it. -/
structure Writer where
  fields : List String := []
  fault : Option WireError := none

namespace Writer

def empty : Writer := {}

def text (w : Writer) (s : String) : Writer :=
  if w.fault.isSome then w
  else if s.toList.contains '\x00' then { w with fault := some .embeddedNul }
  else { w with fields := s :: w.fields }

def int (w : Writer) (n : Int) : Writer := w.text (wholeText n)

def optionalInt (w : Writer) (n : Option Int) : Writer :=
  match n with
  | some n => w.int n
  | none => w.text ""

def real (w : Writer) (x : Float) : Writer :=
  if x.isInf then w.text (if isNegative x then "-Infinity" else "Infinity")
  else w.text (realText x)

def flag (w : Writer) (b : Bool) : Writer := w.text (if b then "1" else "0")

def decimal (w : Writer) (d : Decimal) : Writer := w.text d.normalized.text

def time (w : Writer) (t : Instant) : Writer := w.text t.stamp

def ofCode (m : Outgoing) : Writer := empty.int m.code

def size (w : Writer) : Nat := w.fields.foldr (fun s size => s.utf8ByteSize + 1 + size) 0

def payload (w : Writer) : Bytes := w.fields.reverse.flatMap fun s => toBytes s ++ [0]

/-- The finished frame: the length goes in front once all fields are known. -/
def finish (w : Writer) : Except WireError Bytes :=
  match w.fault with
  | some e => .error e
  | none =>
    let length := w.size
    if length = 0 then .error .emptyFrame
    else if frameLimit < length then .error (.frameTooLarge length)
    else .ok (header length ++ w.payload)

end Writer

end MarketLink.Wire
