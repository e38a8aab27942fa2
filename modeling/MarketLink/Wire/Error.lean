import MarketLink.Market.Depth
import MarketLink.Text.Quoted

set_option autoImplicit false

namespace MarketLink.Wire

open MarketLink.Market MarketLink.Text

inductive FieldKind where
  | int
  | long
  | float
  | decimal
  | timestamp
  | epoch
  | barCount
  deriving Repr, DecidableEq

def FieldKind.word : FieldKind → String
  | .int => "int"
  | .long => "long"
  | .float => "float"
  | .decimal => "decimal"
  | .timestamp => "timestamp"
  | .epoch => "epoch"
  | .barCount => "bar count"

/-- Why a frame or a field cannot be read or written. -/
inductive WireError where
  | emptyFrame
  | frameTooLarge (length : Nat)
  | truncated
  | invalidUtf8
  | invalidField (kind : FieldKind) (token : String)
  | embeddedNul
  | depth (error : DepthError)
  deriving Repr, DecidableEq

def WireError.message : WireError → String
  | .emptyFrame => "zero-length frame"
  | .frameTooLarge length =>
    "frame of " ++ toString length ++ " bytes exceeds the frame limit"
  | .truncated => "message truncated"
  | .invalidUtf8 => "field is not valid UTF-8"
  | .invalidField kind token => "invalid " ++ kind.word ++ " field: " ++ quoted token
  | .embeddedNul => "string field contains a NUL byte"
  | .depth error => error.message

end MarketLink.Wire
