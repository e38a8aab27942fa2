import MarketLink.Wire.Error

set_option autoImplicit false

namespace MarketLink

/-- The kinds of faults of a transport. -/
inductive IoKind where
  | connectionReset
  | connectionAborted
  | connectionRefused
  | brokenPipe
  | unexpectedEof
  | notConnected
  | timedOut
  | wouldBlock
  | interrupted
  | permissionDenied
  | invalidData
  | invalidInput
  | networkUnreachable
  | uncategorized
  deriving Repr, DecidableEq

namespace IoKind

def words : IoKind → String
  | .connectionReset => "connection reset"
  | .connectionAborted => "connection aborted"
  | .connectionRefused => "connection refused"
  | .brokenPipe => "broken pipe"
  | .unexpectedEof => "unexpected end of file"
  | .notConnected => "not connected"
  | .timedOut => "timed out"
  | .wouldBlock => "operation would block"
  | .interrupted => "operation interrupted"
  | .permissionDenied => "permission denied"
  | .invalidData => "invalid data"
  | .invalidInput => "invalid input parameter"
  | .networkUnreachable => "network unreachable"
  | .uncategorized => "uncategorized error"

def ofNumber : Nat → IoKind
  | 1 | 13 => .permissionDenied
  | 4 => .interrupted
  | 11 => .wouldBlock
  | 22 => .invalidInput
  | 32 => .brokenPipe
  | 101 => .networkUnreachable
  | 103 => .connectionAborted
  | 104 => .connectionReset
  | 107 => .notConnected
  | 110 => .timedOut
  | 111 => .connectionRefused
  | _ => .uncategorized

end IoKind

/-- A fault of a transport, in the words of whoever noticed it. -/
structure IoFault where
  kind : IoKind
  words : String
  deriving Repr, DecidableEq

def IoFault.ofKind (kind : IoKind) : IoFault := ⟨kind, kind.words⟩

def IoFault.ofSystem (words : String) (number : Nat) : IoFault :=
  ⟨.ofNumber number, words ++ " (os error " ++ toString number ++ ")"⟩

inductive Failure where
  | io (fault : IoFault)
  /-- A malformed frame or field, or a request that cannot be written. -/
  | protocol (error : Wire.WireError)
  | closed
  | timeout
  | cancelled
  | tooManyRedirects (limit : Nat)
  | unsupportedServerVersion (version : Int)
  | api (code : Int) (message : String)
  | config (reason : String)
  | document (reason : String)
  | internal (reason : String)
  deriving Repr, DecidableEq

namespace Failure

def message : Failure → String
  | .io fault => "i/o error: " ++ fault.words
  | .protocol error => "protocol error: " ++ error.message
  | .closed => "connection closed"
  | .timeout => "operation timed out"
  | .cancelled => "request cancelled"
  | .tooManyRedirects limit => "too many redirects (limit " ++ toString limit ++ ")"
  | .unsupportedServerVersion version => "unsupported server version " ++ toString version
  | .api code message => "gateway error " ++ toString code ++ ": " ++ message
  | .config reason => "invalid configuration: " ++ reason
  | .document reason => "invalid configuration: " ++ reason
  | .internal reason => "internal error: " ++ reason

def cause? : Failure → Option String
  | .protocol error => some error.message
  | _ => none

def isCancellation : Failure → Bool
  | .cancelled | .closed => true
  | _ => false

def isPeerReset : Failure → Bool
  | .io fault =>
    match fault.kind with
    | .connectionReset | .connectionAborted | .brokenPipe | .unexpectedEof => true
    | _ => false
  | _ => false

/-- The failure under which the end of a connection is reported: an end that was asked for and an
end because the other side went away both count as closed. -/
def classify (failure : Failure) : Failure :=
  if failure.isCancellation || failure.isPeerReset then .closed else failure

end Failure

end MarketLink
