import MarketLink.Failure
import MarketLink.Number.Whole
import MarketLink.Text.Blank

set_option autoImplicit false

namespace MarketLink.Session

open Number Text

/-- The characters in front of the last colon and those behind it. -/
def splitPort? (address : List Char) : Option (List Char × List Char) :=
  let port := address.reverse.takeWhile (· != ':')
  match address.reverse.dropWhile (· != ':') with
  | [] => none
  | _ :: host => some (host.reverse, port.reverse)

structure Endpoint where
  host : String
  port : Nat
  deriving Repr, DecidableEq

def Endpoint.read (address : String) : Except IoFault Endpoint :=
  match splitPort? address.toList with
  | none => .error ⟨.invalidInput, "invalid socket address"⟩
  | some (host, port) =>
    match readWhole nat16 (String.ofList port) with
    | .ok port => .ok ⟨String.ofList host, port.toNat⟩
    | .error _ => .error ⟨.invalidInput, "invalid port value"⟩

def redirectAddress (target previous : String) : String :=
  let host := trim target
  if host.toList.contains ':' then host
  else
    match splitPort? previous.toList with
    | some (_, port) => host ++ ":" ++ String.ofList port
    | none => host

end MarketLink.Session
