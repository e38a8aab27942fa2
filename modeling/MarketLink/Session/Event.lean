import MarketLink.Failure
import MarketLink.Time.Instant

set_option autoImplicit false

namespace MarketLink

open Time

/-- Something that no request was waiting for. -/
inductive Event where
  | notice (id code : Int) (message : String)
  | nextValidId (id : Int)
  | managedAccounts (accounts : List String)
  | currentTime (time : Instant)
  | marketDataType (id kind : Int)
  | connectionClosed (failure : Failure)
  | unknownMessage (code : Int)
  deriving Repr, DecidableEq

end MarketLink
