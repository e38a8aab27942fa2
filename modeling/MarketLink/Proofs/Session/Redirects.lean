import MarketLink.Session.Opening
import Mathlib.Data.List.TakeWhile

set_option autoImplicit false

namespace MarketLink.Session

open Text

section Redirect

variable {target previous : String}

/-- The address to which redirects lead from another one. -/
def followed (targets : List String) (start : String) : String :=
  targets.foldl (fun previous target => redirectAddress target previous) start

theorem followed_cons (target : String) (later : List String) (start : String) :
    followed (target :: later) start = followed later (redirectAddress target start) := by
  unfold followed
  rw [List.foldl_cons]

end Redirect

end MarketLink.Session
