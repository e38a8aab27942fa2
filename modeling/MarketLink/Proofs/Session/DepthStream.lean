import Mathlib
import MarketLink.Proofs.Market.Book
import MarketLink.Proofs.Message.Payload
import MarketLink.Proofs.Session.Streams

set_option autoImplicit false

namespace MarketLink.Market.DepthBook

section Snapshots

variable {book : DepthBook} {u : DepthUpdate}

theorem run_append (book : DepthBook) (updates more : List DepthUpdate) :
    book.run (updates ++ more) = (book.run updates).run more := List.foldl_append ..

end Snapshots

end MarketLink.Market.DepthBook

namespace MarketLink.Message

open MarketLink.Market Wire

namespace Arrival

end Arrival

end MarketLink.Message

namespace MarketLink.Session

open Correlation Market Message Wire

namespace Course

section Act

variable {t : Table} {id : Int} {n : Nat} {book : DepthBook}

end Act

section Steps

variable {s : Session} {id : Int} {n : Nat} {book : DepthBook}

end Steps

/-- A session becomes another one when a stream of depth is made pending in it: by a caller that
asks for the stream and gets it, or by one that has its id and has yet to queue the frame. -/
inductive DepthOpened (s : Session) (rows : Nat) (stream : Stream) : Session → Prop where
  | asked {given : Session} {contract : Contract} {smart : Bool}
      (subscribed : s.subscribe (.depth contract rows smart) = (given, .ok stream)) :
      DepthOpened s rows stream given
  | registered (allowed : 1 ≤ rows ∧ rows ≤ rowLimit)
      (number : stream.request = s.table.requests.length)
      (free : s.table.pendingId? stream.id = none) :
      DepthOpened s rows stream
        (step s (.enroll (.ticker stream.id) (.marketDepth (DepthBook.empty rows)) true))

theorem check_of_subscribed {s given : Session} {feed : Feed} {stream : Stream}
    (subscribed : s.subscribe feed = (given, .ok stream)) : feed.check = .ok () := by
  unfold subscribe at subscribed
  cases checked : feed.check with
  | error failure =>
    rw [checked] at subscribed
    cases subscribed
  | ok _ => rfl

section Opened

variable {s given : Session} {rows : Nat} {stream : Stream}

theorem DepthOpened.allowed (asks : DepthOpened s rows stream given) :
    1 ≤ rows ∧ rows ≤ rowLimit := by
  cases asks with
  | asked subscribed =>
    have checked := check_of_subscribed subscribed
    unfold Feed.check at checked
    dsimp only at checked
    split at checked
    · assumption
    · cases checked
  | registered allowed => exact allowed

theorem DepthOpened.begins (asks : DepthOpened s rows stream given) (filed : s.table.Filed) :
    given.table.Filed ∧
      given.table.Waits stream.id stream.request (.marketDepth (DepthBook.empty rows)) ∧
      given.table.items stream.request = [] := by
  cases asks with
  | asked subscribed => exact (StreamOpened.asked subscribed).begins filed
  | registered allowed number free =>
    have checked : (Feed.depth {} rows false).check = .ok () := if_pos allowed
    exact (StreamOpened.registered checked number free).begins filed

end Opened

end Course

end MarketLink.Session
