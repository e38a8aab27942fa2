import Mathlib
import MarketLink.Proofs.Message.Payload
import MarketLink.Proofs.Session.Streams

set_option autoImplicit false

namespace MarketLink.Message

open Market Wire

def tickReader? : Incoming → Option (Reading (Except WireError (Int × Tick)))
  | .tickPrice => some tickPrice
  | .tickSize => some tickSize
  | .tickGeneric => some tickGeneric
  | .tickString => some tickString
  | .tickReqParams => some tickReqParams
  | .marketDataType =>
    some do return (← marketDataType).map fun (id, kind) => (id, .marketDataType kind)
  | .errorMessage | .nextValidId | .contractData | .marketDepth | .marketDepthL2 | .managedAccounts
  | .historicalData | .currentTime | .contractDataEnd | .tickSnapshotEnd => none

/-- A payload is one of the messages that bring ticks, and has this tick for an id. -/
def BringsTick (offset : Int) (payload : Bytes) (id : Int) (tick : Tick) : Prop :=
  ∃ message reader, codeOf payload = .ok message.code ∧ tickReader? message = some reader ∧
    (reader (behindField offset payload)).1 = .ok (id, tick)

namespace Arrival

def tick? : Arrival → Option (Int × Tick)
  | .tick id brought => some (id, brought)
  | .marketDataType id kind => some (id, .marketDataType kind)
  | _ => none

/-- The messages that bring ticks are read as such by their own readers, and no others are. -/
theorem body_tick_iff {message : Incoming} {cursor : Cursor} {id : Int} {tick : Tick} :
    (∃ arrival, (body message cursor).1 = .ok arrival ∧ arrival.tick? = some (id, tick)) ↔
      ∃ reader, tickReader? message = some reader ∧ (reader cursor).1 = .ok (id, tick) := by
  constructor
  · rintro ⟨arrival, read, brings⟩
    cases message with
    | tickPrice | tickSize | tickGeneric | tickString | tickReqParams =>
      obtain ⟨⟨_, _⟩, value, rfl⟩ := making_eq_ok_iff.mp read
      cases brings
      exact ⟨_, rfl, value⟩
    | marketDataType =>
      obtain ⟨⟨_, _⟩, value, rfl⟩ := making_eq_ok_iff.mp read
      cases brings
      refine ⟨_, rfl, ?_⟩
      show (Message.marketDataType cursor).1.map _ = _
      rw [value]
      rfl
    | _ =>
      obtain ⟨_, _, rfl⟩ := making_eq_ok_iff.mp read
      cases brings
  · rintro ⟨reader, own, value⟩
    cases message with
    | tickPrice | tickSize | tickGeneric | tickString | tickReqParams =>
      cases own
      exact ⟨_, making_eq_ok_iff.mpr ⟨_, value, rfl⟩, rfl⟩
    | marketDataType =>
      cases own
      have whole : (Message.marketDataType cursor).1.map
          (fun (id, kind) => (id, Tick.marketDataType kind)) = .ok (id, tick) := value
      cases read : (Message.marketDataType cursor).1 with
      | error e =>
        rw [read] at whole
        cases whole
      | ok found =>
        rw [read] at whole
        cases whole
        exact ⟨_, making_eq_ok_iff.mpr ⟨_, read, rfl⟩, rfl⟩
    | _ => cases own

theorem read_tick_iff {offset : Int} {payload : Bytes} {id : Int} {tick : Tick} :
    (∃ arrival, read offset payload = .ok arrival ∧ arrival.tick? = some (id, tick)) ↔
      BringsTick offset payload id tick := by
  unfold BringsTick
  rw [read_eq]
  cases code : codeOf payload with
  | error e => simp
  | ok raw =>
    dsimp only
    constructor
    · intro brings
      cases known : known? raw with
      | none =>
        rw [known] at brings
        obtain ⟨_, read, brings⟩ := brings
        cases read
        cases brings
      | some message =>
        rw [known] at brings
        obtain ⟨reader, own, value⟩ := body_tick_iff.mp brings
        exact ⟨message, reader, congrArg _ (eq_code_of_known? known), own, value⟩
    · rintro ⟨message, reader, same, own, value⟩
      cases same
      rw [known?_code]
      exact body_tick_iff.mpr ⟨reader, own, value⟩

end Arrival

end MarketLink.Message

namespace MarketLink.Session

open Correlation Market Message Wire

namespace Course

def Concern.tick? : Concern → Option Tick
  | .arrived arrival => arrival.tick?.map Prod.snd
  | _ => none

def strayReply (reply : String) : Failure := Slot.mismatch (.marketData false) reply

/-- How a concern ends the stream of request `n`, if it does: with a failure, or cleanly with the
end of its snapshot. -/
def Concern.ending? (n : Nat) : Concern → Option (Option Failure)
  | .enrolled _ => none
  | .cancelled m failure => if m = n then some (some failure) else none
  | .abandoned m => if m = n then some (some .cancelled) else none
  | .lost failure => some (some failure)
  | .arrived (.tick _ _) | .arrived (.marketDataType _ _) => none
  | .arrived (.snapshotEnd _) => some none
  | .arrived (.notice told) => some (some (.api told.code told.message))
  | .arrived (.depth _ _) => some (some (strayReply "market depth"))
  | .arrived (.contractDetails _ _) => some (some (strayReply "contract data"))
  | .arrived (.contractDetailsEnd _) => some (some (strayReply "contract data end"))
  | .arrived (.historicalBars _ _) => some (some (strayReply "historical data"))
  | .arrived (.currentTime _) | .arrived (.managedAccounts _) | .arrived (.nextValidId _)
  | .arrived (.unknown _) => none

/-- How a story ends the stream: its first ending counts. -/
def endingOf (n : Nat) (told : List Concern) : Option (Option Failure) :=
  told.findSome? (Concern.ending? n)

def ticksOf (n : Nat) (told : List Concern) : List Tick :=
  (told.takeWhile fun c => (c.ending? n).isNone).filterMap Concern.tick?

section Story

variable {n : Nat} {c : Concern} {told : List Concern}

theorem ticksOf_cons_of_going (goes : c.ending? n = none) :
    ticksOf n (c :: told) = c.tick?.toList ++ ticksOf n told := by
  simp only [ticksOf, goes, Option.isNone_none, List.takeWhile_cons_of_pos, List.filterMap_cons]
  cases c.tick? <;> rfl

theorem ticksOf_cons_of_ending {failure : Option Failure} (ends : c.ending? n = some failure) :
    ticksOf n (c :: told) = [] := by
  simp [ticksOf, ends]

theorem endingOf_cons : endingOf n (c :: told) = (c.ending? n).or (endingOf n told) := by
  unfold endingOf
  rw [List.findSome?_cons]
  cases c.ending? n <;> rfl

theorem endingOf_append (told more : List Concern) :
    endingOf n (told ++ more) = (endingOf n told).or (endingOf n more) := List.findSome?_append

/-- Whatever is told behind the end brings nothing. -/
theorem ticksOf_append (told more : List Concern) :
    ticksOf n (told ++ more) =
      ticksOf n told ++ if (endingOf n told).isSome then [] else ticksOf n more := by
  induction told with
  | nil => rfl
  | cons c rest ih =>
    cases ends : c.ending? n with
    | none =>
      rw [List.cons_append, ticksOf_cons_of_going ends, ih, ticksOf_cons_of_going ends,
        endingOf_cons, ends, Option.none_or, List.append_assoc]
    | some failure =>
      rw [List.cons_append, ticksOf_cons_of_ending ends, ticksOf_cons_of_ending ends,
        endingOf_cons, ends]
      rfl

end Story

section Act

variable {t : Table} {id : Int} {n : Nat} {snapshot : Bool}

theorem act_of_going (waits : t.Waits id n (.marketData snapshot)) {c : Concern} (own : c.IsOf id)
    (goes : c.ending? n = none) :
    (c.act t).items n = t.items n ++ c.tick?.toList.map .tick ∧
      (c.act t).Waits id n (.marketData snapshot) := by
  have unchanged : t.items n = t.items n ++ [] := (List.append_nil _).symm
  cases c with
  | enrolled request =>
    obtain ⟨r, found, _⟩ := waits.holds
    exact ⟨(Table.items_enroll found request).trans unchanged, waits.enroll own⟩
  | cancelled m failure =>
    have other : m ≠ n := fun same => by simp [Concern.ending?, same] at goes
    exact ⟨(t.items_cancel m n failure).trans unchanged, waits.cancel_of_ne other failure⟩
  | abandoned m =>
    have other : m ≠ n := fun same => by simp [Concern.ending?, same] at goes
    unfold Concern.act
    dsimp only
    split
    · exact ⟨unchanged, waits⟩
    · exact ⟨(t.items_abandon m n).trans unchanged, waits.abandon_of_ne other⟩
  | lost failure => cases goes
  | arrived arrival =>
    cases arrival with
    | tick found brought | marketDataType found kind =>
      cases own
      exact ⟨waits.items_dispatch _, waits.dispatch_of_more rfl⟩
    | currentTime _ | managedAccounts _ | nextValidId _ | unknown _ => cases own
    | _ => cases goes

/-- What ends a stream puts nothing on it, and its request has this outcome. -/
theorem act_of_ending (waits : t.Waits id n (.marketData snapshot)) {c : Concern} (own : c.IsOf id)
    {failure : Option Failure} (ends : c.ending? n = some failure) :
    (c.act t).items n = t.items n ∧
      (c.act t).outcome? n = some (Request.outcomeOf failure (some (.marketData snapshot))) := by
  cases c with
  | enrolled request => cases ends
  | cancelled m reason =>
    obtain ⟨rfl, rfl⟩ : m = n ∧ some reason = failure := by
      simpa [Concern.ending?] using ends
    exact ⟨t.items_cancel m m reason, waits.outcome?_cancel reason⟩
  | abandoned m =>
    obtain ⟨rfl, rfl⟩ : m = n ∧ some .cancelled = failure := by
      simpa [Concern.ending?] using ends
    unfold Concern.act
    dsimp only
    rw [waits.outcome?]
    exact ⟨t.items_abandon m m, waits.outcome?_abandon⟩
  | lost reason =>
    cases ends
    exact ⟨t.items_teardown reason n, waits.outcome?_teardown reason⟩
  | arrived arrival =>
    cases arrival with
    | tick _ _ | marketDataType _ _ => cases ends
    | currentTime _ | managedAccounts _ | nextValidId _ | unknown _ => cases ends
    | notice told =>
      cases ends
      obtain ⟨otherwise, refused⟩ := destination_of_notice own
      unfold Concern.act
      dsimp only
      rw [refused]
      exact ⟨t.items_fail id _ n, waits.outcome?_fail _⟩
    | snapshotEnd found =>
      cases own
      cases ends
      exact ⟨(waits.items_dispatch _).trans (List.append_nil _), waits.outcome?_of_last rfl⟩
    | _ =>
      cases own
      cases ends
      exact ⟨(waits.items_dispatch _).trans (List.append_nil _), waits.outcome?_of_refused rfl⟩

/-- A story puts on an open stream the ticks in front of its end, and its end is that of the
stream. -/
theorem foldl_act (waits : t.Waits id n (.marketData snapshot)) {told : List Concern}
    (own : ∀ c ∈ told, c.IsOf id) :
    (told.foldl Concern.act t).items n = t.items n ++ (ticksOf n told).map .tick ∧
      (told.foldl Concern.act t).outcome? n =
        (endingOf n told).map fun failure =>
          Request.outcomeOf failure (some (.marketData snapshot)) := by
  induction told generalizing t with
  | nil => exact ⟨(List.append_nil _).symm, waits.outcome?⟩
  | cons c rest ih =>
    obtain ⟨ownHead, ownRest⟩ := List.forall_mem_cons.mp own
    cases ends : c.ending? n with
    | none =>
      obtain ⟨put, still⟩ := act_of_going waits ownHead ends
      obtain ⟨items, outcome⟩ := ih still ownRest
      refine ⟨?_, ?_⟩
      · rw [List.foldl_cons, items, put, List.append_assoc, ← List.map_append,
          ticksOf_cons_of_going ends]
      · rw [List.foldl_cons, outcome, endingOf_cons, ends, Option.none_or]
    | some failure =>
      obtain ⟨put, ended⟩ := act_of_ending waits ownHead ends
      refine ⟨?_, ?_⟩
      · rw [List.foldl_cons, items_foldl_act_of_ended (by rw [ended]; rfl), put,
          ticksOf_cons_of_ending ends]
        exact (List.append_nil _).symm
      · rw [List.foldl_cons, outcome?_foldl_act_of_some ended, endingOf_cons, ends]
        rfl

end Act

/-- What a reader gets when it asks for the next item. -/
inductive Sight where
  | item (item : Item)
  /-- There are no more items; this is what is kept of the stream's failure then. -/
  | over (failure : Option Failure)

/-- A session, and a stream of it in the hands of its reader. -/
structure Watch where
  session : Session
  said : Bool := false
  failure : Option Failure := none
  released : Bool := false
  read : Nat := 0
  got : List Sight := []

namespace Watch

inductive Move where
  | session (move : Course.Move)
  | say
  /-- Whoever completed the request lets go of the sending end. -/
  | release
  | poll

/-- Does one thing. The end is said when the request is completed, and the sending end is let go of
only when it is said. A reader for which there is nothing yet waits. -/
def step (stream : Stream) (w : Watch) : Move → Watch
  | .session move => { w with session := Course.step w.session move }
  | .say =>
    match w.session.outcome? stream.request with
    | some result => if w.said then w else { w with said := true, failure := failureOf result }
    | none => w
  | .release => if w.said then { w with released := true } else w
  | .poll =>
    match (w.session.items stream)[w.read]? with
    | some item => { w with read := w.read + 1, got := w.got ++ [.item item] }
    | none => if w.released then { w with got := w.got ++ [.over w.failure] } else w

def run (stream : Stream) (w : Watch) (moves : List Move) : Watch := moves.foldl (step stream) w

def Move.session? : Move → Option Course.Move
  | .session move => some move
  | .say | .release | .poll => none

theorem run_append (stream : Stream) (w : Watch) (moves more : List Move) :
    w.run stream (moves ++ more) = (w.run stream moves).run stream more := List.foldl_append

theorem session_step (stream : Stream) (w : Watch) (move : Move) :
    (w.step stream move).session = Course.run w.session move.session?.toList := by
  cases move with
  | session move => rfl
  | say =>
    unfold step
    dsimp only
    split
    · split <;> rfl
    · rfl
  | release =>
    unfold step
    dsimp only
    split <;> rfl
  | poll =>
    unfold step
    dsimp only
    split
    · rfl
    · split <;> rfl

theorem session_run (stream : Stream) (w : Watch) (moves : List Move) :
    (w.run stream moves).session = Course.run w.session (moves.filterMap Move.session?) := by
  induction moves generalizing w with
  | nil => rfl
  | cons move rest ih =>
    show ((w.step stream move).run stream rest).session = _
    rw [ih, session_step, List.filterMap_cons]
    cases move.session? <;> rfl

theorem said_run {stream : Stream} {w : Watch} (said : w.said = true) (moves : List Move) :
    (w.run stream moves).said = true ∧ (w.run stream moves).failure = w.failure := by
  induction moves generalizing w with
  | nil => exact ⟨said, rfl⟩
  | cons move rest ih =>
    have kept : (w.step stream move).said = true ∧ (w.step stream move).failure = w.failure := by
      cases move with
      | session move => exact ⟨said, rfl⟩
      | say =>
        unfold step
        simp only [said, ↓reduceIte]
        split <;> exact ⟨said, rfl⟩
      | release =>
        unfold step
        simp only [said, ↓reduceIte, and_self]
      | poll =>
        unfold step
        dsimp only
        split
        · exact ⟨said, rfl⟩
        · split <;> exact ⟨said, rfl⟩
    obtain ⟨still, same⟩ := ih kept.1
    exact ⟨still, same.trans kept.2⟩

/-- A reader of a stream on which these ticks are, and which has ended like this if it has. It has
got some of the ticks in order, and the end only behind all of them; by then the end is said, and
the sending end is gone. -/
structure Sound (stream : Stream) (w : Watch) (ticks : List Tick)
    (ending : Option (Option Failure)) :
    Prop where
  items : w.session.items stream = ticks.map .tick
  outcome : (w.session.outcome? stream.request).map failureOf = ending
  unsaid : w.said = false → w.failure = none
  said : w.said = true → ending = some w.failure
  released : w.released = true → w.said = true
  got : ∃ overs, w.got = (ticks.take w.read).map (fun t => .item (.tick t)) ++
    List.replicate overs (.over w.failure) ∧
    (0 < overs → w.released = true ∧ w.read = ticks.length)
  read : w.read ≤ ticks.length

section Sound

variable {stream : Stream} {w : Watch} {ticks : List Tick} {ending : Option (Option Failure)}

theorem Sound.poll (sound : w.Sound stream ticks ending) :
    (w.step stream .poll).Sound stream ticks ending := by
  obtain ⟨overs, got, last⟩ := sound.got
  unfold step
  dsimp only
  rw [sound.items, List.getElem?_map]
  cases next : ticks[w.read]? with
  | some tick =>
    obtain ⟨inside, same⟩ := List.getElem?_eq_some_iff.mp next
    have none : overs = 0 := by
      by_contra some
      have all := (last (Nat.pos_of_ne_zero some)).2
      omega
    dsimp only [Option.map_some]
    refine ⟨sound.items, sound.outcome, sound.unsaid, sound.said, sound.released,
      ⟨0, ?_, nofun⟩, inside⟩
    rw [got, none, List.take_add_one, next]
    simp
  | none =>
    have all : w.read = ticks.length :=
      Nat.le_antisymm sound.read (List.getElem?_eq_none_iff.mp next)
    dsimp only [Option.map_none]
    split
    · rename_i gone
      refine ⟨sound.items, sound.outcome, sound.unsaid, sound.said, sound.released,
        ⟨overs + 1, ?_, fun _ => ⟨gone, all⟩⟩, sound.read⟩
      dsimp only
      rw [got, List.replicate_succ', List.append_assoc]
    · exact sound

theorem Sound.say (sound : w.Sound stream ticks ending) :
    (w.step stream .say).Sound stream ticks ending := by
  unfold step
  dsimp only
  split
  · rename_i result ended
    split
    · exact sound
    · rename_i unsaid
      have same : ending = some (failureOf result) := by
        rw [← sound.outcome, ended]
        rfl
      obtain ⟨overs, got, last⟩ := sound.got
      have quiet : w.released = false := by
        cases gone : w.released with
        | false => rfl
        | true => exact absurd (sound.released gone) unsaid
      have none : overs = 0 := by
        by_contra some
        have gone := (last (Nat.pos_of_ne_zero some)).1
        rw [quiet] at gone
        cases gone
      refine ⟨sound.items, sound.outcome, nofun, fun _ => same, fun _ => rfl, ⟨0, ?_, nofun⟩,
        sound.read⟩
      rw [got, none]
      rfl
  · exact sound

theorem Sound.release (sound : w.Sound stream ticks ending) :
    (w.step stream .release).Sound stream ticks ending := by
  unfold step
  dsimp only
  split
  · rename_i said
    obtain ⟨overs, got, last⟩ := sound.got
    exact ⟨sound.items, sound.outcome, sound.unsaid, sound.said, fun _ => said,
      ⟨overs, got, fun some => ⟨rfl, (last some).2⟩⟩, sound.read⟩
  · exact sound

/-- The session goes on: ticks are put behind those that are there, and an end stays as it is. -/
theorem Sound.go (sound : w.Sound stream ticks ending) (after : Session) {more : List Tick}
    {final : Option (Option Failure)} (items : after.items stream = (ticks ++ more).map .tick)
    (outcome : (after.outcome? stream.request).map failureOf = final)
    (kept : ∀ failure, ending = some failure → more = [] ∧ final = some failure) :
    ({ w with session := after } : Watch).Sound stream (ticks ++ more) final := by
  obtain ⟨overs, got, last⟩ := sound.got
  have within := sound.read
  refine ⟨items, outcome, sound.unsaid, ?_, sound.released, ⟨overs, ?_, ?_⟩, ?_⟩
  · exact fun said => (kept w.failure (sound.said said)).2
  · rw [List.take_append_of_le_length within]
    exact got
  · intro some
    obtain ⟨gone, all⟩ := last some
    have none := (kept w.failure (sound.said (sound.released gone))).1
    rw [none, List.append_nil]
    exact ⟨gone, all⟩
  · rw [List.length_append]
    exact Nat.le_add_right_of_le within

theorem Sound.run_polls (sound : w.Sound stream ticks ending) (count : Nat)
    (within : w.read + count ≤ ticks.length) :
    let after := w.run stream (List.replicate count .poll)
    after.Sound stream ticks ending ∧ after.read = w.read + count ∧ after.failure = w.failure ∧
      after.released = w.released := by
  induction count generalizing w with
  | zero => exact ⟨sound, rfl, rfl, rfl⟩
  | succ count ih =>
    have next : (w.session.items stream)[w.read]? = some (.tick ticks[w.read]) := by
      rw [sound.items, List.getElem?_map, List.getElem?_eq_getElem]
      rfl
    have polled : w.step stream .poll =
        { w with read := w.read + 1, got := w.got ++ [.item (.tick ticks[w.read])] } := by
      unfold step
      rw [next]
    have moved : (w.step stream .poll).read = w.read + 1 := by rw [polled]
    obtain ⟨after, read, failure, released⟩ := ih sound.poll (by rw [moved]; omega)
    refine ⟨after, ?_, ?_, ?_⟩
    · show Watch.read (run stream (w.step stream .poll) _) = _
      rw [read, moved]
      omega
    · exact failure.trans (by rw [polled])
    · exact released.trans (by rw [polled])

/-- A reader that asks on when the sending end is gone gets all ticks and then the end. -/
theorem Sound.exists_over (sound : w.Sound stream ticks ending) (released : w.released = true) :
    ∃ polls overs, (w.run stream (List.replicate polls .poll)).got =
      ticks.map (fun t => .item (.tick t)) ++ List.replicate (overs + 1) (.over w.failure) := by
  obtain ⟨there, read, failure, gone⟩ :=
    sound.run_polls (ticks.length - w.read) (by have := sound.read; omega)
  have all : w.read + (ticks.length - w.read) = ticks.length := by
    have := sound.read
    omega
  obtain ⟨overs, got, _⟩ := there.got
  refine ⟨ticks.length - w.read + 1, overs, ?_⟩
  rw [List.replicate_succ', run_append]
  generalize w.run stream (List.replicate (ticks.length - w.read) .poll) = last at *
  have nothing : (last.session.items stream)[last.read]? = none := by
    rw [there.items, read, all, List.getElem?_eq_none_iff, List.length_map]
  have polled : last.step stream .poll = { last with got := last.got ++ [.over last.failure] } := by
    unfold step
    rw [nothing]
    exact if_pos (gone.trans released)
  show (last.step stream .poll).got = _
  rw [polled, got, read, all, List.take_length, failure, List.replicate_succ', List.append_assoc]

/-- Whoever has completed the request says so, and then lets go of the sending end. -/
theorem released_of_ended {result : Except Failure Slot}
    (ended : w.session.outcome? stream.request = some result) :
    (w.run stream [.say, .release]).released = true := by
  have said : (w.step stream .say).said = true := by
    unfold step
    rw [ended]
    dsimp only
    split
    · assumption
    · rfl
  exact congrArg Watch.released (if_pos said)

end Sound

end Watch

section Runs

variable {given : Session} {stream : Stream} {snapshot : Bool}

theorem items_and_outcome_run (filed : given.table.Filed)
    (waits : given.table.Waits stream.id stream.request (.marketData snapshot))
    (nothing : given.table.items stream.request = []) (moves : List Move) :
    let n := given.table.rank stream.id stream.request
    let told := story stream.id given moves
    (run given moves).items stream = (ticksOf n told).map .tick ∧
      ((run given moves).outcome? stream.request).map failureOf = endingOf n told := by
  intro n told
  obtain ⟨view, items, outcome⟩ := request?_run_of_waits filed waits moves
  obtain ⟨put, ended⟩ := foldl_act view fun c heard => isOf_of_mem_story heard
  have blank : (given.table.focus stream.id).items n = [] :=
    (Table.items_focus (filed.ofId _ _ waits.pending)).trans nothing
  refine ⟨?_, ?_⟩
  · rw [blank] at put
    exact items.trans put
  · rw [outcome, ended, Option.map_map]
    cases endingOf n told <;> simp

/-- Whatever the reader and the session do in turn, the reader is where the story of the id has led
it. -/
theorem sound_of_watched (filed : given.table.Filed)
    (waits : given.table.Waits stream.id stream.request (.marketData snapshot))
    (nothing : given.table.items stream.request = []) (moves : List Watch.Move) :
    let n := given.table.rank stream.id stream.request
    let told := story stream.id given (moves.filterMap Watch.Move.session?)
    (Watch.run stream { session := given } moves).Sound stream (ticksOf n told)
      (endingOf n told) := by
  induction moves using List.reverseRecOn with
  | nil =>
    obtain ⟨items, outcome⟩ := items_and_outcome_run filed waits nothing []
    exact ⟨items, outcome, fun _ => rfl, nofun, nofun, ⟨0, rfl, nofun⟩, Nat.le_refl 0⟩
  | append_singleton moves move ih =>
    intro n told
    rw [Watch.run_append]
    show ((Watch.run stream { session := given } moves).step stream move).Sound stream _ _
    have same : move.session? = none →
        told = story stream.id given (moves.filterMap Watch.Move.session?) := fun apart => by
      show story _ _ ((moves ++ [move]).filterMap _) = _
      rw [List.filterMap_append, List.filterMap_cons, apart]
      simp
    cases move with
    | say => exact same rfl ▸ ih.say
    | release => exact same rfl ▸ ih.release
    | poll => exact same rfl ▸ ih.poll
    | session move =>
      -- the story goes on with what the move tells the id
      have onward : told = story stream.id given (moves.filterMap Watch.Move.session?) ++
          story stream.id (run given (moves.filterMap Watch.Move.session?)) [move] := by
        rw [← story_append]
        show story _ _ ((moves ++ [Watch.Move.session move]).filterMap _) = _
        rw [List.filterMap_append]
        rfl
      have went : (run given ((moves ++ [Watch.Move.session move]).filterMap Watch.Move.session?)) =
          step (Watch.run stream { session := given } moves).session move := by
        rw [Watch.session_run, List.filterMap_append]
        exact List.foldl_append
      obtain ⟨items, outcome⟩ := items_and_outcome_run filed waits nothing
        ((moves ++ [Watch.Move.session move]).filterMap Watch.Move.session?)
      rw [went] at items outcome
      have parts : ticksOf n told = _ := (congrArg (ticksOf n) onward).trans (ticksOf_append _ _)
      rw [parts]
      refine ih.go (step (Watch.run stream { session := given } moves).session move)
        (parts ▸ items) outcome ?_
      intro failure ended
      refine ⟨?_, ?_⟩
      · rw [ended]
        rfl
      · rw [onward, endingOf_append, ended]
        rfl

end Runs

/-- A turn of the loop brings a tick if and only if the loop is to go on and finds a payload that
has it. -/
theorem brings_tick_iff {s : Session} {id : Int} {tick : Tick} :
    (∃ c ∈ concerns id s .turn, c.tick? = some tick) ↔
      s.down = false ∧ s.shutdown = false ∧
        ∃ payload, s.link.take.2 = some (.ok payload) ∧ BringsTick s.offset payload id tick := by
  have own : ∀ arrival :
    Arrival, (∃ c ∈ (if arrival.id? = some id then [Concern.arrived arrival] else []),
      c.tick? = some tick) ↔ arrival.tick? = some (id, tick) := by
    intro arrival
    cases arrival <;> simp [Concern.tick?, Arrival.tick?, Arrival.id?]
  simp only [concerns, incoming?, ← Arrival.read_tick_iff]
  cases s.down with
  | true => simp
  | false =>
    cases s.shutdown with
    | true => simp [Concern.tick?]
    | false =>
      rcases s.link.take.2 with _ | failure | payload
      · simp
      · simp [Concern.tick?]
      · cases read : Arrival.read s.offset payload with
        | error e => simp [Except.mapError, read, Concern.tick?]
        | ok arrival =>
          simp only [Bool.false_eq_true, ↓reduceIte, read, Except.mapError]
          refine Iff.trans (own arrival) ⟨?_, ?_⟩
          · exact fun brings => ⟨trivial, trivial, payload, rfl, arrival, read, brings⟩
          · rintro ⟨_, _, _, same, found, also, brings⟩
            cases same
            rw [read] at also
            cases also
            exact brings

/-- However its reader and the session take turns, the reader of a stream of ticks has got the ticks
that came under the stream's id from its registration to its end, each once and in order, up to
where it has read, and behind all of them that the stream is over. The ticks come in the six
messages that bring them. A reader that is told of the end finds there the failure that completed
the stream, or none behind the end of a snapshot, and this never changes. From whatever point the
stream has ended, a reader that goes on gets all that is left, and then the end. -/
theorem tick_stream_is_read_to_its_end (s : Session) (first : Int) (before : List Move)
    (contract : Contract) (genericTicks : String) (snapshot : Bool) (given : Session)
    (stream : Stream)
    (asks : StreamOpened (run (opened s first) before) (.ticks contract genericTicks snapshot)
      stream given)
    (moves : List Watch.Move) :
    let w := Watch.run stream { session := given } moves
    let n := given.table.rank stream.id stream.request
    let told := story stream.id given (moves.filterMap Watch.Move.session?)
    let ticks := ticksOf n told
    let sights := ticks.map fun tick => Sight.item (.tick tick)
    (∀ (s : Session) (id : Int) (tick : Tick), (∃ c ∈ concerns id s .turn, c.tick? = some tick) ↔
      s.down = false ∧ s.shutdown = false ∧
        ∃ payload, s.link.take.2 = some (.ok payload) ∧ BringsTick s.offset payload id tick) ∧
    (w.session.isOver stream = (endingOf n told).isSome ∧
      w.session.lastFailure stream = (endingOf n told).join ∧
      (endingOf n told = none → w.failure = none)) ∧
    (w.read ≤ ticks.length ∧
      ∃ overs, w.got = sights.take w.read ++ List.replicate overs (.over w.failure) ∧
        (0 < overs → w.read = ticks.length)) ∧
    (∀ failure, .over failure ∈ w.got → endingOf n told = some failure ∧
      ∀ more, (w.run stream more).failure = failure ∧
        (w.run stream more).session.items stream = ticks.map .tick) ∧
    ∀ failure, endingOf n told = some failure → ∃ polls overs,
      (w.run stream ([.say, .release] ++ List.replicate polls .poll)).got =
        sights ++ List.replicate (overs + 1) (.over failure) := by
  intro w n told ticks sights
  have filed : (run (opened s first) before).table.Filed := filed_run (filed_opened s first) before
  obtain ⟨filedGiven, waits, nothing⟩ := asks.begins filed
  have sound : w.Sound stream ticks (endingOf n told) :=
    sound_of_watched filedGiven waits nothing moves
  obtain ⟨overs, got, last⟩ := sound.got
  have outcome := sound.outcome
  refine ⟨fun _ _ _ => brings_tick_iff, ⟨?_, ?_, ?_⟩,
    ⟨sound.read, overs, ?_, fun some => (last some).2⟩, ?_, ?_⟩
  · rw [← outcome, Option.isSome_map]
    rfl
  · rw [← outcome, lastFailure]
    rcases w.session.outcome? stream.request with _ | _ | _ <;> rfl
  · intro running
    cases said : w.said with
    | false => exact sound.unsaid said
    | true =>
      rw [sound.said said] at running
      cases running
  · rw [got, List.map_take]
  · intro failure member
    -- whoever is told of the end is told of what is kept, and all that is kept is said by then
    have shown : 0 < overs ∧ failure = w.failure := by
      rw [got, List.mem_append] at member
      rcases member with early | late
      · obtain ⟨_, _, same⟩ := List.mem_map.mp early
        cases same
      · obtain ⟨some, same⟩ := List.mem_replicate.mp late
        exact ⟨Nat.pos_of_ne_zero some, Sight.over.inj same⟩
    obtain ⟨some, rfl⟩ := shown
    have said := sound.released (last some).1
    have ended := sound.said said
    refine ⟨ended, fun more => ⟨(Watch.said_run said more).2, ?_⟩⟩
    have later := (sound_of_watched filedGiven waits nothing (moves ++ more)).items
    rw [Watch.run_append, List.filterMap_append, story_append, ticksOf_append, ended] at later
    exact later.trans (congrArg (List.map Item.tick) (List.append_nil _))
  · intro failure ended
    have through := sound.say.release
    obtain ⟨result, found, _⟩ := Option.map_eq_some_iff.mp (outcome.trans ended)
    have gone := Watch.released_of_ended found
    obtain ⟨polls, overs, all⟩ := through.exists_over gone
    have same : failure = (w.run stream [.say, .release]).failure :=
      Option.some.inj (ended.symm.trans (through.said (through.released gone)))
    refine ⟨polls, overs, ?_⟩
    rw [Watch.run_append, same]
    exact all

/-- The reader of a stream with a snapshot asks too early, gets the kind of the data, asks again
when the end of the snapshot has come but before the sending end is gone, and then is told of the
end. -/
theorem snapshot_is_read_to_its_end :
    let s := ofReady {} 7 0 {} 176 "" 1
    let stream : Stream := ⟨1, 0, none, false⟩
    let kind : Bytes := [53, 56, 0, 49, 0, 49, 0, 51, 0]
    let ended : Bytes := [53, 55, 0, 49, 0, 49, 0]
    let given := step (opened s 1) (.enroll (.ticker 1) (.marketData true) true)
    let moves : List Watch.Move :=
      [.poll, .session (delivery kind), .session .turn, .session (delivery ended), .poll,
        .session .turn, .poll, .say, .poll, .release, .poll]
    StreamOpened (run (opened s 1) []) (.ticks {} "" true) stream given ∧
      (Watch.run stream { session := given } moves).got =
      [.item (.tick (.marketDataType 3)), .over none] ∧
      ∀ more, (Watch.run stream { session := given } (moves ++ more)).failure = none := by
  intro s stream kind ended given moves
  have asks : StreamOpened (run (opened s 1) []) (.ticks {} "" true) stream given :=
    .registered rfl rfl rfl
  have got : (Watch.run stream { session := given } moves).got =
      [.item (.tick (.marketDataType 3)), .over none] := by cbv
  obtain ⟨_, _, _, atEnd, _⟩ :=
    tick_stream_is_read_to_its_end s 1 [] {} "" true given stream asks moves
  refine ⟨asks, got, fun more => ?_⟩
  rw [Watch.run_append]
  exact ((atEnd none (by rw [got]; simp)).2 more).1

end Course

end MarketLink.Session
