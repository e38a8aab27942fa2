import Mathlib
import MarketLink.Proofs.Session.Streams
import MarketLink.Proofs.Wire.Plain

set_option autoImplicit false

namespace MarketLink.Session

open Correlation Market Message Time Wire

namespace Course

/-- What may end a stream of ticks, other than the end of a snapshot: it is cancelled or dropped,
its id is refused, a message of another kind comes under its id, or the connection is lost. -/
def Concern.endsTicks (n : Nat) : Concern → Bool
  | .enrolled _ => false
  | .arrived (.tick _ _) | .arrived (.marketDataType _ _) | .arrived (.snapshotEnd _) => false
  | .arrived _ => true
  | .cancelled m _ | .abandoned m => m == n
  | .lost _ => true

section Act

variable {t : Table} {id : Int} {n : Nat} {snapshot : Bool}

theorem waits_or_ended_act (waits : t.Waits id n (.marketData snapshot)) {c : Concern}
    (own : c.IsOf id) (harmless : c.endsTicks n = false) :
    (c ≠ .arrived (.snapshotEnd id) ∧ (c.act t).Waits id n (.marketData snapshot)) ∨
      c = .arrived (.snapshotEnd id) ∧
        (c.act t).outcome? n = some (.ok (.marketData snapshot)) := by
  cases c with
  | enrolled request => exact Or.inl ⟨nofun, waits.enroll own⟩
  | cancelled m failure =>
    have other : m ≠ n := beq_eq_false_iff_ne.mp harmless
    exact Or.inl ⟨nofun, waits.cancel_of_ne other failure⟩
  | abandoned m =>
    have other : m ≠ n := beq_eq_false_iff_ne.mp harmless
    refine Or.inl ⟨nofun, ?_⟩
    unfold Concern.act
    dsimp only
    split
    · exact waits
    · exact waits.abandon_of_ne other
  | lost failure => cases harmless
  | arrived arrival =>
    cases arrival with
    | tick found tick =>
      cases own
      exact Or.inl ⟨nofun, waits.dispatch_of_more rfl⟩
    | marketDataType found kind =>
      cases own
      exact Or.inl ⟨nofun, waits.dispatch_of_more rfl⟩
    | snapshotEnd found =>
      cases own
      exact Or.inr ⟨rfl, waits.outcome?_of_last rfl⟩
    | _ => cases harmless

/-- A story in which nothing else ends the stream decides by the end of a snapshot alone. -/
theorem waits_or_ended_foldl_act (waits : t.Waits id n (.marketData snapshot)) {told : List Concern}
    (own : ∀ c ∈ told, c.IsOf id) (harmless : ∀ c ∈ told, c.endsTicks n = false) :
    (.arrived (.snapshotEnd id) ∉ told ∧
        (told.foldl Concern.act t).Waits id n (.marketData snapshot)) ∨
      .arrived (.snapshotEnd id) ∈ told ∧
        (told.foldl Concern.act t).outcome? n = some (.ok (.marketData snapshot)) := by
  induction told generalizing t with
  | nil => exact Or.inl ⟨List.not_mem_nil, waits⟩
  | cons c rest ih =>
    have head := List.mem_cons_self (a := c) (l := rest)
    have ownRest := fun d later => own d (List.mem_cons_of_mem c later)
    have harmlessRest := fun d later => harmless d (List.mem_cons_of_mem c later)
    rcases waits_or_ended_act waits (own c head) (harmless c head) with ⟨other, goes⟩ |
      ⟨same, ended⟩
    · rcases ih goes ownRest harmlessRest with ⟨absent, still⟩ | ⟨present, ended⟩
      · refine Or.inl ⟨?_, still⟩
        rw [List.mem_cons, not_or]
        exact ⟨Ne.symm other, absent⟩
      · exact Or.inr ⟨List.mem_cons_of_mem c present, ended⟩
    · exact Or.inr ⟨same ▸ head, outcome?_foldl_act_of_some ended rest⟩

end Act

/-- A stream of ticks, with or without a snapshot asked for, that nothing else ends stays pending
and open exactly as long as no end of a snapshot comes under its id; that one ends it without a
failure. -/
theorem ticks_stay_open_iff_no_snapshot_end (s : Session) (first : Int) (before after : List Move)
    (contract : Contract) (genericTicks : String) (snapshot : Bool) {given : Session}
    {stream : Stream}
    (subscribed : (run (opened s first) before).subscribe (.ticks contract genericTicks snapshot) =
      (given, .ok stream))
    (harmless : ∀ c ∈ story stream.id given after,
      c.endsTicks (given.table.rank stream.id stream.request) = false) :
    let w := run given after
    let ended := Concern.arrived (.snapshotEnd stream.id)
    ((w.table.pendingId? stream.id = some stream.request ∧ w.isOver stream = false) ↔
      ended ∉ story stream.id given after) ∧
    (ended ∈ story stream.id given after →
      w.isOver stream = true ∧ w.lastFailure stream = none) := by
  intro w ended
  obtain ⟨free, number, table⟩ := subscribe_of_ok subscribed
  have filed : (run (opened s first) before).table.Filed := filed_run (filed_opened s first) before
  have drawn : (run (opened s first) before).table.allocate.1.Filed :=
    filed.of_keys rfl rfl (fun _ _ same => same) fun _ _ same => same
  have filedGiven : given.table.Filed := by
    rw [table]
    exact drawn.enroll _
  have carries : (Key.ticker stream.id).id? = some stream.id := rfl
  have free : (run (opened s first) before).table.allocate.1.pendingId? stream.id = none := free
  have waits : given.table.Waits stream.id stream.request (.marketData snapshot) := by
    rw [table, number]
    exact Table.waits_enroll carries free (.marketData snapshot) true
  have carried : given.table.idOf? stream.request = some stream.id :=
    filedGiven.ofId _ _ waits.pending
  -- the stream, as its own id sees it
  have view : (given.table.focus stream.id).Waits stream.id
      (given.table.rank stream.id stream.request) (.marketData snapshot) := by
    refine ⟨(filedGiven.pendingId?_focus_iff carried).mpr waits.pending, ?_⟩
    rw [Table.request?_focus carried]
    exact waits.holds
  have grown := keys_run given after
  have still : w.table.idOf? stream.request = some stream.id := Table.idOf?_of_prefix grown carried
  have rank : w.table.rank stream.id stream.request = given.table.rank stream.id stream.request :=
    Table.rank_of_prefix grown (Nat.le_of_lt (Table.inside_of_idOf? carried))
  have outcome : w.outcome? stream.request =
      (w.table.focus stream.id).outcome? (given.table.rank stream.id stream.request) := by
    rw [← rank, Table.outcome?, Table.request?_focus still, Session.outcome?]
  have pending := (filed_run filedGiven after).pendingId?_focus_iff still
  have story := focus_run filedGiven stream.id after
  rcases waits_or_ended_foldl_act view (fun c told => isOf_of_mem_story told) harmless with
    ⟨absent, goes⟩ | ⟨present, finished⟩
  · rw [← story] at goes
    refine ⟨iff_of_true ⟨?_, ?_⟩ absent, fun present => absurd present absent⟩
    · rw [← pending, rank]
      exact goes.pending
    · rw [isOver, outcome, goes.outcome?]
      rfl
  · rw [← story] at finished
    have isOver : w.isOver stream = true := by
      rw [isOver, outcome, finished]
      rfl
    refine ⟨iff_of_false ?_ (not_not_intro present), fun _ => ⟨isOver, ?_⟩⟩
    · rintro ⟨_, open_⟩
      rw [isOver] at open_
      cases open_
    · rw [lastFailure, outcome, finished]

/-- A session whose only request is a stream of ticks, with the frame that asked for it. -/
def ticking (frame : Bytes) (snapshot : Bool) : Session :=
  { ofReady {} 7 0 { outbound := frame, woken := true } 176 "" 1 with
    table := ((Table.empty.seed 1).allocate.1.enroll
      (Request.new (.ticker 1) (.marketData snapshot) true)).1 }

def firstTicks : Stream := ⟨1, 0, (cancelMarketData 1).toOption, false⟩

theorem subscribe_firstTicks (snapshot : Bool) : ∃ frame,
    (run (opened (ofReady {} 7 0 {} 176 "" 1) 1) []).subscribe (.ticks {} "" snapshot) =
      (ticking frame snapshot, .ok firstTicks) := by
  obtain ⟨frame, written⟩ := reqMarketData_blank snapshot
  have asked : (Feed.ticks {} "" snapshot).frame 1 = .ok frame := written
  have drawn : (opened (ofReady {} 7 0 {} 176 "" 1) 1).table.allocate.2 = .ok 1 := rfl
  refine ⟨frame, ?_⟩
  unfold subscribe
  simp only [run, List.foldl_nil, Feed.check, drawn]
  simp only [asked, submit_frame, enter, Gate.acquire, opened, ofReady]
  rfl

/-- A stream of ticks with a snapshot hears of its kind of data and is open; the end of the snapshot
ends it. -/
theorem snapshot_ends_its_stream :
    let kind : Bytes := [53, 56, 0, 49, 0, 49, 0, 51, 0]
    let ended : Bytes := [53, 55, 0, 49, 0, 49, 0]
    ∃ given stream,
      (run (opened (ofReady {} 7 0 {} 176 "" 1) 1) []).subscribe (.ticks {} "" true) =
          (given, .ok stream) ∧
        (run given [delivery kind, .turn]).isOver stream = false ∧
        (run given [delivery kind, .turn, delivery ended, .turn]).isOver stream = true ∧
        (run given [delivery kind, .turn, delivery ended, .turn]).lastFailure stream = none := by
  intro kind ended
  obtain ⟨frame, subscribed⟩ := subscribe_firstTicks true
  have quiet : story 1 (ticking frame true) [delivery kind, .turn] =
      [.arrived (.marketDataType 1 3)] := by cbv
  have whole : story 1 (ticking frame true) [delivery kind, .turn, delivery ended, .turn] =
      [.arrived (.marketDataType 1 3), .arrived (.snapshotEnd 1)] := by cbv
  have quietly : ∀ c ∈ story 1 (ticking frame true) [delivery kind, .turn],
      c.endsTicks ((ticking frame true).table.rank 1 0) = false := by
    rw [quiet]
    simp [Concern.endsTicks]
  have wholly : ∀ c ∈ story 1 (ticking frame true) [delivery kind, .turn, delivery ended, .turn],
      c.endsTicks ((ticking frame true).table.rank 1 0) = false := by
    rw [whole]
    simp [Concern.endsTicks]
  have before := ticks_stay_open_iff_no_snapshot_end _ 1 [] _ {} "" true subscribed quietly
  have after := ticks_stay_open_iff_no_snapshot_end _ 1 [] _ {} "" true subscribed wholly
  refine ⟨_, _, subscribed, (before.1.mpr ?_).2, after.2 ?_⟩
  · show _ ∉ story 1 (ticking frame true) [delivery kind, .turn]
    rw [quiet]
    simp
  · show _ ∈ story 1 (ticking frame true) [delivery kind, .turn, delivery ended, .turn]
    rw [whole]
    simp [firstTicks]

/-- A stream of ticks without a snapshot is ended by the end of a snapshot, as if it had ended by
itself. -/
theorem lasting_stream_is_ended_by_snapshot_end :
    let ended : Bytes := [53, 55, 0, 49, 0, 49, 0]
    ∃ given stream,
      (run (opened (ofReady {} 7 0 {} 176 "" 1) 1) []).subscribe (.ticks {} "" false) =
          (given, .ok stream) ∧
        story stream.id given [delivery ended, .turn] = [.arrived (.snapshotEnd stream.id)] ∧
        given.isOver stream = false ∧
        (run given [delivery ended, .turn]).table.pendingId? stream.id = none ∧
        (run given [delivery ended, .turn]).isOver stream = true ∧
        (run given [delivery ended, .turn]).lastFailure stream = none := by
  intro ended
  obtain ⟨frame, subscribed⟩ := subscribe_firstTicks false
  refine ⟨_, _, subscribed, ?_, ?_, ?_, ?_, ?_⟩ <;> cbv

end Course

end MarketLink.Session
