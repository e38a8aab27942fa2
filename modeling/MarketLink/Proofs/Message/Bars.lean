import MarketLink.Proofs.Message.Consumption

set_option autoImplicit false

namespace MarketLink.Message

open Market Number Text Time Wire
open Wire.Reading

/-- What is read in front of the bars: the id, the ends of the window and the number of bars. -/
def headerReads : List Read := [.int, .text, .text, .int]

def barReads : List Read := [.time, .real, .real, .real, .real, .decimal, .decimal, .int]

def barsReads (count : Nat) : List Read := (List.replicate count barReads).flatten

/-- The eight fields from this number on say a bar. -/
structure ShowsBar (payload : Bytes) (offset : Int) (number : Nat) (b : Bar) : Prop where
  time : Shows payload offset number .time b.time
  opening : Shows payload offset (number + 1) .real b.opening
  high : Shows payload offset (number + 2) .real b.high
  low : Shows payload offset (number + 3) .real b.low
  closing : Shows payload offset (number + 4) .real b.closing
  volume : Shows payload offset (number + 5) .decimal b.volume
  average : Shows payload offset (number + 6) .decimal b.average
  count : Shows payload offset (number + 7) .int b.count

/-- The fields from this number on say these bars, one behind the other. -/
def ShowsBars (payload : Bytes) (offset : Int) (number : Nat) (bars : List Bar) : Prop :=
  ∀ index, (inside : index < bars.length) → ShowsBar payload offset (number + 8 * index) bars[index]

/-- How often the body of the loop over the bars runs. -/
def barRounds : Nat → Cursor → Nat
  | 0, _ => 0
  | count + 1, c => if c.fault.isSome then 0 else barRounds count (bar c).2 + 1

section Bars

variable {payload : Bytes} {offset : Int} {number count : Nat} {c : Cursor} {b : Bar}
  {bars done : List Bar}

theorem bar_snd (c : Cursor) : (bar c).2 = c.after (barReads.map Move.read) := by
  unfold bar
  simp only [bind_apply, pure_apply, barReads, List.map_cons, List.map_nil, Cursor.after,
    List.foldl_cons, List.foldl_nil, Move.go, Read.reader]

theorem ShowsBar.bar (shown : ShowsBar payload offset number b) :
    Message.bar (cursorAt payload offset number) = (b, cursorAt payload offset (number + 8)) := by
  have time : Reading.time (cursorAt payload offset number) = _ := shown.time.reader
  have opening : real (cursorAt payload offset (number + 1)) = _ := shown.opening.reader
  have high : real (cursorAt payload offset (number + 2)) = _ := shown.high.reader
  have low : real (cursorAt payload offset (number + 3)) = _ := shown.low.reader
  have closing : real (cursorAt payload offset (number + 4)) = _ := shown.closing.reader
  have volume : decimal (cursorAt payload offset (number + 5)) = _ := shown.volume.reader
  have average : decimal (cursorAt payload offset (number + 6)) = _ := shown.average.reader
  have count : int (cursorAt payload offset (number + 7)) = _ := shown.count.reader
  unfold Message.bar
  rw [bind_apply, time, bind_apply, opening, bind_apply, high, bind_apply, low, bind_apply, closing,
    bind_apply, volume, bind_apply, average, bind_apply, count]
  rfl

theorem exists_showsBar
    (sound : firstFault (fieldsOf payload) offset number (barReads.map Move.read) = none) :
    ∃ b, ShowsBar payload offset number b := by
  simp only [barReads, List.map_cons, List.map_nil, firstFault, Option.or_eq_none_iff] at sound
  obtain ⟨time, opening, high, low, closing, volume, average, count, -⟩ := sound
  obtain ⟨_, time⟩ := shows_of_outcome time
  obtain ⟨_, opening⟩ := shows_of_outcome opening
  obtain ⟨_, high⟩ := shows_of_outcome high
  obtain ⟨_, low⟩ := shows_of_outcome low
  obtain ⟨_, closing⟩ := shows_of_outcome closing
  obtain ⟨_, volume⟩ := shows_of_outcome volume
  obtain ⟨_, average⟩ := shows_of_outcome average
  obtain ⟨_, count⟩ := shows_of_outcome count
  exact ⟨⟨_, _, _, _, _, _, _, _⟩, time, opening, high, low, closing, volume, average, count⟩

theorem barsReads_succ (count : Nat) : barsReads (count + 1) = barReads ++ barsReads count := rfl

theorem length_barsReads (count : Nat) : (barsReads count).length = 8 * count := by
  induction count with
  | zero => rfl
  | succ count ih =>
    rw [barsReads_succ, List.length_append, ih]
    show 8 + 8 * count = _
    omega

theorem barsOnto_of_fault (broken : c.fault ≠ none) (count : Nat) (done : List Bar) :
    barsOnto count done c = (done.reverse, c) := by
  cases count with
  | zero => rfl
  | succ count =>
    rw [barsOnto]
    dsimp only
    rw [if_pos (Option.isSome_iff_ne_none.mpr broken)]

theorem barsOnto_snd (count : Nat) (done : List Bar) (c : Cursor) :
    (barsOnto count done c).2 = c.after ((barsReads count).map Move.read) := by
  induction count generalizing done c with
  | zero => rfl
  | succ count ih =>
    by_cases sound : c.fault = none
    · rw [barsOnto_succ sound, ih, bar_snd, barsReads_succ, List.map_append, after_append]
    · rw [barsOnto_of_fault sound, after_of_fault sound]

theorem showsBars_cons (first : ShowsBar payload offset number b)
    (others : ShowsBars payload offset (number + 8) bars) :
    ShowsBars payload offset number (b :: bars) := by
  intro index inside
  cases index with
  | zero => exact first
  | succ index =>
    have place : number + 8 * (index + 1) = number + 8 + 8 * index := by omega
    rw [place]
    exact others index (Nat.lt_of_succ_lt_succ inside)

theorem ShowsBars.barsOnto (shown : ShowsBars payload offset number bars) (done : List Bar) :
    Message.barsOnto bars.length done (cursorAt payload offset number) =
      (done.reverse ++ bars, cursorAt payload offset (number + 8 * bars.length)) := by
  induction bars generalizing number done with
  | nil =>
    rw [List.append_nil]
    rfl
  | cons b bars ih =>
    have first : ShowsBar payload offset number b := shown 0 (Nat.succ_pos _)
    have others : ShowsBars payload offset (number + 8) bars := by
      intro index inside
      have place : number + 8 + 8 * index = number + 8 * (index + 1) := by omega
      rw [place]
      exact shown (index + 1) (Nat.succ_lt_succ inside)
    have place : number + 8 + 8 * bars.length = number + 8 * (b :: bars).length := by
      rw [List.length_cons]
      omega
    rw [← place, List.length_cons, barsOnto_succ rfl, first.bar, ih others, List.reverse_cons,
      List.append_assoc, List.singleton_append]

theorem exists_showsBars
    (sound : firstFault (fieldsOf payload) offset number ((barsReads count).map Move.read) = none) :
    ∃ bars : List Bar, bars.length = count ∧ ShowsBars payload offset number bars := by
  induction count generalizing number with
  | zero => exact ⟨[], rfl, fun _ inside => absurd inside (Nat.not_lt_zero _)⟩
  | succ count ih =>
    rw [barsReads_succ, List.map_append, firstFault_append, Option.or_eq_none_iff] at sound
    obtain ⟨b, first⟩ := exists_showsBar sound.1
    obtain ⟨bars, length, others⟩ := ih sound.2
    exact ⟨b :: bars, congrArg Nat.succ length, showsBars_cons first others⟩

theorem length_barsOnto (count : Nat) (done : List Bar) (c : Cursor) :
    (barsOnto count done c).1.length = done.length + barRounds count c := by
  induction count generalizing done c with
  | zero => exact List.length_reverse
  | succ count ih =>
    by_cases sound : c.fault = none
    · rw [barsOnto_succ sound, ih, barRounds, sound, if_neg (by decide), List.length_cons]
      omega
    · rw [barsOnto_of_fault sound, barRounds, if_pos (Option.isSome_iff_ne_none.mpr sound)]
      exact List.length_reverse

theorem barRounds_of_fault (broken : c.fault ≠ none) (count : Nat) : barRounds count c = 0 := by
  cases count with
  | zero => rfl
  | succ count => exact if_pos (Option.isSome_iff_ne_none.mpr broken)

theorem bar_snd_of_sound (sound : c.fault = none) (after : (bar c).2.fault = none) :
    8 + (fieldsOf (bar c).2.rest).length = (fieldsOf c.rest).length := by
  rw [eq_cursorAt sound, bar_snd] at after
  obtain ⟨first, stop⟩ := after_cursorAt c.rest c.offset 0 (barReads.map Move.read)
  have here : (bar c).2 = cursorAt c.rest c.offset 8 := by
    conv_lhs => rw [eq_cursorAt sound, bar_snd]
    exact stop after
  have enough := number_le (first.symm.trans after)
  rw [countP_map_read] at enough
  have eight : barReads.length = 8 := rfl
  rw [here, fieldsOf_cursorAt, List.length_drop]
  omega

/-- Each round but the last takes eight of the fields that are left. -/
theorem barRounds_le (count : Nat) (c : Cursor) :
    barRounds count c ≤ (fieldsOf c.rest).length / 8 + 1 := by
  induction count generalizing c with
  | zero => exact Nat.zero_le _
  | succ count ih =>
    by_cases sound : c.fault = none
    · rw [barRounds, sound, if_neg (by decide)]
      by_cases after : (bar c).2.fault = none
      · have taken := bar_snd_of_sound sound after
        have others := ih (bar c).2
        omega
      · rw [barRounds_of_fault after]
        omega
    · rw [barRounds_of_fault sound]
      exact Nat.zero_le _

/-- A count above the number of rounds makes no difference. -/
theorem barsOnto_min {limit : Nat} (enough : barRounds count c ≤ limit) (done : List Bar) :
    barsOnto (min count limit) done c = barsOnto count done c := by
  induction count generalizing limit done c with
  | zero => rw [Nat.zero_min]
  | succ count ih =>
    by_cases sound : c.fault = none
    · rw [barRounds, sound, if_neg (by decide)] at enough
      obtain ⟨limit, rfl⟩ : ∃ less, limit = less + 1 := ⟨limit - 1, by omega⟩
      rw [Nat.succ_min_succ, barsOnto_succ sound, barsOnto_succ sound]
      exact ih (Nat.le_of_succ_le_succ enough) _
    · rw [barsOnto_of_fault sound, barsOnto_of_fault sound]

end Bars

/-- The four fields in front say these numbers, with two texts between them. -/
structure ShowsHeader (payload : Bytes) (offset : Int) (id count : Int) : Prop where
  id : Shows payload offset 0 .int id
  start : ∃ s, Shows payload offset 1 .text s
  ending : ∃ s, Shows payload offset 2 .text s
  count : Shows payload offset 3 .int count

def barsBehind (id count : Int) : Reading (Except WireError (Int × List Bar)) := do
  let count ← barCount count
  let bars ← barsOnto count []
  Reading.finish (id, bars)

section Message

variable {payload : Bytes} {offset id count : Int} {error : WireError}

theorem careful_barsBehind (id count : Int) : (barsBehind id count).Careful :=
  (frugal_barCount _).next fun _ => (frugal_barsOnto _ _).next fun _ => careful_finish _

theorem historicalData_apply (c : Cursor) :
    historicalData c = barsBehind (int c).1 (int (text (text (int c).2).2).2).1
      (c.after (headerReads.map Move.read)) := by
  unfold historicalData barsBehind
  rw [bind_apply, bind_apply, bind_apply, bind_apply]
  simp only [headerReads, List.map_cons, List.map_nil, Cursor.after, List.foldl_cons,
    List.foldl_nil, Move.go, Read.reader]

/-- A fault of the header is what the message is refused for, whatever count was read. -/
theorem historicalData_of_fault
    (fault : firstFault (fieldsOf payload) offset 0 (headerReads.map Move.read) = some error) :
    (historicalData (Cursor.start payload offset)).1 = .error error := by
  have met : ((Cursor.start payload offset).after (headerReads.map Move.read)).fault = some error :=
    (after_cursorAt payload offset 0 (headerReads.map Move.read)).1.trans fault
  have careful := careful_barsBehind
  rw [historicalData_apply]
  refine (careful _ _).heeds _ error ?_
  rw [(careful _ _).frugal.sticks _ (met ▸ Option.some_ne_none error)]
  exact met

theorem exists_showsHeader
    (sound : firstFault (fieldsOf payload) offset 0 (headerReads.map Move.read) = none) :
    ∃ id count, ShowsHeader payload offset id count := by
  simp only [headerReads, List.map_cons, List.map_nil, firstFault, Option.or_eq_none_iff] at sound
  obtain ⟨id, start, ending, count, -⟩ := sound
  obtain ⟨_, id⟩ := shows_of_outcome id
  obtain ⟨_, count⟩ := shows_of_outcome count
  exact ⟨_, _, id, shows_of_outcome start, shows_of_outcome ending, count⟩

theorem ShowsHeader.historicalData (shown : ShowsHeader payload offset id count) :
    Message.historicalData (Cursor.start payload offset) =
      barsBehind id count (cursorAt payload offset 4) := by
  obtain ⟨_, start⟩ := shown.start
  obtain ⟨_, ending⟩ := shown.ending
  have first : int (Cursor.start payload offset) = _ := shown.id.reader
  have second : text (cursorAt payload offset 1) = _ := start.reader
  have third : text (cursorAt payload offset 2) = _ := ending.reader
  have fourth : int (cursorAt payload offset 3) = _ := shown.count.reader
  unfold Message.historicalData barsBehind
  rw [bind_apply, first, bind_apply, second, bind_apply, third, bind_apply, fourth]

theorem barsBehind_of_negative {c : Cursor} (sound : c.fault = none) (negative : count < 0) :
    (barsBehind id count c).1 = .error (.invalidField .barCount (wholeText count)) := by
  have refused : ∀ c, barCount count c =
      (0, c.fail (.invalidField .barCount (wholeText count))) := by
    intro c
    unfold barCount
    rw [if_pos negative, bind_apply, pure_apply]
    exact congrArg (Prod.mk 0) rfl
  unfold barsBehind
  rw [bind_apply, refused, bind_apply]
  show (c.fail (.invalidField .barCount (wholeText count))).finish (id, []) = _
  unfold Cursor.finish Cursor.fail
  rw [sound, Option.none_or]

theorem barsBehind_natCast (id : Int) (count : Nat) (c : Cursor) :
    barsBehind id count c =
      ((barsOnto count [] c).2.finish (id, (barsOnto count [] c).1), (barsOnto count [] c).2) := by
  have counted : barCount count = pure count := by
    unfold barCount
    rw [if_neg (Int.not_lt.mpr (Int.natCast_nonneg count))]
    rfl
  unfold barsBehind
  rw [counted, bind_apply, pure_apply, bind_apply]
  rfl

theorem barsBehind_of_fault {count : Nat}
    (fault : firstFault (fieldsOf payload) offset 4 ((barsReads count).map Move.read) =
      some error) :
    (barsBehind id count (cursorAt payload offset 4)).1 = .error error := by
  refine (careful_barsBehind id count).heeds _ error ?_
  rw [barsBehind_natCast, barsOnto_snd, (after_cursorAt payload offset 4 _).1]
  exact fault

theorem barsBehind_of_shows {bars : List Bar} (shown : ShowsBars payload offset 4 bars) :
    (barsBehind id bars.length (cursorAt payload offset 4)).1 = .ok (id, bars) := by
  rw [barsBehind_natCast, shown.barsOnto, List.reverse_nil, List.nil_append]
  rfl

theorem historicalData_eq_ok_iff {bars : List Bar} :
    (historicalData (Cursor.start payload offset)).1 = .ok (id, bars) ↔
      ShowsHeader payload offset id bars.length ∧ ShowsBars payload offset 4 bars := by
  constructor
  · intro read
    cases header : firstFault (fieldsOf payload) offset 0 (headerReads.map Move.read) with
    | some error =>
      rw [historicalData_of_fault header] at read
      cases read
    | none =>
      obtain ⟨number, count, shown⟩ := exists_showsHeader header
      rw [shown.historicalData] at read
      by_cases negative : count < 0
      · rw [barsBehind_of_negative rfl negative] at read
        cases read
      · obtain ⟨count, rfl⟩ := Int.eq_ofNat_of_zero_le (Int.not_lt.mp negative)
        cases body : firstFault (fieldsOf payload) offset 4 ((barsReads count).map Move.read) with
        | some error =>
          rw [barsBehind_of_fault body] at read
          cases read
        | none =>
          obtain ⟨others, length, said⟩ := exists_showsBars body
          subst length
          rw [barsBehind_of_shows said] at read
          cases read
          exact ⟨shown, said⟩
  · rintro ⟨shown, said⟩
    rw [shown.historicalData]
    exact barsBehind_of_shows said

end Message

/-- A message with past bars. It is read exactly when its header says an id and a count that is no
less than zero, and behind the header that many bars follow, each of which is said by its own eight
fields. A fault of the header refuses it, then a negative count, and then the first fault of the
fields of the bars. When all fields that are there are in order and some are missing, it is
truncated. The loop runs once for every eight fields behind the header and at most once more, so a
count beyond that makes no difference. -/
theorem bars_are_said_by_their_fields (payload : Bytes) (offset : Int) :
    let fields := fieldsOf payload
    let read := historicalData (Cursor.start payload offset)
    (∀ id bars, read.1 = .ok (id, bars) ↔
      ShowsHeader payload offset id bars.length ∧ ShowsBars payload offset 4 bars) ∧
    (∀ error, firstFault fields offset 0 (headerReads.map Move.read) = some error →
      read.1 = .error error) ∧
    (∀ id count, ShowsHeader payload offset id count → count < 0 →
      read.1 = .error (.invalidField .barCount (wholeText count))) ∧
    (∀ id, ∀ count : Nat, ShowsHeader payload offset id count →
      let c := cursorAt payload offset 4
      let limit := (fields.length - 4) / 8 + 1
      (∀ error, firstFault fields offset 4 ((barsReads count).map Move.read) = some error →
        read.1 = .error error) ∧
      read = ((barsOnto count [] c).2.finish (id, (barsOnto count [] c).1),
        (barsOnto count [] c).2) ∧
      (barsOnto count [] c).1.length = barRounds count c ∧
      barRounds count c ≤ limit ∧
      barsOnto count [] c = barsOnto (min count limit) [] c) ∧
    ∀ count : Nat, fields.length < 4 ∨ Shows payload offset 3 .int count →
      fields.length < 4 + 8 * count →
      (∀ (number : Nat) (r : Read) (token : Bytes),
        (headerReads ++ barsReads count)[number]? = some r →
        fields[number]? = some token → ∃ value, r.meaning offset token = .ok value) →
      read.1 = .error .truncated := by
  intro fields read
  refine ⟨fun id bars => historicalData_eq_ok_iff, fun error => historicalData_of_fault, ?_, ?_, ?_⟩
  · intro id count shown negative
    have behind : read = _ := shown.historicalData
    rw [behind]
    exact barsBehind_of_negative rfl negative
  · intro id count shown c limit
    have behind : read = _ := shown.historicalData
    have rounds : barRounds count c ≤ limit := by
      have most := barRounds_le count c
      rw [fieldsOf_cursorAt, List.length_drop] at most
      exact most
    refine ⟨?_, ?_, ?_, rounds, (barsOnto_min rounds []).symm⟩
    · intro error fault
      rw [behind]
      exact barsBehind_of_fault fault
    · rw [behind]
      exact barsBehind_natCast id count c
    · rw [length_barsOnto, List.length_nil, Nat.zero_add]
  · intro count announced short readable
    have length : (headerReads ++ barsReads count).length = 4 + 8 * count := by
      rw [List.length_append, length_barsReads]
      rfl
    have fault : firstFault fields offset 0 ((headerReads ++ barsReads count).map Move.read) =
        some .truncated := by
      refine firstFault_of_short (Nat.zero_le _) (by omega) ?_
      intro number r token place field
      rw [Nat.zero_add] at field
      exact readable number r token place field
    rw [List.map_append, firstFault_append] at fault
    cases header : firstFault fields offset 0 (headerReads.map Move.read) with
    | some error =>
      rw [header, Option.some_or] at fault
      cases fault
      exact historicalData_of_fault header
    | none =>
      rw [header, Option.none_or] at fault
      obtain ⟨id, number, shown⟩ := exists_showsHeader header
      obtain ⟨token, last, -⟩ := shown.count
      have enough : 3 < fields.length := by
        obtain ⟨inside, -⟩ := List.getElem?_eq_some_iff.mp last
        exact inside
      have same : number = count := shown.count.unique (announced.resolve_left (by omega))
      have behind : read = _ := shown.historicalData
      subst same
      rw [behind]
      exact barsBehind_of_fault fault

end MarketLink.Message
