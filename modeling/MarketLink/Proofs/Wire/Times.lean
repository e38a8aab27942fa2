import MarketLink.Proofs.Time.Stamp
import MarketLink.Proofs.Wire.Reads
import MarketLink.Wire.Writer

set_option autoImplicit false

namespace MarketLink.Time

open Text

/-- An instant as it is built from seconds and nanoseconds: only the last second of a minute may be
followed by a leap second. -/
structure Instant.Built (t : Instant) : Prop extends t.Exists where
  leap : 1000000000 ≤ t.nanos → t.secs % 60 = 59

/-- An instant without the part of a second; a leap second is one of its own. -/
def Instant.whole (t : Instant) : Instant :=
    ⟨t.secs, if t.nanos < 1000000000 then 0 else 1000000000⟩

theorem Instant.Built.second_eq {t : Instant} (built : t.Built) : t.second = t.whole := by
  have nanos := built.nanos_lt
  have leap := built.leap
  unfold Instant.second Instant.whole
  by_cases part : t.nanos < 1000000000
  · have none : t.nanos / 1000000000 = 0 := Nat.div_eq_of_lt part
    simp [none, part]
  · have one : t.nanos / 1000000000 = 1 := by omega
    rw [if_pos (leap (Nat.not_lt.mp part)), if_neg part, one]

end MarketLink.Time

namespace MarketLink.Wire

open Text Time

theorem reader_joined {s : String} (clean : Clean s) (r : Read) (more : Bytes) (offset : Int) :
    r.reader (Cursor.start (joined [s] ++ more) offset) =
      ((r.outcome offset (some (toBytes s))).1,
        ⟨more, (r.outcome offset (some (toBytes s))).2, offset⟩) := by
  have solid : ∀ token ∈ [toBytes s], 0 ∉ token :=
    List.forall_mem_singleton.mpr (mt zero_mem_toBytes_iff.mp (not_not.mpr clean))
  have field : (fieldsOf (terminated [toBytes s] ++ more))[0]? = some (toBytes s) := by
    rw [((cuts_fieldsOf more).terminated_append solid).fieldsOf_eq]
    rfl
  have behind : cursorAt (terminated [toBytes s] ++ more) offset (0 + 1) = ⟨more, none, offset⟩ :=
    cursorAt_terminated solid more
  rw [joined_eq_terminated, List.map_singleton, ← cursorAt_zero, reader_cursorAt, field, behind]

/-- A time is read as it was written, without the part of its second and whatever the offset, when
its year has four digits. Any other year is refused, so no time is ever taken for another. -/
theorem written_time_is_read_or_refused {t : Instant} (built : t.Built) (offset : Int)
    (more : Bytes) :
    let frame := Writer.empty.time t
    let year := t.clock.date.year
    let read := Reading.time (Cursor.start (frame.payload ++ more) offset)
    frame.fault = none ∧
    (0 ≤ year → year ≤ 9999 → read = (t.whole, ⟨more, none, offset⟩)) ∧
    (year < 0 ∨ 9999 < year →
      read = (epoch, ⟨more, some (.invalidField .timestamp t.stamp), offset⟩)) ∧
    (read.2.fault = none → read.1 = t.whole) := by
  intro frame year read
  have here : t.Exists := built.toExists
  have clean := clean_stamp t
  have wrote : frame = ⟨[t.stamp], none⟩ := by
    show Writer.empty.text t.stamp = _
    rw [Writer.text_of_sound rfl clean]
    rfl
  have payload : frame.payload = joined [t.stamp] := by
    rw [wrote]
    rfl
  have took : read = ((Read.time.outcome offset (some (toBytes t.stamp))).1,
      ⟨more, (Read.time.outcome offset (some (toBytes t.stamp))).2, offset⟩) := by
    show Read.time.reader (Cursor.start (frame.payload ++ more) offset) = _
    rw [payload, reader_joined clean]
  have meant : Read.time.meaning offset (toBytes t.stamp) =
      Read.found .timestamp t.stamp (readStamp offset t.stamp) := by
    unfold Read.meaning
    rw [ofBytes?_toBytes]
    rfl
  unfold Read.outcome at took
  dsimp only at took
  rw [meant] at took
  have four : 0 ≤ year → year ≤ 9999 → read = (t.whole, ⟨more, none, offset⟩) := by
    intro low high
    rw [took, readStamp_stamp here low high offset, built.second_eq]
    rfl
  have signed : year < 0 ∨ 9999 < year →
      read = (epoch, ⟨more, some (.invalidField .timestamp t.stamp), offset⟩) := by
    intro signed
    rw [took, readStamp_of_signed here signed offset]
    rfl
  have faultless : frame.fault = none := by rw [wrote]
  refine ⟨faultless, four, signed, ?_⟩
  intro sound
  by_cases digits : 0 ≤ year ∧ year ≤ 9999
  · rw [four digits.1 digits.2]
  · have refused := signed (by omega)
    rw [refused] at sound
    cases sound

/-- The leap second behind the last year of four digits, and the second that follows it. -/
theorem last_leap_second_is_read_and_the_next_second_refused :
    let last : Instant := ⟨253402300799, 1500000000⟩
    let next : Instant := ⟨253402300800, 0⟩
    (last.Built ∧
      Reading.time (Cursor.start ((Writer.empty.time last).payload ++ [104, 105]) (-86399)) =
        (⟨253402300799, 1000000000⟩, ⟨[104, 105], none, -86399⟩)) ∧
    next.Built ∧
      Reading.time (Cursor.start ((Writer.empty.time next).payload ++ [104, 105]) 3600) =
        (epoch, ⟨[104, 105], some (.invalidField .timestamp "+100000101-00:00:00"), 3600⟩) := by
  intro last next
  have lastBuilt : last.Built := ⟨by decide, by decide⟩
  have nextBuilt : next.Built := ⟨by decide, by decide⟩
  have shown : next.stamp = "+100000101-00:00:00" := by decide
  refine ⟨⟨lastBuilt, ?_⟩, nextBuilt, ?_⟩
  · exact (written_time_is_read_or_refused lastBuilt (-86399) [104, 105]).2.1 (by decide)
      (by decide)
  · rw [← shown]
    exact (written_time_is_read_or_refused nextBuilt 3600 [104, 105]).2.2.1 (by decide)

end MarketLink.Wire
