import MarketLink.Proofs.Message.Told
import MarketLink.Proofs.Wire.Reads

set_option autoImplicit false

namespace MarketLink.Wire.Reading

/-- From these fields a reader gets a value, whatever follows them, and stops behind them; when they
end early, the message is truncated. -/
structure Consumes {α : Type} (read : Reading α) (offset : Int) (tokens : List Bytes) (value : α) :
    Prop where
  whole : ∀ payload, tokens <+: fieldsOf payload →
    read (Cursor.start payload offset) = (value, cursorAt payload offset tokens.length)
  short : ∀ payload, fieldsOf payload <+: tokens → (fieldsOf payload).length < tokens.length →
    (read (Cursor.start payload offset)).2.fault = some .truncated

/-- A reader that looks at the fields it takes and at nothing else, and that keeps a fault. -/
structure Frugal {α : Type} (read : Reading α) : Prop where
  sticks : ∀ c : Cursor, c.fault ≠ none → (read c).2 = c
  takes : ∀ payload offset, (read (Cursor.start payload offset)).2.fault = none →
    ∃ tokens, tokens <+: fieldsOf payload ∧
      read.Consumes offset tokens (read (Cursor.start payload offset)).1

section Frugal

variable {α β : Type} {read other : Reading α} {next : α → Reading β}

theorem bind_apply (read : Reading α) (next : α → Reading β) (c : Cursor) :
    (read >>= next) c = next (read c).1 (read c).2 := rfl

theorem pure_apply (value : α) (c : Cursor) : (pure value : Reading α) c = (value, c) := rfl

theorem cursorAt_eq_start (payload : Bytes) (offset : Int) (number : Nat) :
    cursorAt payload offset number = Cursor.start (cursorAt payload offset number).rest offset :=
      rfl

theorem Consumes.bind {offset : Int} {first second : List Bytes} {value : α} {result : β}
    (front : read.Consumes offset first value) (behind : (next value).Consumes offset second result)
    (keeps : ∀ (a : α) (c : Cursor), c.fault ≠ none → (next a c).2 = c) :
    (read >>= next).Consumes offset (first ++ second) result := by
  constructor
  · intro payload begins
    have begun : first <+: fieldsOf payload := (List.prefix_append first second).trans begins
    have left : second <+: fieldsOf (cursorAt payload offset first.length).rest := by
      obtain ⟨others, fields⟩ := begins
      rw [fieldsOf_cursorAt, ← fields, List.append_assoc, List.drop_left]
      exact List.prefix_append second others
    rw [bind_apply, front.whole payload begun, List.length_append, cursorAt_add]
    exact behind.whole _ left
  · intro payload ends short
    rw [bind_apply]
    by_cases few : (fieldsOf payload).length < first.length
    · -- the first reader has too few fields already
      have within : fieldsOf payload <+: first :=
        List.prefix_of_prefix_length_le ends (List.prefix_append first second) (Nat.le_of_lt few)
      have fault := front.short payload within few
      rw [keeps _ _ (fault ▸ Option.some_ne_none _), fault]
    · have enough : first.length ≤ (fieldsOf payload).length := Nat.not_lt.mp few
      have begun : first <+: fieldsOf payload :=
        List.prefix_of_prefix_length_le (List.prefix_append first second) ends enough
      obtain ⟨others, fields⟩ := begun
      have left : fieldsOf (cursorAt payload offset first.length).rest = others := by
        rw [fieldsOf_cursorAt, ← fields, List.drop_left]
      have within : others <+: second := by
        rw [← fields] at ends
        exact (List.prefix_append_right_inj first).mp ends
      have fewer : others.length < second.length := by
        rw [← fields, List.length_append, List.length_append] at short
        omega
      rw [front.whole payload ⟨others, fields⟩]
      exact behind.short _ (left ▸ within) (left ▸ fewer)

theorem Frugal.bind (front : read.Frugal) (behind : ∀ a, (next a).Frugal) :
    (read >>= next).Frugal := by
  constructor
  · intro c broken
    have still := front.sticks c broken
    rw [bind_apply, still]
    exact (behind _).sticks c broken
  · intro payload offset sound
    rw [bind_apply] at sound ⊢
    have before : (read (Cursor.start payload offset)).2.fault = none := by
      by_contra broken
      rw [(behind _).sticks _ broken] at sound
      exact broken sound
    obtain ⟨first, begins, front⟩ := front.takes payload offset before
    have stop : (read (Cursor.start payload offset)).2 = cursorAt payload offset first.length :=
      congrArg Prod.snd (front.whole payload begins)
    rw [stop, cursorAt_eq_start] at sound ⊢
    obtain ⟨second, follows, behind'⟩ := (behind _).takes _ offset sound
    refine ⟨first ++ second, ?_, front.bind behind' fun a => (behind a).sticks⟩
    obtain ⟨others, fields⟩ := begins
    rw [fieldsOf_cursorAt, ← fields, List.drop_left] at follows
    rw [← fields]
    exact (List.prefix_append_right_inj first).mpr follows

theorem Frugal.of_idle {value : α} (idle : ∀ c, read c = (value, c)) : read.Frugal := by
  constructor
  · intro c _
    rw [idle]
  · intro payload offset _
    refine ⟨[], List.nil_prefix, ?_, fun _ _ short => absurd short (Nat.not_lt_zero _)⟩
    intro other _
    rw [idle, idle]
    rfl

theorem frugal_pure (value : α) : Frugal (pure value) := .of_idle (pure_apply value)

/-- A reader that does nothing but find a fault. -/
theorem frugal_fail (error : WireError) : Frugal (Reading.fail error) := by
  constructor
  · intro c broken
    exact after_of_fault broken [.fail error]
  · intro payload offset sound
    cases sound

/-- A reader may do as it likes behind a fault, as long as it leaves the cursor alone. -/
theorem Frugal.congr (frugal : read.Frugal) (same : ∀ c : Cursor, c.fault = none → other c = read c)
    (sticks : ∀ c : Cursor, c.fault ≠ none → (other c).2 = c) : other.Frugal := by
  have start : ∀ payload offset, other (Cursor.start payload offset) =
    read (Cursor.start payload offset) :=
    fun payload offset => same _ rfl
  refine ⟨sticks, ?_⟩
  intro payload offset sound
  rw [start] at sound ⊢
  obtain ⟨tokens, begins, consumes⟩ := frugal.takes payload offset sound
  refine ⟨tokens, begins, ?_, ?_⟩
  · intro other begins
    rw [start]
    exact consumes.whole other begins
  · intro other ends short
    rw [start]
    exact consumes.short other ends short

theorem frugal_reader (r : Read) : r.reader.Frugal := by
  constructor
  · intro c broken
    rw [reader_of_fault broken]
  · intro payload offset sound
    rw [← cursorAt_zero, reader_cursorAt] at sound ⊢
    cases field : (fieldsOf payload)[0]? with
    | none =>
      rw [field] at sound
      cases sound
    | some token =>
      have begins : ∀ {payload}, (fieldsOf payload)[0]? = some token ↔
          [token] <+: fieldsOf payload := by
        intro payload
        cases fieldsOf payload <;> simp [List.cons_prefix_cons, eq_comm]
      refine ⟨[token], begins.mp field, ?_, ?_⟩
      · intro other front
        rw [← cursorAt_zero, reader_cursorAt, begins.mpr front]
        rw [field] at sound
        exact congrArg (fun fault => (_, Cursor.mk _ fault offset)) sound
      · intro other _ short
        have none : fieldsOf other = [] := List.length_eq_zero_iff.mp (Nat.lt_one_iff.mp short)
        rw [← cursorAt_zero, reader_cursorAt, none]
        rfl

end Frugal

/-- A reader of a message: it is frugal, and it refuses the message for the fault that it has
met. -/
structure Careful {α : Type} (read : Reading (Except WireError α)) : Prop where
  frugal : read.Frugal
  heeds : ∀ c error, (read c).2.fault = some error → (read c).1 = .error error

section Careful

variable {α β : Type}

/-- A reader is careful that reads something first, whatever it is, and then goes on with care. -/
theorem Frugal.next {read : Reading β} {next : β → Reading (Except WireError α)}
    (front : read.Frugal) (behind : ∀ b, (next b).Careful) : (read >>= next).Careful := by
  refine ⟨front.bind fun b => (behind b).frugal, ?_⟩
  intro c error fault
  rw [bind_apply] at fault ⊢
  exact (behind _).heeds _ error fault

theorem careful_finish (value : α) : Careful (finish value) := by
  refine ⟨⟨fun _ _ => rfl, ?_⟩, ?_⟩
  · intro payload offset _
    exact ⟨[], List.nil_prefix, fun _ _ => rfl, fun _ _ short => absurd short (Nat.not_lt_zero _)⟩
  · intro c error fault
    have same : c.fault = some error := fault
    show c.finish value = .error error
    unfold Cursor.finish
    rw [same]

end Careful

end MarketLink.Wire.Reading

namespace MarketLink.Message

open Market Number Text Time Wire
open Wire.Reading

theorem frugal_bar : bar.Frugal :=
  (frugal_reader .time).bind fun _ => (frugal_reader .real).bind fun _ =>
  (frugal_reader .real).bind fun _ => (frugal_reader .real).bind fun _ =>
  (frugal_reader .real).bind fun _ => (frugal_reader .decimal).bind fun _ =>
  (frugal_reader .decimal).bind fun _ => (frugal_reader .int).bind fun _ => frugal_pure _

/-- The loop leaves a cursor with a fault alone, and in front of a bar it goes on behind that
bar. -/
theorem frugal_barsOnto (count : Nat) (done : List Bar) : (barsOnto count done).Frugal := by
  induction count generalizing done with
  | zero => exact .of_idle fun _ => rfl
  | succ count ih =>
    refine (frugal_bar.bind fun next => ih (next :: done)).congr ?_ ?_
    · intro c sound
      rw [bind_apply, barsOnto_succ sound]
    · intro c broken
      rw [barsOnto]
      dsimp only
      rw [if_pos (Option.isSome_iff_ne_none.mpr broken)]

theorem frugal_barCount (count : Int) : (barCount count).Frugal := by
  unfold barCount
  split
  · exact (frugal_fail _).bind fun _ => frugal_pure _
  · exact frugal_pure _

theorem careful_resolveDepth (raw : RawDepth) :
    Careful (do return resolveDepth (← Reading.finish raw)) := by
  have read := careful_finish raw
  refine ⟨read.frugal.bind fun _ => frugal_pure _, ?_⟩
  intro c error fault
  show resolveDepth (Reading.finish raw c).1 = .error error
  rw [read.heeds c error fault]
  rfl

theorem careful_decode (layout : Layout) : layout.decode.Careful := by
  have int := frugal_reader .int
  have text := frugal_reader .text
  have real := frugal_reader .real
  have decimal := frugal_reader .decimal
  cases layout with
  | handshakeReply => exact int.next fun _ => text.next fun _ => careful_finish _
  | nextValidId => exact int.next fun _ => (frugal_reader .long).next fun _ => careful_finish _
  | currentTime =>
    refine int.next fun _ => (frugal_reader .long).next fun secs => ?_
    cases Instant.ofSeconds? secs with
    | none => exact (frugal_fail _).next fun _ => careful_finish _
    | some time => exact careful_finish _
  | managedAccounts => exact int.next fun _ => text.next fun _ => careful_finish _
  | errorNotice =>
    exact int.next fun _ => int.next fun _ => int.next fun _ => text.next fun _ => careful_finish _
  | contractData =>
    exact int.next fun _ => int.next fun _ => text.next fun _ => text.next fun _ =>
      text.next fun _ => real.next fun _ => text.next fun _ => text.next fun _ =>
      text.next fun _ => text.next fun _ => text.next fun _ => text.next fun _ =>
      int.next fun _ => real.next fun _ => text.next fun _ => text.next fun _ =>
      text.next fun _ => text.next fun _ => text.next fun _ => careful_finish _
  | endMarker => exact int.next fun _ => int.next fun _ => careful_finish _
  | historicalData =>
    exact int.next fun _ => text.next fun _ => text.next fun _ => int.next fun _ =>
      (frugal_barCount _).next fun _ => (frugal_barsOnto _ _).next fun _ => careful_finish _
  | tickPrice =>
    exact int.next fun _ => int.next fun _ => int.next fun _ => real.next fun _ =>
      decimal.next fun _ => int.next fun _ => careful_finish _
  | tickSize =>
    exact int.next fun _ => int.next fun _ => int.next fun _ => decimal.next fun _ =>
      careful_finish _
  | tickGeneric =>
    exact int.next fun _ => int.next fun _ => int.next fun _ => real.next fun _ => careful_finish _
  | tickString =>
    exact int.next fun _ => int.next fun _ => int.next fun _ => text.next fun _ => careful_finish _
  | marketDataType =>
    exact int.next fun _ => int.next fun _ => int.next fun _ => careful_finish _
  | tickReqParams =>
    exact int.next fun _ => real.next fun _ => text.next fun _ => int.next fun _ =>
      careful_finish _
  | marketDepth =>
    exact int.next fun _ => int.next fun _ => int.next fun _ => int.next fun _ =>
      int.next fun _ => real.next fun _ => decimal.next fun _ => careful_resolveDepth _
  | marketDepthL2 =>
    exact int.next fun _ => int.next fun _ => int.next fun _ => text.next fun _ =>
      int.next fun _ => int.next fun _ => real.next fun _ => decimal.next fun _ =>
      (frugal_reader .flag).next fun _ => careful_resolveDepth _

/-- A message that could be read depends on nothing but the fields that were taken for it. With
anything else behind them it is read the same, and the cursor stops there; with fewer of them it is
truncated. -/
theorem message_depends_on_its_fields_alone {layout : Layout} {payload : Bytes} {offset : Int}
    {value : layout.Value} {c : Cursor}
    (decoded : layout.decode (Cursor.start payload offset) = (.ok value, c)) :
    ∃ tokens, tokens <+: fieldsOf payload ∧
      c = ⟨payload.drop (terminated tokens).length, none, offset⟩ ∧
      (∀ more, layout.decode (Cursor.start (terminated tokens ++ more) offset) =
        (.ok value, ⟨more, none, offset⟩)) ∧
      ∀ count < tokens.length,
        (layout.decode (Cursor.start (terminated (tokens.take count)) offset)).1 =
          .error .truncated := by
  obtain ⟨frugal, heeds⟩ := careful_decode layout
  have sound : (layout.decode (Cursor.start payload offset)).2.fault = none := by
    by_contra broken
    obtain ⟨error, fault⟩ := Option.ne_none_iff_exists'.mp broken
    have refused := heeds _ _ fault
    rw [decoded] at refused
    cases refused
  obtain ⟨tokens, begins, consumes⟩ := frugal.takes payload offset sound
  rw [decoded] at consumes
  have solid : ∀ token ∈ tokens, 0 ∉ token := fun token member =>
    (cuts_fieldsOf payload).solid token (begins.subset member)
  refine ⟨tokens, begins, ?_, ?_, ?_⟩
  · have stop := congrArg Prod.snd (consumes.whole payload begins)
    rw [decoded] at stop
    rw [cursorAt, ← List.prefix_iff_eq_take.mp begins] at stop
    exact stop
  · intro more
    have front : tokens <+: fieldsOf (terminated tokens ++ more) := by
      rw [((cuts_fieldsOf more).terminated_append solid).fieldsOf_eq]
      exact List.prefix_append tokens _
    rw [consumes.whole _ front, cursorAt_terminated solid]
  · intro count fewer
    have some : ∀ token ∈ tokens.take count, 0 ∉ token := fun token member =>
      solid token (List.mem_of_mem_take member)
    have fields : fieldsOf (terminated (tokens.take count)) = tokens.take count := by
      have cuts := Cuts.empty.terminated_append some
      rw [List.append_nil, List.append_nil] at cuts
      exact cuts.fieldsOf_eq
    refine heeds _ _ (consumes.short _ ?_ ?_)
    · rw [fields]
      exact List.take_prefix count tokens
    · rw [fields, List.length_take, Nat.min_eq_left (Nat.le_of_lt fewer)]
      exact fewer

theorem two_bars_with_bytes_behind :
    let payload := joined (twoBars.fields.map Field.written) ++ [104, 105]
    historicalData (Cursor.start payload 3600) = (.ok twoBars.value, ⟨[104, 105], none, 3600⟩) ∧
    ∃ tokens, tokens <+: fieldsOf payload ∧
      (⟨[104, 105], none, 3600⟩ : Cursor) = ⟨payload.drop (terminated tokens).length, none, 3600⟩ ∧
      (∀ more, historicalData (Cursor.start (terminated tokens ++ more) 3600) =
        (.ok twoBars.value, ⟨more, none, 3600⟩)) ∧
      ∀ count < tokens.length,
        (historicalData (Cursor.start (terminated (tokens.take count)) 3600)).1 =
          .error .truncated := by
  intro payload
  have sound : ∀ f ∈ twoBars.fields, f.Sound := by decide
  have decoded : Layout.historicalData.decode (Cursor.start payload 3600) =
      (.ok twoBars.value, ⟨[104, 105], none, 3600⟩) := twoBars.undoes sound [104, 105] 3600
  exact ⟨decoded, message_depends_on_its_fields_alone decoded⟩

end MarketLink.Message
