import MarketLink.Proofs.Wire.Tokens

set_option autoImplicit false

namespace MarketLink.Wire

open Number Text Time

/-- What the next field is read as. -/
inductive Read where
  | text
  | int
  | long
  | optionalInt
  | real
  | flag
  | decimal
  | time

namespace Read

abbrev Value : Read → Type
  | text => String
  | int | long => Int
  | optionalInt => Option Int
  | real => Float
  | flag => Bool
  | decimal => Decimal
  | time => Instant

def zero : (r : Read) → r.Value
  | text => ""
  | int | long => 0
  | optionalInt => none
  | real => 0
  | flag => false
  | decimal => Decimal.zero
  | time => epoch

def reader : (r : Read) → Reading r.Value
  | text => Reading.text
  | int => Reading.int
  | long => Reading.long
  | optionalInt => Reading.optionalInt
  | real => Reading.real
  | flag => Reading.flag
  | decimal => Reading.decimal
  | time => Reading.time

def found {α : Type} (kind : FieldKind) (text : String) : Option α → Except WireError α
  | some value => .ok value
  | none => .error (.invalidField kind text)

/-- A whole number of a range, for which the empty text stands as zero. -/
def whole? (range : WholeRange) (text : String) : Option Int :=
  if text.isEmpty then some 0 else (readWhole range text).toOption

/-- What a text says; the offset is that of times without a zone. -/
def ofText (offset : Int) : (r : Read) → String → Except WireError r.Value
  | text, s => .ok s
  | int, s => found .int s (whole? int32 s)
  | long, s => found .long s (whole? int64 s)
  | optionalInt, s =>
    found .int s (if s.isEmpty then some none else (readWhole int32 s).toOption.map some)
  | real, s => found .float s (if s.isEmpty then some 0 else readReal? s)
  | flag, s => found .int s ((whole? int32 s).map (· != 0))
  | decimal, s => found .decimal s (if s.isEmpty then some Decimal.zero else Decimal.read? s)
  | time, s => found .timestamp s (readStamp offset s)

def meaning (offset : Int) (r : Read) (token : Bytes) : Except WireError r.Value :=
  match ofBytes? token with
  | some s => r.ofText offset s
  | none => .error .invalidUtf8

/-- What a read makes of the next field, if there is one: a value, and the fault that it meets. -/
def outcome (offset : Int) (r : Read) (field? : Option Bytes) : r.Value × Option WireError :=
  match field? with
  | none => (r.zero, some .truncated)
  | some token =>
    match r.meaning offset token with
    | .ok value => (value, none)
    | .error e => (r.zero, some e)

end Read

section Readers

variable {α : Type} {payload : Bytes} {offset : Int} {number : Nat} {c : Cursor}

theorem nextText_cursorAt :
    (cursorAt payload offset number).nextText =
      match (fieldsOf payload)[number]? with
      | none => (none, { cursorAt payload offset (number + 1) with fault := some .truncated })
      | some token =>
        match ofBytes? token with
        | some s => (some s, cursorAt payload offset (number + 1))
        | none => (none,
          { cursorAt payload offset (number + 1) with fault := some .invalidUtf8 }) := by
  unfold Cursor.nextText
  rw [nextToken_cursorAt]
  cases (fieldsOf payload)[number]? with
  | none => rfl
  | some token => cases ofBytes? token <;> rfl

theorem nextText_of_fault (broken : c.fault ≠ none) : c.nextText = (none, c) := by
  have token : c.nextToken = (none, c) := if_pos (Option.isSome_iff_ne_none.mpr broken)
  unfold Cursor.nextText
  rw [token]

theorem field_cursorAt (kind : FieldKind) (zero : α) (parse : String → Option α) :
    Reading.field kind zero parse (cursorAt payload offset number) =
      match (fieldsOf payload)[number]? with
      | none => (zero, { cursorAt payload offset (number + 1) with fault := some .truncated })
      | some token =>
        match ofBytes? token with
        | none => (zero, { cursorAt payload offset (number + 1) with fault := some .invalidUtf8 })
        | some s =>
          match Read.found kind s (parse s) with
          | .ok value => (value, cursorAt payload offset (number + 1))
          | .error e => (zero, { cursorAt payload offset (number + 1) with fault := some e }) := by
  unfold Reading.field
  rw [nextText_cursorAt]
  cases (fieldsOf payload)[number]? with
  | none => rfl
  | some token =>
    dsimp only
    cases ofBytes? token with
    | none => rfl
    | some s =>
      dsimp only
      cases parse s <;> rfl

theorem reader_of_field {r : Read} {kind : FieldKind} {parse : String → Option r.Value}
    (same : r.reader (cursorAt payload offset number) =
      Reading.field kind r.zero parse (cursorAt payload offset number))
    (meant : ∀ s, r.ofText offset s = Read.found kind s (parse s)) :
    r.reader (cursorAt payload offset number) =
      ((r.outcome offset (fieldsOf payload)[number]?).1,
        { cursorAt payload offset (number + 1) with
          fault := (r.outcome offset (fieldsOf payload)[number]?).2 }) := by
  rw [same, field_cursorAt]
  unfold Read.outcome Read.meaning
  cases (fieldsOf payload)[number]? with
  | none => rfl
  | some token =>
    dsimp only
    cases ofBytes? token with
    | none => rfl
    | some s =>
      dsimp only
      rw [meant]
      cases parse s <;> rfl

theorem reader_cursorAt (r : Read) :
    r.reader (cursorAt payload offset number) =
      ((r.outcome offset (fieldsOf payload)[number]?).1,
        { cursorAt payload offset (number + 1) with
          fault := (r.outcome offset (fieldsOf payload)[number]?).2 }) := by
  cases r with
  | text =>
    show Reading.text _ = _
    unfold Reading.text Read.outcome Read.meaning
    rw [nextText_cursorAt]
    cases (fieldsOf payload)[number]? with
    | none => rfl
    | some token =>
      dsimp only
      cases ofBytes? token <;> rfl
  | int => exact reader_of_field rfl fun _ => rfl
  | long => exact reader_of_field rfl fun _ => rfl
  | optionalInt => exact reader_of_field rfl fun _ => rfl
  | real => exact reader_of_field rfl fun _ => rfl
  | flag =>
    -- the number is read first
    have whole : Read.int.reader (cursorAt payload offset number) = _ :=
      reader_of_field rfl fun _ => rfl
    have flag : ∀ c, Read.flag.reader c = ((Read.int.reader c).1 != 0, (Read.int.reader c).2) :=
      fun _ => rfl
    rw [flag, whole]
    unfold Read.outcome Read.meaning
    cases (fieldsOf payload)[number]? with
    | none => rfl
    | some token =>
      dsimp only
      cases ofBytes? token with
      | none => rfl
      | some s =>
        dsimp only [Read.ofText]
        cases Read.whole? int32 s <;> rfl
  | decimal => exact reader_of_field rfl fun _ => rfl
  | time => exact reader_of_field rfl fun _ => rfl

theorem reader_of_fault (broken : c.fault ≠ none) (r : Read) : r.reader c = (r.zero, c) := by
  have text := nextText_of_fault broken
  have field : ∀ {α : Type} (kind : FieldKind) (zero : α) (parse : String → Option α),
      Reading.field kind zero parse c = (zero, c) := by
    intro α kind zero parse
    unfold Reading.field
    rw [text]
  cases r with
  | text =>
    show Reading.text c = _
    unfold Reading.text
    rw [text]
    rfl
  | flag =>
    have whole : Reading.int c = (0, c) := field _ _ _
    have flag : Read.flag.reader c = ((Reading.int c).1 != 0, (Reading.int c).2) := rfl
    rw [flag, whole]
    rfl
  | _ => exact field _ _ _

end Readers

/-- The field with this number says a value. -/
def Shows (payload : Bytes) (offset : Int) (number : Nat) (r : Read) (value : r.Value) : Prop :=
  ∃ token, (fieldsOf payload)[number]? = some token ∧ r.meaning offset token = .ok value

section Shows

variable {payload : Bytes} {offset : Int} {number : Nat} {r : Read} {value other : r.Value}

theorem Shows.outcome (shown : Shows payload offset number r value) :
    r.outcome offset (fieldsOf payload)[number]? = (value, none) := by
  obtain ⟨token, field, meant⟩ := shown
  unfold Read.outcome
  rw [field]
  dsimp only
  rw [meant]

theorem shows_of_outcome (sound : (r.outcome offset (fieldsOf payload)[number]?).2 = none) :
    ∃ value, Shows payload offset number r value := by
  unfold Read.outcome at sound
  unfold Shows
  cases field : (fieldsOf payload)[number]? with
  | none =>
    rw [field] at sound
    cases sound
  | some token =>
    rw [field] at sound
    dsimp only at sound
    cases meant : r.meaning offset token with
    | error e =>
      rw [meant] at sound
      cases sound
    | ok value => exact ⟨value, token, rfl, meant⟩

theorem Shows.unique (shown : Shows payload offset number r value)
    (also : Shows payload offset number r other) : value = other :=
  congrArg Prod.fst (shown.outcome.symm.trans also.outcome)

theorem Shows.reader (shown : Shows payload offset number r value) :
    r.reader (cursorAt payload offset number) = (value, cursorAt payload offset (number + 1)) := by
  rw [reader_cursorAt, shown.outcome]
  rfl

end Shows

inductive Move where
  | read (r : Read)
  | fail (error : WireError)

def Move.isRead : Move → Bool
  | read _ => true
  | fail _ => false

def Move.go : Move → Cursor → Cursor
  | read r, c => (r.reader c).2
  | fail error, c => (Reading.fail error c).2

def Cursor.after (c : Cursor) (moves : List Move) : Cursor :=
    moves.foldl (fun c move => move.go c) c

/-- The first fault that some moves meet, when the first read among them takes the field with this
number. -/
def firstFault (fields : List Bytes) (offset : Int) : Nat → List Move → Option WireError
  | _, [] => none
  | number, .read r :: moves =>
    (r.outcome offset fields[number]?).2.or (firstFault fields offset (number + 1) moves)
  | _, .fail error :: _ => some error

section Moves

variable {payload : Bytes} {offset : Int} {number : Nat} {c : Cursor} {moves : List Move}

theorem after_append (more : List Move) : c.after (moves ++ more) = (c.after moves).after more :=
  List.foldl_append

theorem after_of_fault (broken : c.fault ≠ none) (moves : List Move) : c.after moves = c := by
  obtain ⟨e, fault⟩ := Option.ne_none_iff_exists'.mp broken
  have still : ∀ move : Move, move.go c = c := by
    intro move
    cases move with
    | read r => exact congrArg Prod.snd (reader_of_fault broken r)
    | fail error =>
      have kept : c.fault.or (some error) = c.fault := by rw [fault, Option.some_or]
      exact congrArg (Cursor.mk c.rest · c.offset) kept
  induction moves with
  | nil => rfl
  | cons move moves ih =>
    show (move.go c).after moves = c
    rw [still, ih]

/-- The fault behind some moves is the first that they meet; without one, every read has taken a
field. -/
theorem after_cursorAt (payload : Bytes) (offset : Int) (number : Nat) (moves : List Move) :
    ((cursorAt payload offset number).after moves).fault =
        firstFault (fieldsOf payload) offset number moves ∧
      (((cursorAt payload offset number).after moves).fault = none →
        (cursorAt payload offset number).after moves =
          cursorAt payload offset (number + moves.countP Move.isRead)) := by
  induction moves generalizing number with
  | nil => exact ⟨rfl, fun _ => rfl⟩
  | cons move moves ih =>
    have step : (cursorAt payload offset number).after (move :: moves) =
        (move.go (cursorAt payload offset number)).after moves := rfl
    rw [step]
    cases move with
    | fail error =>
      have broken : ((Move.fail error).go (cursorAt payload offset number)).fault = some error :=
        rfl
      have still := after_of_fault (c := (Move.fail error).go (cursorAt payload offset number))
        (broken ▸ Option.some_ne_none _) moves
      rw [still, broken]
      exact ⟨rfl, nofun⟩
    | read r =>
      have went : (Move.read r).go (cursorAt payload offset number) =
          { cursorAt payload offset (number + 1) with
            fault := (r.outcome offset (fieldsOf payload)[number]?).2 } :=
        congrArg Prod.snd (reader_cursorAt r)
      rw [firstFault, went]
      cases fault : (r.outcome offset (fieldsOf payload)[number]?).2 with
      | none =>
        obtain ⟨same, sound⟩ := ih (number + 1)
        refine ⟨same, ?_⟩
        intro whole
        have count : number + (Move.read r :: moves).countP Move.isRead =
            number + 1 + moves.countP Move.isRead := by
          rw [List.countP_cons_of_pos rfl]
          omega
        rw [count]
        exact sound whole
      | some e =>
        have still := after_of_fault
          (c := { cursorAt payload offset (number + 1) with fault := some e })
          (Option.some_ne_none _) moves
        rw [still]
        exact ⟨rfl, nofun⟩

/-- Some move has met a fault when more fields were to be read than there are. -/
theorem number_le (sound : firstFault (fieldsOf payload) offset number moves = none) :
    moves.countP Move.isRead = 0 ∨
      number + moves.countP Move.isRead ≤ (fieldsOf payload).length := by
  induction moves generalizing number with
  | nil => exact Or.inl rfl
  | cons move moves ih =>
    cases move with
    | fail error => cases sound
    | read r =>
      rw [firstFault, Option.or_eq_none_iff] at sound
      have inside : number < (fieldsOf payload).length := by
        by_contra outside
        rw [List.getElem?_eq_none (Nat.not_lt.mp outside)] at sound
        cases sound.1
      rw [List.countP_cons_of_pos rfl]
      rcases ih sound.2 with none | some
      · omega
      · omega

theorem countP_map_read (reads : List Read) :
    (reads.map Move.read).countP Move.isRead = reads.length := by
  rw [List.countP_map]
  exact List.countP_eq_length.mpr fun _ _ => rfl

theorem firstFault_append {fields : List Bytes} (reads : List Read) :
    firstFault fields offset number (reads.map Move.read ++ moves) =
      (firstFault fields offset number (reads.map Move.read)).or
        (firstFault fields offset (number + reads.length) moves) := by
  induction reads generalizing number with
  | nil => rfl
  | cons r reads ih =>
    have place : number + (reads.length + 1) = number + 1 + reads.length := by omega
    rw [List.map_cons, List.cons_append, firstFault, firstFault, ih, List.length_cons, place,
      Option.or_assoc]

/-- When all fields that are there can be read, the fault of reads that want more of them is that
they are missing. -/
theorem firstFault_of_short {fields : List Bytes} {reads : List Read}
    (inside : number ≤ fields.length) (short : fields.length < number + reads.length)
    (readable : ∀ index r token, reads[index]? = some r → fields[number + index]? = some token →
      ∃ value, r.meaning offset token = .ok value) :
    firstFault fields offset number (reads.map Move.read) = some .truncated := by
  induction reads generalizing number with
  | nil => exact absurd short (Nat.not_lt.mpr inside)
  | cons r reads ih =>
    rw [List.map_cons, firstFault]
    by_cases there : number < fields.length
    · obtain ⟨value, meant⟩ := readable 0 r fields[number] rfl (List.getElem?_eq_getElem there)
      have sound : r.outcome offset fields[number]? = (value, none) := by
        unfold Read.outcome
        rw [List.getElem?_eq_getElem there]
        dsimp only
        rw [meant]
      rw [sound, Option.none_or]
      refine ih there ?_ ?_
      · rw [List.length_cons] at short
        omega
      · intro index r token found field
        have place : number + (index + 1) = number + 1 + index := by omega
        exact readable (index + 1) r token found (place ▸ field)
    · rw [List.getElem?_eq_none (Nat.not_lt.mp there)]
      rfl

theorem exists_rest_go (move : Move) (c : Cursor) :
    ∃ count, (move.go c).rest = c.rest.drop count := by
  by_cases sound : c.fault = none
  · cases move with
    | read r =>
      have went : (Move.read r).go c = (r.reader (cursorAt c.rest c.offset 0)).2 :=
        congrArg (fun c => (r.reader c).2) (eq_cursorAt sound)
      rw [went, reader_cursorAt]
      exact ⟨_, rfl⟩
    | fail error => exact ⟨0, rfl⟩
  · have still : move.go c = c := after_of_fault sound [move]
    exact ⟨0, congrArg Cursor.rest still⟩

theorem exists_rest_after (moves : List Move) (c : Cursor) :
    ∃ position ≤ c.rest.length, (c.after moves).rest = c.rest.drop position := by
  have some : ∃ count, (c.after moves).rest = c.rest.drop count := by
    induction moves generalizing c with
    | nil => exact ⟨0, rfl⟩
    | cons move moves ih =>
      obtain ⟨first, taken⟩ := exists_rest_go move c
      obtain ⟨others, left⟩ := ih (move.go c)
      refine ⟨first + others, ?_⟩
      rw [← List.drop_drop, ← taken]
      exact left
  obtain ⟨count, rest⟩ := some
  refine ⟨min count c.rest.length, Nat.min_le_right _ _, ?_⟩
  rcases Nat.le_total count c.rest.length with inside | behind
  · rw [Nat.min_eq_left inside, rest]
  · rw [Nat.min_eq_right behind, rest, List.drop_length, List.drop_eq_nil_of_le behind]

end Moves

/-- A cursor over a payload, behind any reads and faults that its caller finds. What it has left are
the payload's last bytes, and its fault is the first that was met. Without one, every read so far
has taken one field, something remains exactly while there are fields left, and the next read takes
the field in front: it gives what that says, or zero and a fault, for a field that is missing, is no
text or does not say such a value. With a fault nothing moves any more: every read gives zero,
nothing remains, and the message is refused for that fault. -/
theorem cursor_reads_fields_in_order (payload : Bytes) (offset : Int) (moves : List Move) :
    let fields := fieldsOf payload
    let c := (Cursor.start payload offset).after moves
    let number := moves.countP Move.isRead
    Cuts payload fields ∧
    (∃ position ≤ payload.length, c.rest = payload.drop position) ∧
    c.fault = firstFault fields offset 0 moves ∧
    (c.fault = none →
      number ≤ fields.length ∧
      c.rest = payload.drop (terminated (fields.take number)).length ∧
      c.hasRemaining = decide (number < fields.length) ∧
      (∀ {α : Type} (value : α), c.finish value = .ok value) ∧
      (∀ r : Read, r.reader c =
        ((r.outcome offset fields[number]?).1,
          ⟨payload.drop (terminated (fields.take (number + 1))).length,
            (r.outcome offset fields[number]?).2, offset⟩)) ∧
      ∀ error, Reading.fail error c = ((), { c with fault := some error })) ∧
    ∀ error, c.fault = some error →
      c.hasRemaining = false ∧
      (∀ {α : Type} (value : α), c.finish value = .error error) ∧
      (∀ r : Read, r.reader c = (r.zero, c)) ∧
      ∀ more, (Cursor.start payload offset).after (moves ++ more) = c := by
  intro fields c number
  obtain ⟨first, sound⟩ := after_cursorAt payload offset 0 moves
  rw [Nat.zero_add] at sound
  refine ⟨cuts_fieldsOf payload, exists_rest_after moves (Cursor.start payload offset),
    first, ?_, ?_⟩
  · intro whole
    have here : c = cursorAt payload offset number := sound whole
    have inside : moves.countP Move.isRead ≤ (fieldsOf payload).length := by
      rcases number_le (first.symm.trans whole) with none | some
      · omega
      · omega
    refine ⟨inside, congrArg Cursor.rest here, ?_, ?_, ?_, ?_⟩
    · rw [here]
      exact hasRemaining_cursorAt
    · intro α value
      rw [here]
      rfl
    · intro r
      rw [here]
      exact reader_cursorAt r
    · intro error
      rw [here]
      rfl
  · intro error fault
    have broken : c.fault ≠ none := fault ▸ Option.some_ne_none error
    refine ⟨?_, ?_, reader_of_fault broken, ?_⟩
    · unfold Cursor.hasRemaining
      rw [fault]
      rfl
    · intro α value
      unfold Cursor.finish
      rw [fault]
    · intro more
      rw [after_append]
      exact after_of_fault broken more

/-- The first fault stays, whatever is read or found behind it. -/
example : ((Cursor.start (joined ["abc", "5"]) 0).after
    [.read .int, .read .int, .fail .embeddedNul]).fault = some (.invalidField .int "abc") := by
  decide

end MarketLink.Wire
