import MarketLink.Proofs.Number.Decimal
import MarketLink.Proofs.Time.Stamp
import MarketLink.Proofs.Wire.Texts
import MarketLink.Wire.Cursor

set_option autoImplicit false

namespace MarketLink.Wire

open Number Text Time

inductive Field where
  | text (s : String)
  | int (n : Int)
  | long (n : Int)
  | optionalInt (n : Option Int)
  | flag (b : Bool)
  | decimal (d : Decimal)
  | time (t : Instant)
  deriving DecidableEq

inductive FieldType where
  | text
  | int
  | long
  | optionalInt
  | flag
  | decimal
  | time

namespace Field

/-- The value is one of its type: a text has no zero, a number fits its word, and a time exists in a
year of four digits. -/
def Sound : Field → Prop
  | text s => Clean s
  | int n => int32.Holds n
  | long n => int64.Holds n
  | optionalInt n => ∀ m ∈ n, int32.Holds m
  | flag _ => True
  | decimal _ => True
  | time t => t.Exists ∧ 0 ≤ t.clock.date.year ∧ t.clock.date.year ≤ 9999

instance (f : Field) : Decidable f.Sound :=
  match f with
  | text s => inferInstanceAs (Decidable (Clean s))
  | int n => inferInstanceAs (Decidable (int32.Holds n))
  | long n => inferInstanceAs (Decidable (int64.Holds n))
  | optionalInt none => .isTrue nofun
  | optionalInt (some n) =>
    decidable_of_iff (int32.Holds n) ⟨fun holds _ same => Option.some.inj same ▸ holds, (· n rfl)⟩
  | flag _ => .isTrue trivial
  | decimal _ => .isTrue trivial
  | time _ => inferInstanceAs (Decidable (_ ∧ _))

def write (w : Writer) : Field → Writer
  | text s => w.text s
  | int n => w.int n
  | long n => w.int n
  | optionalInt n => w.optionalInt n
  | flag b => w.flag b
  | decimal d => w.decimal d
  | time t => w.time t

def written : Field → String
  | text s => s
  | int n => wholeText n
  | long n => wholeText n
  | optionalInt n => (n.map wholeText).getD ""
  | flag b => if b then "1" else "0"
  | decimal d => d.normalized.text
  | time t => t.stamp

def type : Field → FieldType
  | text _ => .text
  | int _ => .int
  | long _ => .long
  | optionalInt _ => .optionalInt
  | flag _ => .flag
  | decimal _ => .decimal
  | time _ => .time

/-- The value as it comes back. -/
def normal : Field → Field
  | decimal d => decimal d.normalized
  | time t => time t.second
  | f => f

theorem write_eq (w : Writer) (f : Field) : f.write w = w.text f.written := by
  cases f with
  | optionalInt n => cases n <;> rfl
  | _ => rfl

theorem clean_text_iff {s : String} : Clean (text s).written ↔ Clean s := Iff.rfl

theorem clean_int (n : Int) : Clean (int n).written := clean_wholeText n

theorem clean_flag (b : Bool) : Clean (flag b).written := by cases b <;> decide

theorem clean_time (t : Instant) : Clean (time t).written := clean_stamp t

theorem clean_written {f : Field} (sound : f.Sound) : Clean f.written := by
  cases f with
  | text s => exact sound
  | int n => exact clean_int n
  | long n => exact clean_wholeText n
  | optionalInt n =>
    cases n with
    | none => exact List.not_mem_nil
    | some n => exact clean_wholeText n
  | flag b => exact clean_flag b
  | decimal d => exact Decimal.clean_text _
  | time t => exact clean_time t

end Field

def writeAll (fields : List Field) : Writer := fields.foldl Field.write Writer.empty

def FieldType.read : FieldType → Reading Field
  | .text => return .text (← Reading.text)
  | .int => return .int (← Reading.int)
  | .long => return .long (← Reading.long)
  | .optionalInt => return .optionalInt (← Reading.optionalInt)
  | .flag => return .flag (← Reading.flag)
  | .decimal => return .decimal (← Reading.decimal)
  | .time => return .time (← Reading.time)

def readAll : List FieldType → Reading (List Field)
  | [] => return []
  | type :: types => do
    let f ← type.read
    let rest ← readAll types
    return f :: rest

theorem writeAll_eq (fields : List Field) :
    writeAll fields = Writer.empty.texts (fields.map Field.written) := by
  unfold writeAll Writer.texts
  rw [List.foldl_map]
  congr 1
  funext w f
  exact f.write_eq w

theorem clean_map_written {fields : List Field} (sound : ∀ f ∈ fields, f.Sound) :
    ∀ s ∈ fields.map Field.written, Clean s :=
  List.forall_mem_map.mpr fun f member => Field.clean_written (sound f member)

theorem writeAll_sound {fields : List Field} (sound : ∀ f ∈ fields, f.Sound) :
    (writeAll fields).fault = none ∧ (writeAll fields).payload =
      joined (fields.map Field.written) := by
  rw [writeAll_eq, Writer.texts_of_clean rfl (clean_map_written sound)]
  refine ⟨rfl, ?_⟩
  unfold Writer.payload
  rw [List.reverse_append, List.reverse_reverse]
  rfl

theorem finish_writeAll {fields : List Field} (some_field : fields ≠ [])
    (sound : ∀ f ∈ fields, f.Sound) (room : (writeAll fields).size ≤ frameLimit) :
    ∃ frame, (writeAll fields).finish = .ok frame ∧
      splitFrame frame = .ok (some ((writeAll fields).payload, [])) := by
  obtain ⟨-, payload⟩ := writeAll_sound sound
  have some_text : fields.map Field.written ≠ [] := mt List.map_eq_nil_iff.mp some_field
  rw [← Writer.length_payload, payload] at room
  refine ⟨header (joined (fields.map Field.written)).length ++ joined (fields.map Field.written),
    ?_, ?_⟩
  · rw [writeAll_eq, Writer.finish_texts some_text, if_pos (clean_map_written sound),
      if_neg (Nat.not_lt.mpr room)]
  · rw [payload]
    exact splitFrame_joined some_text room

namespace Reading

/-- From fields with these texts a reader gets a value, whatever follows them, and stops behind
them. -/
def Takes {α : Type} (read : Reading α) (texts : List String) (value : α) : Prop :=
  ∀ more offset, read ⟨joined texts ++ more, none, offset⟩ = (value, ⟨more, none, offset⟩)

section Takes

variable {α β : Type} {kind : FieldKind} {zero value : α} {parse : String → Option α} {s : String}

/-- The text of the field in front is found, and the cursor stops behind its zero byte. -/
theorem nextText_joined (clean : Clean s) (more : Bytes) (offset : Int) :
    Cursor.nextText ⟨joined [s] ++ more, none, offset⟩ = (some s, ⟨more, none, offset⟩) := by
  have bytes : joined [s] ++ more = toBytes s ++ 0 :: more := by
    rw [joined_cons, joined_nil, List.append_assoc, List.singleton_append]
  have solid : ∀ b ∈ toBytes s, (b != 0) = true := by
    intro b member
    rw [bne_iff_ne]
    rintro rfl
    exact zero_mem_toBytes_iff.mp member clean
  have filled : (toBytes s ++ 0 :: more).isEmpty = false := by simp
  have token : Cursor.nextToken ⟨toBytes s ++ 0 :: more, none, offset⟩ =
      (some (toBytes s), ⟨more, none, offset⟩) := by
    unfold Cursor.nextToken
    dsimp only
    rw [filled, List.span_eq_takeWhile_dropWhile, List.takeWhile_append_of_pos solid,
      List.dropWhile_append_of_pos solid]
    simp
  unfold Cursor.nextText
  rw [bytes, token]
  dsimp only
  rw [ofBytes?_toBytes]

theorem takes_text (clean : Clean s) : text.Takes [s] s := by
  intro more offset
  unfold text
  rw [nextText_joined clean]

theorem takes_field (clean : Clean s) (parsed : parse s = some value) :
    (field kind zero parse).Takes [s] value := by
  intro more offset
  unfold field
  rw [nextText_joined clean]
  dsimp only
  rw [parsed]

theorem takes_fieldOrZero (clean : Clean s) (filled : s ≠ "") (parsed : parse s = some value) :
    (fieldOrZero kind zero parse).Takes [s] value := by
  refine takes_field clean ?_
  rw [if_neg (mt String.isEmpty_iff.mp filled), parsed]

theorem takes_empty : (fieldOrZero kind zero parse).Takes [""] zero :=
  takes_field List.not_mem_nil (if_pos rfl)

theorem takes_pure (value : α) : Takes (pure value) [] value := fun _ _ => rfl

theorem Takes.bind {read : Reading α} {next : α → Reading β} {first rest : List String} {result : β}
    (front : read.Takes first value) (behind : (next value).Takes rest result) :
    (read >>= next).Takes (first ++ rest) result := by
  intro more offset
  have step : ∀ c, (read >>= next) c = next (read c).1 (read c).2 := fun _ => rfl
  rw [joined_append, List.append_assoc, step, front, behind]

end Takes

def Undoes {α : Type} (read : Reading α) (fields : List Field) (result : α) : Prop :=
  (∀ f ∈ fields, f.Sound) → read.Takes (fields.map Field.written) result

section Undoes

variable {α β : Type} {f : Field} {first fields : List Field} {value : α} {result : β}

theorem undoes_pure (value : α) : Undoes (pure value) [] value := fun _ => takes_pure value

theorem undoes_finish (value : α) : Undoes (finish value) [] (.ok value) := fun _ _ _ => rfl

theorem Undoes.bind {read : Reading α} {next : α → Reading β} (front : Undoes read first value)
    (behind : Undoes (next value) fields result) :
    Undoes (read >>= next) (first ++ fields) result := by
  intro sound
  rw [List.forall_mem_append] at sound
  rw [List.map_append]
  exact (front sound.1).bind (behind sound.2)

theorem Undoes.next {read : Reading α} {next : α → Reading β} (front : Undoes read [f] value)
    (behind : Undoes (next value) fields result) : Undoes (read >>= next) (f :: fields) result :=
  front.bind behind

theorem Undoes.map {read : Reading α} (front : Undoes read fields value) (make : α → β) :
    Undoes (do return make (← read)) fields (make value) := by
  have whole : Undoes (do return make (← read)) (fields ++ []) (make value) :=
    front.bind (undoes_pure _)
  rw [List.append_nil] at whole
  exact whole

theorem undoes_one {read : Reading α} (takes : f.Sound → read.Takes [f.written] value) :
    Undoes read [f] value := fun sound => takes (sound f (List.mem_singleton_self f))

theorem undoes_text (s : String) : Undoes text [.text s] s := undoes_one takes_text

theorem undoes_int (n : Int) : Undoes int [.int n] n :=
  undoes_one fun holds => takes_fieldOrZero (clean_wholeText n) (wholeText_ne_empty n) <| by
    rw [Field.written, readWhole_wholeText holds]
    rfl

theorem undoes_long (n : Int) : Undoes long [.long n] n :=
  undoes_one fun holds => takes_fieldOrZero (clean_wholeText n) (wholeText_ne_empty n) <| by
    rw [Field.written, readWhole_wholeText holds]
    rfl

theorem undoes_optionalInt (n : Option Int) : Undoes optionalInt [.optionalInt n] n := by
  refine undoes_one fun holds => ?_
  cases n with
  | none => exact takes_empty
  | some n =>
    refine takes_fieldOrZero (clean_wholeText n) (wholeText_ne_empty n) ?_
    rw [Field.written, Option.map_some, Option.getD_some, readWhole_wholeText (holds n rfl)]
    rfl

/-- Every number but zero stands for yes. -/
theorem undoes_flag_int (n : Int) : Undoes flag [.int n] (n != 0) := (undoes_int n).map (· != 0)

theorem undoes_flag (b : Bool) : Undoes flag [.flag b] b := by
  refine undoes_one fun _ => ?_
  cases b with
  | false => exact undoes_flag_int 0 (by decide)
  | true => exact undoes_flag_int 1 (by decide)

theorem undoes_decimal (d : Decimal) : Undoes decimal [.decimal d] d.normalized :=
  undoes_one fun _ => takes_fieldOrZero d.normalized.clean_text d.normalized.text_ne_empty
    d.read?_text_normalized

theorem undoes_time (t : Instant) : Undoes time [.time t] t.second := by
  refine undoes_one ?_
  rintro ⟨here, low, high⟩ more offset
  exact takes_field (clean_stamp t) (readStamp_stamp here low high offset) more offset

theorem undoes_read (f : Field) : Undoes f.type.read [f] f.normal := by
  cases f with
  | text s => exact (undoes_text s).map Field.text
  | int n => exact (undoes_int n).map Field.int
  | long n => exact (undoes_long n).map Field.long
  | optionalInt n => exact (undoes_optionalInt n).map Field.optionalInt
  | flag b => exact (undoes_flag b).map Field.flag
  | decimal d => exact (undoes_decimal d).map Field.decimal
  | time t => exact (undoes_time t).map Field.time

theorem undoes_readAll (fields : List Field) :
    Undoes (readAll (fields.map Field.type)) fields (fields.map Field.normal) := by
  induction fields with
  | nil => exact undoes_pure []
  | cons f fields ih => exact (undoes_read f).next (ih.map (f.normal :: ·))

end Undoes

end Reading

/-- Sound values whose frame is not too large are written, and the frame holds one payload. Reading
as many values as one likes from it gives them back in their order, decimals as the same number
without zeros at its end; there is no fault, and something remains exactly until all have been
read. -/
theorem fields_read_back {fields : List Field} (some_field : fields ≠ [])
    (sound : ∀ f ∈ fields, f.Sound) (room : (writeAll fields).size ≤ frameLimit) :
    (∃ frame payload, (writeAll fields).finish = .ok frame ∧
      splitFrame frame = .ok (some (payload, [])) ∧
      ∀ offset, ∀ count ≤ fields.length, ∃ c,
        readAll ((fields.take count).map Field.type) (Cursor.start payload offset) =
          ((fields.take count).map Field.normal, c) ∧
        c.fault = none ∧ c.hasRemaining = decide (count < fields.length)) ∧
    ∀ d, Field.decimal d ∈ fields → d.normalized.sameNumber d = true ∧ d.normalized.IsNormal := by
  refine ⟨?_, fun d _ => ⟨d.sameNumber_normalized, d.isNormal_normalized⟩⟩
  obtain ⟨frame, finished, cut⟩ := finish_writeAll some_field sound room
  refine ⟨frame, _, finished, cut, ?_⟩
  intro offset count inside
  have front : ∀ f ∈ fields.take count, f.Sound :=
    fun f member => sound f (List.mem_of_mem_take member)
  have parts : joined (fields.map Field.written) =
      joined ((fields.take count).map Field.written) ++
      joined ((fields.drop count).map Field.written) := by
    rw [← joined_append, ← List.map_append, List.take_append_drop]
  refine ⟨⟨joined ((fields.drop count).map Field.written), none, offset⟩, ?_, rfl, ?_⟩
  · rw [(writeAll_sound sound).2, parts]
    exact Reading.undoes_readAll (fields.take count) front _ offset
  · have empty : (joined ((fields.drop count).map Field.written)).isEmpty =
        decide (fields.length ≤ count) := by
      rw [Bool.eq_iff_iff, List.isEmpty_iff, joined_eq_nil_iff, List.map_eq_nil_iff,
        List.drop_eq_nil_iff, decide_eq_true_iff]
    unfold Cursor.hasRemaining
    dsimp only
    rw [empty, Option.isNone_none, Bool.true_and, ← decide_not]
    exact decide_eq_decide.mpr Nat.not_le

/-- An empty text beside an unset number, the least and the greatest numbers, a text of two bytes,
and three decimals: one takes all digits that there are, one has a zero to lose, and one is a
negative zero. -/
def hardFields : List Field :=
  [.text "", .optionalInt none, .int (-2147483648), .long 9223372036854775807, .flag true,
    .text "é", .decimal ⟨true, 79228162514264337593543950335, 28, by decide, by decide⟩,
    .decimal ⟨false, 10, 1, by decide, by decide⟩, .decimal { Decimal.zero with negative := true }]

theorem hardFields_read_back :
    ∃ frame payload, (writeAll hardFields).finish = .ok frame ∧
      splitFrame frame = .ok (some (payload, [])) ∧
      ∃ c, readAll (hardFields.map Field.type) (Cursor.start payload 0) =
          (hardFields.map Field.normal, c) ∧
        c.fault = none ∧ c.hasRemaining = false := by
  obtain ⟨⟨frame, payload, finished, cut, read⟩, -⟩ :=
    @fields_read_back hardFields (by decide) (by decide) (by decide +kernel)
  exact ⟨frame, payload, finished, cut, read 0 9 (by decide)⟩

end MarketLink.Wire
