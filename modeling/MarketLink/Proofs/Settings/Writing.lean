import MarketLink.Proofs.Settings.Rules
import MarketLink.Settings.Document

set_option autoImplicit false

namespace MarketLink

open Document Number

namespace Span

def milli : Nat := 1000000

/-- The milliseconds of a span fit into a signed number of 64 bits. -/
def Short (span : Span) : Prop := span.nanos < 9223372036854775808 * milli

def inMillis (span : Span) : Span := .ofMillis span.millis

variable {span : Span}

theorem millis_of_short (short : span.Short) : span.millis = span.nanos / milli := by
  simp only [Short, milli] at short
  simp only [millis, wordLimit, milli]
  omega

theorem Short.holds (short : span.Short) : int64.Holds span.millis := by
  rw [millis_of_short short]
  simp only [Short, milli] at short
  constructor <;> simp only [int64, milli] <;> omega

theorem inMillis_eq_iff (short : span.Short) : span.inMillis = span ↔ milli ∣ span.nanos := by
  unfold inMillis
  rw [millis_of_short short]
  cases span
  simp only [ofMillis, milli, Span.mk.injEq]
  omega

theorem millis_eq_zero_iff (short : span.Short) : span.millis = 0 ↔ span.nanos < milli := by
  rw [millis_of_short short]
  simp only [milli]
  omega

end Span

namespace Settings

def spans (s : Settings) : List Span :=
  [s.dialTimeout, s.connectTimeout, s.writeTimeout] ++ s.requestTimeout.toList

/-- Settings without what is finer than a millisecond. A request timeout of which nothing is left is
none. -/
def inMillis (s : Settings) : Settings :=
  { s with
    dialTimeout := s.dialTimeout.inMillis
    connectTimeout := s.connectTimeout.inMillis
    writeTimeout := s.writeTimeout.inMillis
    requestTimeout := s.requestTimeout.bind fun span => Span.deadline span.millis }

def listing (s : Settings) : Entries :=
  [("address", .text s.address)] ++
    (s.clientId.toList.map fun id => ("client_id", .whole id)) ++
    [("connect_options", .text s.connectOptions),
      ("optional_capabilities", .text s.optionalCapabilities),
      ("tz_offset_minutes", .whole s.offsetMinutes),
      ("dial_timeout", .whole s.dialTimeout.millis),
      ("connect_timeout", .whole s.connectTimeout.millis),
      ("write_timeout", .whole s.writeTimeout.millis)] ++
    s.requestTimeout.toList.map fun span => ("request_timeout", .whole span.millis)

def written? (s : Settings) : String → Option Value
  | "address" => some (.text s.address)
  | "client_id" => s.clientId.map .whole
  | "connect_options" => some (.text s.connectOptions)
  | "optional_capabilities" => some (.text s.optionalCapabilities)
  | "tz_offset_minutes" => some (.whole s.offsetMinutes)
  | "dial_timeout" => some (.whole s.dialTimeout.millis)
  | "connect_timeout" => some (.whole s.connectTimeout.millis)
  | "write_timeout" => some (.whole s.writeTimeout.millis)
  | "request_timeout" => s.requestTimeout.map fun span => .whole span.millis
  | _ => none

variable {s : Settings} {entries : Entries}

theorem millisEntry_of_short {span : Span} (short : span.Short) (name : String) :
    millisEntry name span = .ok (name, .whole span.millis) := if_pos short.holds

theorem toEntries_of_short (short : ∀ span ∈ s.spans, span.Short) :
    s.toEntries = .ok s.listing := by
  have dial : s.dialTimeout.Short := short _ (by simp [spans])
  have connect : s.connectTimeout.Short := short _ (by simp [spans])
  have write : s.writeTimeout.Short := short _ (by simp [spans])
  have request : s.requestTimeout.toList.mapM (millisEntry "request_timeout") =
      .ok (s.requestTimeout.toList.map fun span => ("request_timeout", .whole span.millis)) := by
    cases set : s.requestTimeout with
    | none => rfl
    | some span =>
      have short : span.Short := short _ (by simp [spans, set])
      simp only [Option.toList_some, List.mapM_cons, List.mapM_nil, millisEntry_of_short short]
      rfl
  unfold toEntries
  rw [millisEntry_of_short dial, millisEntry_of_short connect, millisEntry_of_short write, request]
  rfl

theorem lookup_listing (s : Settings) (name : String) :
    s.listing.lookup name = s.written? name := by
  unfold listing written?
  split
  case h_10 =>
    rw [List.lookup_eq_none_iff]
    cases s.clientId <;> cases s.requestTimeout <;> simp_all
  all_goals cases s.clientId <;> cases s.requestTimeout <;> rfl

theorem entry_of_lookup {α : Type} {name : String} {value : Value}
    (found : entries.lookup name = some value) (expected : String) (default : α)
    {read : Value → Option α} {result : α} (reads : read value = some result) :
    entry entries name expected default read = .ok result := by
  rw [entry, found]
  dsimp only
  rw [reads]

theorem entry_of_missing {α : Type} {name : String} (missing : entries.lookup name = none)
    (expected : String) (default : α) (read : Value → Option α) :
    entry entries name expected default read = .ok default := by
  rw [entry, missing]

theorem intValue?_whole {n : Int} (holds : int32.Holds n) : intValue? (.whole n) = some n :=
    if_pos holds

theorem millisValue?_whole (millis : Nat) : millisValue? (.whole millis) = some millis := by
  rw [millisValue?, if_pos (Int.natCast_nonneg millis), Int.toNat_natCast]

theorem decode_of_written (same : ∀ name, entries.lookup name = s.written? name)
    (number : ∀ id ∈ s.clientId, int32.Holds id) (offset : int32.Holds s.offsetMinutes) :
    decode entries = .ok s.inMillis := by
  have text : ∀ (name : String) {text : String}, s.written? name = some (.text text) → ∀ default,
      entry entries name "a text" default textValue? = .ok text := fun name _ found default =>
    entry_of_lookup ((same name).trans found) _ default rfl
  have span : ∀ (name : String) {span : Span}, s.written? name = some (.whole span.millis) →
    ∀ default,
      entry entries name "a number of milliseconds" default
          (fun v => (millisValue? v).map .ofMillis) =
        .ok span.inMillis := fun name _ found default =>
    entry_of_lookup ((same name).trans found) _ default (by rw [millisValue?_whole]; rfl)
  have clientId : entry entries "client_id" "a number" none (fun v => (intValue? v).map some) =
      .ok s.clientId := by
    have found := same "client_id"
    cases set : s.clientId with
    | none => exact entry_of_missing (found.trans (by rw [written?, set]; rfl)) _ _ _
    | some id =>
      refine entry_of_lookup (found.trans (by rw [written?, set]; rfl)) _ _ ?_
      rw [intValue?_whole (number id set)]
      rfl
  have minutes : entry entries "tz_offset_minutes" "a number" 0 intValue? = .ok s.offsetMinutes :=
    entry_of_lookup (same "tz_offset_minutes") _ _ (intValue?_whole offset)
  have request : entry entries "request_timeout" "a number of milliseconds" none
      (fun v => (millisValue? v).map Span.deadline) =
        .ok (s.requestTimeout.bind fun span => Span.deadline span.millis) := by
    have found := same "request_timeout"
    cases set : s.requestTimeout with
    | none => exact entry_of_missing (found.trans (by rw [written?, set]; rfl)) _ _ _
    | some span =>
      refine entry_of_lookup (found.trans (by rw [written?, set]; rfl)) _ _ ?_
      rw [millisValue?_whole]
      rfl
  unfold decode
  dsimp only
  rw [text "address" rfl, clientId, text "connect_options" rfl, text "optional_capabilities" rfl,
    minutes, span "dial_timeout" rfl, span "connect_timeout" rfl, span "write_timeout" rfl, request]
  rfl

theorem keeps_inMillis (rule : Rule) (kept : s.Keeps rule) : s.inMillis.Keeps rule := by
  cases rule with
  | address | clientId | offset => exact kept
  | requestTimeout =>
    intro zero
    obtain ⟨span, -, same⟩ := Option.bind_eq_some_iff.mp zero
    unfold Span.deadline at same
    split at same
    · cases same
    · rename_i positive
      simp only [Span.ofMillis, Span.zero, Option.some.injEq, Span.mk.injEq] at same
      omega

theorem valid_inMillis (valid : s.validate = .ok ()) : s.inMillis.validate = .ok () :=
  validate_eq_ok_iff.mpr fun rule => keeps_inMillis rule (validate_eq_ok_iff.mp valid rule)

theorem requestTimeout_inMillis_iff (short : ∀ span ∈ s.spans, span.Short) :
    s.inMillis.requestTimeout.isSome = s.requestTimeout.isSome ↔
      ∀ span, s.requestTimeout = some span → Span.milli ≤ span.nanos := by
  unfold inMillis
  cases set : s.requestTimeout with
  | none => simp
  | some span =>
    have short : span.Short := short _ (by simp [spans, set])
    have zero := Span.millis_eq_zero_iff short
    simp only [Option.bind_some, Span.deadline, Option.isSome_some, Option.some.injEq, forall_eq']
    split
    · rename_i none
      have less := zero.mp none
      simp only [Option.isSome_none, Bool.false_eq_true, false_iff]
      omega
    · rename_i positive
      have more := mt zero.mpr positive
      simp only [Option.isSome_some, true_iff]
      omega

theorem deadline_millis_eq_some_iff {span : Span} (short : span.Short) (positive : span ≠ .zero) :
    Span.deadline span.millis = some span ↔ Span.milli ∣ span.nanos := by
  rw [← Span.inMillis_eq_iff short, Span.deadline]
  split
  · rename_i none
    refine iff_of_false nofun fun same => positive ?_
    rw [← same, Span.inMillis, none]
    rfl
  · exact Option.some_inj

/-- Settings come back as they were if all their spans are whole milliseconds. -/
theorem inMillis_eq_self_iff (valid : s.validate = .ok ()) (short : ∀ span ∈ s.spans, span.Short) :
    s.inMillis = s ↔ ∀ span ∈ s.spans, Span.milli ∣ span.nanos := by
  have each : s.inMillis = s ↔ s.dialTimeout.inMillis = s.dialTimeout ∧
      s.connectTimeout.inMillis = s.connectTimeout ∧ s.writeTimeout.inMillis = s.writeTimeout ∧
      (s.requestTimeout.bind fun span => Span.deadline span.millis) = s.requestTimeout := by
    cases s
    simp [inMillis]
  have request : (s.requestTimeout.bind fun span => Span.deadline span.millis) = s.requestTimeout ↔
      ∀ span, s.requestTimeout = some span → Span.milli ∣ span.nanos := by
    cases set : s.requestTimeout with
    | none => simp
    | some span =>
      have positive : span ≠ .zero := by
        have kept := validate_eq_ok_iff.mp valid .requestTimeout
        rw [Keeps, set] at kept
        exact fun zero => kept (congrArg some zero)
      simp only [Option.bind_some, Option.some.injEq, forall_eq']
      exact deadline_millis_eq_some_iff (short _ (by simp [spans, set])) positive
  have usual : s.dialTimeout.Short ∧ s.connectTimeout.Short ∧ s.writeTimeout.Short :=
    ⟨short _ (by simp [spans]), short _ (by simp [spans]), short _ (by simp [spans])⟩
  rw [each, request, Span.inMillis_eq_iff usual.1, Span.inMillis_eq_iff usual.2.1,
    Span.inMillis_eq_iff usual.2.2]
  simp [spans, or_imp, forall_and, Option.mem_toList]

theorem requestTimeout_inMillis_of_le {span : Span} (short : span.Short)
    (set : s.requestTimeout = some span) (long : Span.milli ≤ span.nanos) :
    ∃ kept, s.inMillis.requestTimeout = some kept ∧ kept.nanos ≤ span.nanos ∧
      span.nanos < kept.nanos + Span.milli := by
  have positive : ¬span.millis = 0 := mt (Span.millis_eq_zero_iff short).mp (Nat.not_lt.mpr long)
  refine ⟨span.inMillis, ?_, ?_⟩
  · rw [inMillis, set]
    exact if_neg positive
  · rw [Span.inMillis, Span.millis_of_short short]
    simp only [Span.ofMillis, Span.milli]
    omega

/-- Settings that can be used come back, but for what is finer than a millisecond, from any entries
in which the values are those that were written for them. -/
theorem ofEntries_of_written (valid : s.validate = .ok ())
    (number : ∀ id ∈ s.clientId, int32.Holds id)
    (same : ∀ name, entries.lookup name = s.written? name) :
    ofEntries entries = .ok s.inMillis := by
  have offset : int32.Holds s.offsetMinutes := by
    obtain ⟨low, high⟩ := validate_eq_ok_iff.mp valid .offset
    constructor <;> simp only [int32] <;> omega
  rw [ofEntries, decode_of_written same number offset]
  exact validated_eq_ok_iff.mpr ⟨rfl, valid_inMillis valid⟩

/-- Settings that can be used, and whose spans are shorter than 2^63 milliseconds, are written, and
they come back from the values that were written, however a document arranges them, as settings that
can be used. A request timeout that is not set is not written and does not come back. One of a
millisecond or more comes back with less than a millisecond missing; one that is shorter is lost,
and in no other way is a timeout lost. All comes back as it was if all spans are whole milliseconds,
and only then. -/
theorem timeout_survives_writing_iff (s : Settings) (valid : s.validate = .ok ())
    (number : ∀ id, s.clientId = some id → int32.Holds id)
    (short : ∀ span ∈ s.spans, span.nanos < 9223372036854775808 * Span.milli) :
    ∃ entries back, s.toEntries = .ok entries ∧
      (entries.lookup "request_timeout" = none ↔ s.requestTimeout = none) ∧
      (∀ read, (∀ name, read.lookup name = entries.lookup name) → ofEntries read = .ok back ∧
        ∀ text, read? text = some read → ofDocument text = .ok back) ∧
      back.validate = .ok () ∧
      (back.requestTimeout.isSome = s.requestTimeout.isSome ↔
        ∀ span, s.requestTimeout = some span → Span.milli ≤ span.nanos) ∧
      (∀ span, s.requestTimeout = some span → Span.milli ≤ span.nanos →
        ∃ kept, back.requestTimeout = some kept ∧ kept.nanos ≤ span.nanos ∧
          span.nanos < kept.nanos + Span.milli) ∧
      (back = s ↔ ∀ span ∈ s.spans, Span.milli ∣ span.nanos) ∧
      s.survivesWriting = .ok (back == s) := by
  have written := toEntries_of_short short
  have comes : ∀ read : Entries, (∀ name, read.lookup name = s.listing.lookup name) →
      ofEntries read = .ok s.inMillis := fun read same =>
    ofEntries_of_written valid number fun name => (same name).trans (lookup_listing s name)
  refine ⟨s.listing, s.inMillis, written, ?_, ?_, valid_inMillis valid,
    requestTimeout_inMillis_iff short, ?_, inMillis_eq_self_iff valid short, ?_⟩
  · rw [lookup_listing, written?, Option.map_eq_none_iff]
  · intro read same
    refine ⟨comes read same, ?_⟩
    intro text found
    rw [ofDocument, found]
    exact comes read same
  · intro span set long
    exact requestTimeout_inMillis_of_le (short span (by simp [spans, set])) set long
  · rw [survivesWriting, written]
    dsimp only [bind, Except.bind]
    rw [comes s.listing fun _ => rfl]
    rfl

theorem timeout_of_a_second_is_kept :
    let s : Settings :=
      { clientId := some 7, dialTimeout := ⟨1500000⟩, requestTimeout := some ⟨1000000999⟩ }
    s.validate = .ok () ∧ (∀ id, s.clientId = some id → int32.Holds id) ∧
      (∀ span ∈ s.spans, span.nanos < 9223372036854775808 * Span.milli) ∧
      ∃ entries back kept, s.toEntries = .ok entries ∧ ofEntries entries = .ok back ∧ back ≠ s ∧
        back.requestTimeout = some kept ∧ kept.nanos ≤ 1000000999 ∧
        1000000999 < kept.nanos + 1000000 := by
  intro s
  have valid : s.validate = .ok () := validate_eq_ok_iff.mpr fun rule => by cases rule <;> decide
  have number : ∀ id, s.clientId = some id → int32.Holds id := by
    rintro _ ⟨⟩
    decide
  have short : ∀ span ∈ s.spans, span.nanos < 9223372036854775808 * Span.milli := by decide
  obtain ⟨entries, back, written, -, comes, -, -, close, same, -⟩ :=
    timeout_survives_writing_iff s valid number short
  obtain ⟨kept, timeout, less, near⟩ := close ⟨1000000999⟩ rfl (by decide)
  refine ⟨valid, number, short, entries, back, kept, written, (comes entries fun _ => rfl).1, ?_,
    timeout, less, near⟩
  rw [Ne, same]
  decide

/-- A timeout of half a millisecond can be used, and nothing is too long to be written, but what
comes back has no timeout: neither from the entries that are written nor from a document with
them. -/
theorem half_a_millisecond_comes_back_as_no_timeout :
    let s : Settings := { requestTimeout := some ⟨500000⟩ }
    let text :=
      "address = \"127.0.0.1:4002\"\nconnect_options = \"\"\noptional_capabilities = \"\"\n" ++
      "tz_offset_minutes = 0\ndial_timeout = 3000\nconnect_timeout = 10000\n" ++
      "write_timeout = 5000\nrequest_timeout = 0\n"
    s.validate = .ok () ∧ (∀ span ∈ s.spans, span.nanos < 9223372036854775808 * Span.milli) ∧
      s.requestTimeout.isSome = true ∧
      ∃ entries back, s.toEntries = .ok entries ∧ ofEntries entries = .ok back ∧
        (ofDocument text).toOption = some back ∧ back.requestTimeout = none := by
  intro s text
  have valid : s.validate = .ok () := validate_eq_ok_iff.mpr fun rule => by cases rule <;> decide
  have short : ∀ span ∈ s.spans, span.nanos < 9223372036854775808 * Span.milli := by decide
  refine ⟨valid, short, rfl, s.listing, s.inMillis, toEntries_of_short short, ?_, ?_, rfl⟩
  · exact ofEntries_of_written valid nofun (lookup_listing s)
  · decide +kernel

end Settings

end MarketLink
