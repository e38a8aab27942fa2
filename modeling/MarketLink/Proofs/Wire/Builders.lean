import MarketLink.Proofs.Message.Asked
import MarketLink.Proofs.Wire.Framing

set_option autoImplicit false

namespace MarketLink.Wire

open Message Number Text

/-- One thing that is written: a value, or a double. -/
inductive Entry where
  | field (f : Field)
  | real (x : Float)

namespace Entry

def write (w : Writer) : Entry → Writer
  | field f => f.write w
  | real x => w.real x

def written : Entry → String
  | field f => f.written
  | real x => realField x

theorem write_eq (w : Writer) (entry : Entry) : entry.write w = w.text entry.written := by
  cases entry with
  | field f => exact f.write_eq w
  | real x => exact real_eq w x

/-- A text is the only thing that can hold a zero byte. -/
theorem clean_written_iff {entry : Entry} :
    Clean entry.written ↔ ∀ s, entry = field (.text s) → 0 ∉ toBytes s := by
  have free : ∀ s, 0 ∉ toBytes s ↔ Clean s := fun s => not_iff_comm.mp zero_mem_toBytes_iff.symm
  cases entry with
  | real x => exact iff_of_true (clean_realField x) nofun
  | field f =>
    cases f with
    | text s =>
      rw [← free]
      constructor
      · rintro clean _ ⟨⟩
        exact clean
      · exact fun clean => clean s rfl
    | int n => exact iff_of_true (Field.clean_int n) nofun
    | long n => exact iff_of_true (clean_wholeText n) nofun
    | optionalInt n =>
      cases n with
      | none => exact iff_of_true List.not_mem_nil nofun
      | some n => exact iff_of_true (clean_wholeText n) nofun
    | flag b => exact iff_of_true (Field.clean_flag b) nofun
    | decimal d => exact iff_of_true (Decimal.clean_text _) nofun
    | time t => exact iff_of_true (Field.clean_time t) nofun

end Entry

def begun : Option Outgoing → Writer
  | none => Writer.empty
  | some code => Writer.ofCode code

def built (code? : Option Outgoing) (entries : List Entry) : Writer :=
  entries.foldl Entry.write (begun code?)

def tokens (code? : Option Outgoing) (entries : List Entry) : List String :=
  (code?.map fun code => wholeText code.code).toList ++ entries.map Entry.written

theorem built_eq (code? : Option Outgoing) (entries : List Entry) :
    built code? entries = Writer.empty.texts (tokens code? entries) := by
  have first : begun code? =
      Writer.empty.texts (code?.map fun code => wholeText code.code).toList := by
    cases code? <;> rfl
  unfold built tokens Writer.texts
  rw [List.foldl_append, List.foldl_map, first]
  congr 1
  funext w entry
  exact entry.write_eq w

/-- All fields are clean exactly if the texts among the entries have no zero byte. -/
theorem clean_tokens_iff {code? : Option Outgoing} {entries : List Entry} :
    (∀ s ∈ tokens code? entries, Clean s) ↔ ∀ s, .field (.text s) ∈ entries → 0 ∉ toBytes s := by
  have code : ∀ s ∈ (code?.map fun code => wholeText code.code).toList, Clean s := by
    cases code? with
    | none => exact nofun
    | some code => exact List.forall_mem_singleton.mpr (clean_wholeText code.code)
  unfold tokens
  rw [List.forall_mem_append, List.forall_mem_map, and_iff_right code]
  simp only [Entry.clean_written_iff]
  constructor
  · intro clean s member
    exact clean _ member s rfl
  · rintro clean _ member s rfl
    exact clean s member

theorem encodeFrame_ne_embeddedNul (payload : Bytes) :
    encodeFrame payload ≠ .error .embeddedNul := by
  rw [encodeFrame_eq]
  split
  · exact nofun
  · split <;> exact nofun

/-- A buffer with four bytes in front that are free for the length, and the fault that spoiled
it. -/
structure Draft where
  buffer : Bytes := [0, 0, 0, 0]
  fault : Option WireError := none

namespace Draft

def text (d : Draft) (s : String) : Draft :=
  if d.fault.isSome then d
  else if (toBytes s).contains 0 then { d with fault := some .embeddedNul }
  else { d with buffer := d.buffer ++ toBytes s ++ [0] }

/-- Writes the length over the free bytes, once it is found to be one that a frame may have. -/
def finish (d : Draft) : Except WireError Bytes :=
  match d.fault with
  | some e => .error e
  | none =>
    let length := d.buffer.length - 4
    if length = 0 then .error .emptyFrame
    else if frameLimit < length then .error (.frameTooLarge length)
    else .ok (header length ++ d.buffer.drop 4)

end Draft

def Writer.draft (w : Writer) : Draft := ⟨[0, 0, 0, 0] ++ w.payload, w.fault⟩

theorem Writer.draft_text (w : Writer) (s : String) : (w.text s).draft = w.draft.text s := by
  have zero : (toBytes s).contains 0 = s.toList.contains '\x00' := by
    rw [Bool.eq_iff_iff, List.contains_iff_mem, List.contains_iff_mem, zero_mem_toBytes_iff]
    exact not_not
  unfold Writer.text Draft.text
  rw [zero]
  show _ = if w.fault.isSome then _ else _
  split
  · rfl
  · split
    · rfl
    · unfold Writer.draft Writer.payload
      rw [List.reverse_cons, List.flatMap_append]
      simp

theorem Writer.draft_texts (w : Writer) (ss : List String) :
    (w.texts ss).draft = ss.foldl Draft.text w.draft := by
  induction ss generalizing w with
  | nil => rfl
  | cons s ss ih => rw [texts_cons, ih, draft_text, List.foldl_cons]

theorem Writer.finish_draft (w : Writer) : w.draft.finish = w.finish := by
  have length : w.draft.buffer.length - 4 = w.size := by
    rw [← length_payload]
    unfold Writer.draft
    simp
  have payload : w.draft.buffer.drop 4 = w.payload := rfl
  unfold Draft.finish Writer.finish
  rw [length, payload]
  rfl

/-- Whatever is written behind nothing or behind a code: the frame is spoiled exactly by a text with
a zero byte, wherever it stands and however long the frame is. Otherwise it is finished exactly when
the fields, each with a zero byte behind it, can be appended to an empty buffer as a payload, with
the same bytes or the same error. A frame built in place, with the length written last, is the
same. -/
theorem built_frame_is_that_of_its_payload (code? : Option Outgoing) (entries : List Entry) :
    let finished := (built code? entries).finish
    let payload := joined (tokens code? entries)
    (finished = .error .embeddedNul ↔ ∃ s, .field (.text s) ∈ entries ∧ 0 ∈ toBytes s) ∧
    ((∀ s, .field (.text s) ∈ entries → 0 ∉ toBytes s) →
      (∀ frame, finished = .ok frame ↔ appendFrame payload [] = (.ok (), frame)) ∧
      (∀ e, finished = .error e ↔ appendFrame payload [] = (.error e, [])) ∧
      finished =
        if payload.length = 0 then .error .emptyFrame
        else if 0x00FFFFFF < payload.length then .error (.frameTooLarge payload.length)
        else .ok (header payload.length ++ payload)) ∧
    ((tokens code? entries).foldl Draft.text {}).finish = finished := by
  intro finished payload
  have texts : built code? entries = Writer.empty.texts (tokens code? entries) :=
    built_eq code? entries
  have of_clean : (∀ s, .field (.text s) ∈ entries → 0 ∉ toBytes s) →
      finished = encodeFrame payload := by
    intro clean
    show (built code? entries).finish = _
    rw [texts]
    exact Writer.finish_texts_of_clean (clean_tokens_iff.mpr clean)
  refine ⟨?spoiled, ?equal, ?inPlace⟩
  case spoiled =>
    constructor
    · intro spoiled
      by_contra none_zero
      have clean : ∀ s, .field (.text s) ∈ entries → 0 ∉ toBytes s := fun s member zero =>
        none_zero ⟨s, member, zero⟩
      exact encodeFrame_ne_embeddedNul payload (of_clean clean ▸ spoiled)
    · rintro ⟨s, member, zero⟩
      show (built code? entries).finish = _
      rw [texts]
      exact Writer.finish_texts_of_not_clean fun clean => clean_tokens_iff.mp clean s member zero
  case equal =>
    intro clean
    rw [of_clean clean, appendFrame_eq]
    refine ⟨fun frame => ?_, fun e => ?_, ?_⟩
    · cases encodeFrame payload <;> simp
    · cases encodeFrame payload <;> simp
    · exact encodeFrame_eq payload
  case inPlace =>
    show _ = (built code? entries).finish
    rw [texts, ← Writer.finish_draft, Writer.draft_texts]
    rfl

/-- Nothing written is an empty frame, an empty field is one byte, and nothing makes a zero good. -/
theorem zero_byte_is_not_made_good :
    (built none []).finish = .error .emptyFrame ∧
    (built none [.field (.optionalInt none)]).finish = .ok [0, 0, 0, 1, 0] ∧
    (built (some .reqIds) [.field (.text "a\x00"), .field (.flag true)]).finish =
      .error .embeddedNul := by
  obtain ⟨-, framed, -⟩ := built_frame_is_that_of_its_payload none []
  obtain ⟨-, framedField, -⟩ := built_frame_is_that_of_its_payload none [.field (.optionalInt none)]
  obtain ⟨spoiled, -⟩ :=
    built_frame_is_that_of_its_payload (some .reqIds) [.field (.text "a\x00"), .field (.flag true)]
  obtain ⟨-, refused, -⟩ := framed fun _ member => absurd member List.not_mem_nil
  obtain ⟨accepted, -⟩ := framedField fun _ member => nomatch List.mem_singleton.mp member
  refine ⟨(refused .emptyFrame).mpr rfl, (accepted _).mpr rfl, spoiled.mpr ⟨"a\x00", ?_, by decide⟩⟩
  exact List.mem_cons_self

end MarketLink.Wire
