import MarketLink.Message.Outbound
import MarketLink.Proofs.Wire.Fields

set_option autoImplicit false

namespace MarketLink.Message

open Market Number Text Time Wire

def realField (x : Float) : String :=
  if x.isInf then (if isNegative x then "-Infinity" else "Infinity") else realText x

def contractFields (c : Contract) : List Field :=
  [.int c.id, .text c.symbol, .text c.securityType, .text c.lastTradeDate,
    .text (realField c.strike), .text c.right, .text c.multiplier, .text c.exchange,
    .text c.primaryExchange, .text c.currency,
    .text c.localSymbol, .text c.tradingClass]

def contractTexts (c : Contract) : List String :=
  [c.symbol, c.securityType, c.lastTradeDate, c.right, c.multiplier, c.exchange, c.primaryExchange,
    c.currency, c.localSymbol, c.tradingClass]

def finishField : Option Instant → Field
  | some time => .time time
  | none => .text ""

/-- A request with its arguments. -/
inductive Asked where
  | startApi (clientId : Int) (capabilities : String)
  | currentTime
  | managedAccounts
  | ids (count : Int)
  | contractDetails (id : Int) (c : Contract)
  | historicalData (id : Int) (c : Contract) (query : BarQuery)
      (dated : ∀ time ∈ query.finish, time.Exists)
  | cancelHistoricalData (id : Int)
  | marketData (id : Int) (c : Contract) (genericTicks : String) (snapshot regulatory : Bool)
  | cancelMarketData (id : Int)
  | marketDepth (id : Int) (c : Contract) (rows : Int) (smart : Bool)
  | cancelMarketDepth (id : Int) (smart : Bool)
  | marketDataType (kind : Int)

/-- Two contracts have the same fields: strikes may differ where their texts do not. -/
structure SameFields (c d : Contract) : Prop where
  others : { c with strike := 0, includeExpired := false } =
    { d with strike := 0, includeExpired := false }
  strike : realField c.strike = realField d.strike

namespace Asked

def encode : Asked → Except WireError Bytes
  | startApi clientId capabilities => Message.startApi clientId capabilities
  | currentTime => reqCurrentTime
  | managedAccounts => reqManagedAccounts
  | ids count => reqIds count
  | contractDetails id c => reqContractDetails id c
  | historicalData id c query _ => reqHistoricalData id c query
  | cancelHistoricalData id => Message.cancelHistoricalData id
  | marketData id c genericTicks snapshot regulatory =>
    reqMarketData id c genericTicks snapshot regulatory
  | cancelMarketData id => Message.cancelMarketData id
  | marketDepth id c rows smart => reqMarketDepth id c rows smart
  | cancelMarketDepth id smart => Message.cancelMarketDepth id smart
  | marketDataType kind => reqMarketDataType kind

def fields : Asked → List Field
  | startApi clientId capabilities => [.int 71, .int 2, .int clientId, .text capabilities]
  | currentTime => [.int 49, .int 1]
  | managedAccounts => [.int 17, .int 1]
  | ids count => [.int 8, .int 1, .int count]
  | contractDetails id c =>
    [.int 9, .int 8, .int id] ++ contractFields c ++ [.flag c.includeExpired, .text "", .text ""]
  | historicalData id c query _ =>
    [.int 20, .int id] ++ contractFields c ++
      [.flag c.includeExpired, finishField query.finish, .text query.barSize, .text query.duration,
        .flag query.regularHours, .text query.whatToShow, .int 2, .flag false, .text ""]
  | cancelHistoricalData id => [.int 25, .int 1, .int id]
  | marketData id c genericTicks snapshot regulatory =>
    [.int 1, .int 11, .int id] ++ contractFields c ++
      [.flag false, .text genericTicks, .flag snapshot, .flag regulatory, .text ""]
  | cancelMarketData id => [.int 2, .int 2, .int id]
  | marketDepth id c rows smart =>
    [.int 10, .int 5, .int id] ++ contractFields c ++ [.int rows, .flag smart, .text ""]
  | cancelMarketDepth id smart => [.int 11, .int 1, .int id, .flag smart]
  | marketDataType kind => [.int 59, .int 1, .int kind]

def tokens (a : Asked) : List String := a.fields.map Field.written

/-- The bytes that the fields take up, a zero behind each. -/
def size (a : Asked) : Nat := (a.tokens.map fun s => s.utf8ByteSize + 1).sum

def texts : Asked → List String
  | startApi _ capabilities => [capabilities]
  | contractDetails _ c => contractTexts c
  | historicalData _ c query _ =>
    contractTexts c ++ [query.barSize, query.duration, query.whatToShow]
  | marketData _ c genericTicks _ _ => contractTexts c ++ [genericTicks]
  | marketDepth _ c _ _ => contractTexts c
  | _ => []

/-- Two requests are alike in all that has a field, times to their second. -/
inductive Same : Asked → Asked → Prop where
  | refl (a : Asked) : Same a a
  | contractDetails (id : Int) {c d : Contract} (contract : SameFields c d)
      (expired : c.includeExpired = d.includeExpired) :
      Same (contractDetails id c) (contractDetails id d)
  | historicalData (id : Int) {c d : Contract} {query other : BarQuery}
      {dated : ∀ time ∈ query.finish, time.Exists} {alsoDated : ∀ time ∈ other.finish, time.Exists}
      (contract : SameFields c d) (expired : c.includeExpired = d.includeExpired)
      (window : { query with finish := query.finish.map Instant.second } =
        { other with finish := other.finish.map Instant.second }) :
      Same (historicalData id c query dated) (historicalData id d other alsoDated)
  | marketData (id : Int) {c d : Contract} (genericTicks : String) (snapshot regulatory : Bool)
      (contract : SameFields c d) :
      Same (marketData id c genericTicks snapshot regulatory)
        (marketData id d genericTicks snapshot regulatory)
  | marketDepth (id : Int) {c d : Contract} (rows : Int) (smart : Bool)
    (contract : SameFields c d) :
      Same (marketDepth id c rows smart) (marketDepth id d rows smart)

end Asked

theorem real_eq (w : Writer) (x : Float) : w.real x = w.text (realField x) := by
  unfold Writer.real realField
  split <;> rfl

theorem writeContract_eq (w : Writer) (c : Contract) :
    writeContract w c = w.texts ((contractFields c).map Field.written) := by
  unfold writeContract
  rw [real_eq]
  rfl

theorem writeFinish_eq (w : Writer) (finish : Option Instant) :
    writeFinish w finish = w.text (finishField finish).written := by
  cases finish <;> rfl

theorem Asked.encode_eq (a : Asked) : a.encode = (Writer.empty.texts a.tokens).finish := by
  cases a with
  | contractDetails id c =>
    dsimp only [encode, reqContractDetails]
    rw [writeContract_eq]
    rfl
  | historicalData id c query dated =>
    dsimp only [encode, reqHistoricalData]
    rw [writeFinish_eq, writeContract_eq]
    rfl
  | marketData id c genericTicks snapshot regulatory =>
    dsimp only [encode, reqMarketData]
    rw [writeContract_eq]
    rfl
  | marketDepth id c rows smart =>
    dsimp only [encode, reqMarketDepth]
    rw [writeContract_eq]
    rfl
  | _ => rfl

theorem clean_realField (x : Float) : Clean (realField x) := by
  unfold realField
  split
  · cases isNegative x <;> decide
  · exact (plain_realText x).clean

theorem clean_finishField (finish : Option Instant) : Clean (finishField finish).written := by
  cases finish with
  | none => exact List.not_mem_nil
  | some time => exact Field.clean_time time

theorem clean_contractFields_iff {c : Contract} :
    (∀ s ∈ (contractFields c).map Field.written, Clean s) ↔ ∀ s ∈ contractTexts c, Clean s := by
  simp only [contractFields, contractTexts, List.map_cons, List.map_nil, List.forall_mem_cons,
    Field.clean_text_iff, Field.clean_int, clean_realField, true_and]

theorem Asked.clean_tokens_iff {a : Asked} :
    (∀ s ∈ a.tokens, Clean s) ↔ ∀ s ∈ a.texts, Clean s := by
  have nothing : Clean "" := List.not_mem_nil
  cases a <;>
    simp only [tokens, fields, texts, List.map_append, List.forall_mem_append,
      clean_contractFields_iff, List.map_cons, List.map_nil, List.forall_mem_cons,
      Field.clean_text_iff, Field.clean_int,
      Field.clean_flag, clean_finishField, nothing, true_and, List.not_mem_nil, false_implies,
      implies_true, and_true]

def Asked.kind : Asked → Outgoing
  | startApi .. => .startApi
  | currentTime => .reqCurrentTime
  | managedAccounts => .reqManagedAccounts
  | ids _ => .reqIds
  | contractDetails .. => .reqContractData
  | historicalData .. => .reqHistoricalData
  | cancelHistoricalData _ => .cancelHistoricalData
  | marketData .. => .reqMarketData
  | cancelMarketData _ => .cancelMarketData
  | marketDepth .. => .reqMarketDepth
  | cancelMarketDepth .. => .cancelMarketDepth
  | marketDataType _ => .reqMarketDataType

theorem code_injective {m n : Outgoing} (same : m.code = n.code) : m = n := by
  have found : ∀ m : Outgoing, Outgoing.all.find? (·.code == m.code) = some m := by
    intro m
    cases m <;> rfl
  have other := found n
  rw [← same, found m] at other
  exact Option.some.inj other

theorem Asked.kind_of_tokens {a b : Asked} (same : a.tokens = b.tokens) : a.kind = b.kind := by
  have front : ∀ a : Asked, a.tokens.head? = some (wholeText a.kind.code) := by
    intro a
    cases a <;> rfl
  have code := front a
  rw [same, front b] at code
  exact (code_injective (wholeText_injective (Option.some.inj code))).symm

theorem int_injective {m n : Int} (same : (Field.int m).written = (Field.int n).written) : m = n :=
  wholeText_injective same

theorem flag_injective {b c : Bool} (same : (Field.flag b).written = (Field.flag c).written) :
    b = c := by
  cases b <;> cases c <;> first | rfl | exact absurd same (by decide)

/-- Times tell their second, and no time is taken for the present. -/
theorem finishField_injective {first second : Option Instant} (dated : ∀ time ∈ first, time.Exists)
    (alsoDated : ∀ time ∈ second, time.Exists)
    (same : (finishField first).written = (finishField second).written) :
    first.map Instant.second = second.map Instant.second := by
  cases first with
  | none =>
    cases second with
    | none => rfl
    | some time => exact absurd same.symm (stamp_ne_empty time)
  | some time =>
    cases second with
    | none => exact absurd same (stamp_ne_empty time)
    | some other =>
      exact congrArg some (stamp_injective (dated time rfl) (alsoDated other rfl) same)

theorem sameFields_of_written {c d : Contract} {rest more : List String}
    (same : (contractFields c).map Field.written ++ rest =
      (contractFields d).map Field.written ++ more) :
    SameFields c d ∧ rest = more := by
  obtain ⟨contract, behind⟩ := List.append_inj same rfl
  simp only [contractFields, List.map_cons, List.map_nil, List.cons.injEq] at contract
  obtain ⟨id, symbol, securityType, lastTradeDate, strike, right, multiplier, exchange,
    primaryExchange, currency, localSymbol, tradingClass, -⟩ := contract
  refine ⟨⟨?_, strike⟩, behind⟩
  rw [Contract.mk.injEq]
  exact ⟨int_injective id, symbol, securityType, lastTradeDate, rfl, right, multiplier, exchange,
    primaryExchange, currency, localSymbol, tradingClass, rfl⟩

theorem Asked.same_of_tokens {a b : Asked} (same : a.tokens = b.tokens) : a.Same b := by
  have kind := kind_of_tokens same
  cases a with
  | startApi clientId capabilities =>
    cases b with
    | startApi otherId others =>
      simp only [tokens, fields, List.map_cons, List.map_nil, List.cons.injEq] at same
      obtain ⟨-, -, id, words, -⟩ := same
      have text : capabilities = others := words
      rw [int_injective id, text]
      exact .refl _
    | _ => cases kind
  | currentTime =>
    cases b with
    | currentTime => exact .refl _
    | _ => cases kind
  | managedAccounts =>
    cases b with
    | managedAccounts => exact .refl _
    | _ => cases kind
  | ids count =>
    cases b with
    | ids other =>
      simp only [tokens, fields, List.map_cons, List.map_nil, List.cons.injEq] at same
      rw [int_injective same.2.2.1]
      exact .refl _
    | _ => cases kind
  | contractDetails id c =>
    cases b with
    | contractDetails otherId d =>
      simp only [tokens, fields, List.map_append, List.map_cons, List.map_nil, List.cons_append,
        List.nil_append, List.cons.injEq] at same
      obtain ⟨-, -, number, block⟩ := same
      obtain ⟨contract, behind⟩ := sameFields_of_written block
      simp only [List.cons.injEq] at behind
      rw [int_injective number]
      exact .contractDetails otherId contract (flag_injective behind.1)
    | _ => cases kind
  | historicalData id c query dated =>
    cases b with
    | historicalData otherId d other alsoDated =>
      simp only [tokens, fields, List.map_append, List.map_cons, List.map_nil, List.cons_append,
        List.nil_append, List.cons.injEq] at same
      obtain ⟨-, number, block⟩ := same
      obtain ⟨contract, behind⟩ := sameFields_of_written block
      simp only [List.cons.injEq] at behind
      obtain ⟨expired, finish, barSize, duration, regularHours, whatToShow, -⟩ := behind
      have window : { query with finish := query.finish.map Instant.second } =
          { other with finish := other.finish.map Instant.second } := by
        rw [BarQuery.mk.injEq]
        exact ⟨finishField_injective dated alsoDated finish, duration, barSize, whatToShow,
          flag_injective regularHours⟩
      obtain rfl := int_injective number
      exact .historicalData id contract (flag_injective expired) window
    | _ => cases kind
  | cancelHistoricalData id =>
    cases b with
    | cancelHistoricalData other =>
      simp only [tokens, fields, List.map_cons, List.map_nil, List.cons.injEq] at same
      rw [int_injective same.2.2.1]
      exact .refl _
    | _ => cases kind
  | marketData id c genericTicks snapshot regulatory =>
    cases b with
    | marketData otherId d otherTicks otherSnapshot otherRegulatory =>
      simp only [tokens, fields, List.map_append, List.map_cons, List.map_nil, List.cons_append,
        List.nil_append, List.cons.injEq] at same
      obtain ⟨-, -, number, block⟩ := same
      obtain ⟨contract, behind⟩ := sameFields_of_written block
      simp only [List.cons.injEq] at behind
      obtain ⟨-, ticks, first, second, -⟩ := behind
      have text : genericTicks = otherTicks := ticks
      rw [int_injective number, text, flag_injective first, flag_injective second]
      exact .marketData _ _ _ _ contract
    | _ => cases kind
  | cancelMarketData id =>
    cases b with
    | cancelMarketData other =>
      simp only [tokens, fields, List.map_cons, List.map_nil, List.cons.injEq] at same
      rw [int_injective same.2.2.1]
      exact .refl _
    | _ => cases kind
  | marketDepth id c rows smart =>
    cases b with
    | marketDepth otherId d otherRows otherSmart =>
      simp only [tokens, fields, List.map_append, List.map_cons, List.map_nil, List.cons_append,
        List.nil_append, List.cons.injEq] at same
      obtain ⟨-, -, number, block⟩ := same
      obtain ⟨contract, behind⟩ := sameFields_of_written block
      simp only [List.cons.injEq] at behind
      obtain ⟨count, flag, -⟩ := behind
      rw [int_injective number, int_injective count, flag_injective flag]
      exact .marketDepth _ _ _ contract
    | _ => cases kind
  | cancelMarketDepth id smart =>
    cases b with
    | cancelMarketDepth otherId otherSmart =>
      simp only [tokens, fields, List.map_cons, List.map_nil, List.cons.injEq] at same
      obtain ⟨-, -, number, flag, -⟩ := same
      rw [int_injective number, flag_injective flag]
      exact .refl _
    | _ => cases kind
  | marketDataType choice =>
    cases b with
    | marketDataType other =>
      simp only [tokens, fields, List.map_cons, List.map_nil, List.cons.injEq] at same
      rw [int_injective same.2.2.1]
      exact .refl _
    | _ => cases kind

theorem Asked.tokens_ne_nil (a : Asked) : a.tokens ≠ [] := by
  cases a <;> exact List.cons_ne_nil _ _

theorem Asked.encode_cases (a : Asked) :
    a.encode =
      if ∀ s ∈ a.texts, Clean s then
        if frameLimit < a.size then .error (.frameTooLarge a.size)
        else .ok (header a.size ++ joined a.tokens)
      else .error .embeddedNul := by
  have size : (joined a.tokens).length = a.size := length_joined
  rw [encode_eq, Writer.finish_texts a.tokens_ne_nil, size]
  simp only [clean_tokens_iff]

theorem Asked.encode_eq_ok_iff {a : Asked} {frame : Bytes} :
    a.encode = .ok frame ↔
      (∀ s ∈ a.tokens, Clean s) ∧ a.size ≤ frameLimit ∧
      frame = header a.size ++ joined a.tokens := by
  rw [encode_cases, clean_tokens_iff]
  by_cases clean : ∀ s ∈ a.texts, Clean s
  · rw [if_pos clean]
    by_cases large : frameLimit < a.size
    · rw [if_pos large]
      exact ⟨nofun, fun ⟨_, small, _⟩ => absurd large (Nat.not_lt.mpr small)⟩
    · rw [if_neg large, Except.ok.injEq]
      exact ⟨fun same => ⟨clean, Nat.not_lt.mp large, same.symm⟩, fun ⟨_, _, same⟩ => same.symm⟩
  · rw [if_neg clean]
    exact ⟨nofun, fun ⟨accepted, _⟩ => absurd accepted clean⟩

theorem Asked.fields_of_encode {a : Asked} {frame : Bytes} (written : a.encode = .ok frame) :
    ∃ payload, splitFrame frame = .ok (some (payload, [])) ∧
    fieldsOf payload = a.tokens.map toBytes := by
  obtain ⟨clean, small, rfl⟩ := encode_eq_ok_iff.mp written
  have size : (joined a.tokens).length = a.size := length_joined
  have cut := splitFrame_joined a.tokens_ne_nil (size.trans_le small)
  rw [size] at cut
  exact ⟨_, cut, fieldsOf_joined clean⟩

/-- A request with a zero in a text argument is refused for it; one that takes up more bytes than a
frame holds is refused with their number; and any other is one frame, cut to a single payload, whose
fields are those of the request in their order. Two requests with the same frame are the same
request, of the same function with the same arguments, so far as these are sent. -/
theorem requests_framed (a : Asked) :
    ((∃ s ∈ a.texts, ¬Clean s) → a.encode = .error .embeddedNul) ∧
    ((∀ s ∈ a.texts, Clean s) → frameLimit < a.size → a.encode = .error (.frameTooLarge a.size)) ∧
    ((∀ s ∈ a.texts, Clean s) → a.size ≤ frameLimit → ∃ frame payload, a.encode = .ok frame ∧
      splitFrame frame = .ok (some (payload, [])) ∧ payload = joined a.tokens ∧
      fieldsOf payload = a.tokens.map toBytes) ∧
    ∀ b frame, a.encode = .ok frame → b.encode = .ok frame → a.Same b := by
  refine ⟨?_, ?_, ?_, ?_⟩
  · rintro ⟨s, member, unclean⟩
    rw [Asked.encode_cases, if_neg fun clean => unclean (clean s member)]
  · intro clean large
    rw [Asked.encode_cases, if_pos clean, if_pos large]
  · intro clean small
    have whole := Asked.clean_tokens_iff.mpr clean
    have size : (joined a.tokens).length = a.size := length_joined
    have cut := splitFrame_joined a.tokens_ne_nil (size.trans_le small)
    rw [size] at cut
    exact ⟨_, _, Asked.encode_eq_ok_iff.mpr ⟨whole, small, rfl⟩, cut, rfl, fieldsOf_joined whole⟩
  · intro b frame first second
    obtain ⟨clean, -, same⟩ := Asked.encode_eq_ok_iff.mp first
    obtain ⟨alsoClean, -, other⟩ := Asked.encode_eq_ok_iff.mp second
    obtain ⟨-, payloads⟩ := List.append_inj (same.symm.trans other) rfl
    exact Asked.same_of_tokens (joined_injective clean alsoClean payloads)

/-- An empty text has a field of its own, and a zero alone spoils the request. -/
theorem startApi_framed :
    (Asked.startApi 7 "\x00").encode = .error .embeddedNul ∧
    ∃ frame payload, (Asked.startApi 7 "").encode = .ok frame ∧
      splitFrame frame = .ok (some (payload, [])) ∧
      fieldsOf payload = ["71", "2", "7", ""].map toBytes := by
  obtain ⟨spoiled, -⟩ := requests_framed (.startApi 7 "\x00")
  obtain ⟨-, -, framed, -⟩ := requests_framed (.startApi 7 "")
  obtain ⟨frame, payload, finished, cut, -, fields⟩ := framed (by decide) (by decide)
  exact ⟨spoiled ⟨"\x00", by decide, by decide⟩, frame, payload, finished, cut, fields⟩

end MarketLink.Message
