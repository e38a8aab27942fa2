import MarketLink.Message.Inbound
import MarketLink.Proofs.Number.Spelling
import MarketLink.Proofs.Text.Split
import MarketLink.Proofs.Wire.Fields

set_option autoImplicit false

namespace MarketLink.Message

open Market Number Text Time Wire
open Wire.Reading

/-- The kinds of message by the order of their fields. -/
inductive Layout where
  | handshakeReply
  | nextValidId
  | currentTime
  | managedAccounts
  | errorNotice
  | contractData
  | endMarker
  | historicalData
  | tickPrice
  | tickSize
  | tickGeneric
  | tickString
  | marketDataType
  | tickReqParams
  | marketDepth
  | marketDepthL2

/-- What a message of a kind says. -/
abbrev Layout.Value : Layout → Type
  | handshakeReply => Int × String
  | nextValidId => Int
  | currentTime => Instant
  | managedAccounts => List String
  | errorNotice => ErrorNotice
  | contractData => Int × ContractDetails
  | endMarker => Int
  | historicalData => Int × List Bar
  | tickPrice | tickSize | tickGeneric | tickString | tickReqParams => Int × Tick
  | marketDataType => Int × Int
  | marketDepth | marketDepthL2 => Int × DepthUpdate

def Layout.decode : (layout : Layout) → Reading (Except WireError layout.Value)
  | handshakeReply => Message.handshakeReply
  | nextValidId => Message.nextValidId
  | currentTime => Message.currentTime
  | managedAccounts => Message.managedAccounts
  | errorNotice => Message.errorNotice
  | contractData => Message.contractData
  | endMarker => Message.endMarker
  | historicalData => Message.historicalData
  | tickPrice => Message.tickPrice
  | tickSize => Message.tickSize
  | tickGeneric => Message.tickGeneric
  | tickString => Message.tickString
  | marketDataType => Message.marketDataType
  | tickReqParams => Message.tickReqParams
  | marketDepth => Message.marketDepth
  | marketDepthL2 => Message.marketDepthL2

def operationCode : DepthOperation → Int
  | .insert => 0
  | .update => 1
  | .delete => 2

def sideCode : Side → Int
  | .ask => 0
  | .bid => 1

def attributeMask (attributes : TickAttributes) (above : Int) : Int :=
  attributes.canAutoExecute.toInt + 2 * attributes.pastLimit.toInt + 4 * attributes.preOpen.toInt +
    8 * above

/-- A bar, with the texts of its prices. -/
structure ToldBar where
  time : Instant
  opening : Spelled
  high : Spelled
  low : Spelled
  closing : Spelled
  volume : Decimal
  average : Decimal
  count : Int

def ToldBar.fields (b : ToldBar) : List Field :=
  [.time b.time, .text b.opening.token, .text b.high.token, .text b.low.token,
    .text b.closing.token, .decimal b.volume, .decimal b.average, .int b.count]

def ToldBar.bar (b : ToldBar) : Bar :=
  { time := b.time.second, opening := b.opening.value, high := b.high.value, low := b.low.value,
    closing := b.closing.value, volume := b.volume.normalized, average := b.average.normalized,
    count := b.count }

/-- A message of a kind, with what its writer is free to choose: a version, the texts of doubles,
and fields that have no effect. Such a field may hold any number where yes or no is read, since
these are written as numbers. -/
inductive Told : Layout → Type where
  | handshakeReply (version : Int) (words : String) : Told .handshakeReply
  | nextValidId (version id : Int) : Told .nextValidId
  | currentTime (version : Int) (time : Instant) (inRange : isInRange time.secs = true) :
      Told .currentTime
  | managedAccounts (version : Int) (accounts : List String)
      (listable : ∀ account ∈ accounts, Listable account) : Told .managedAccounts
  | errorNotice (version : Int) (notice : ErrorNotice) : Told .errorNotice
  | contractData (version id : Int) (details : ContractDetails) (strike minTick : Spelled) :
      Told .contractData
  | endMarker (version id : Int) : Told .endMarker
  | historicalData (id : Int) (start ending : String) (bars : List ToldBar) : Told .historicalData
  | tickPrice (version id tickType : Int) (price : Spelled) (size : Decimal)
      (attributes : TickAttributes) (above : Int) : Told .tickPrice
  | tickSize (version id tickType : Int) (size : Decimal) : Told .tickSize
  | tickGeneric (version id tickType : Int) (value : Spelled) : Told .tickGeneric
  | tickString (version id tickType : Int) (value : String) : Told .tickString
  | marketDataType (version id kind : Int) : Told .marketDataType
  | tickReqParams (id : Int) (minTick : Spelled) (exchange : String) (snapshotPermissions : Int) :
      Told .tickReqParams
  | marketDepth (version id position : Int) (operation : DepthOperation) (side : Side)
      (price : Spelled) (size : Decimal) : Told .marketDepth
  | marketDepthL2 (version id position : Int) (marketMaker : String) (operation : DepthOperation)
      (side : Side) (price : Spelled) (size : Decimal) (smart : Int) : Told .marketDepthL2

namespace Told

variable {layout : Layout}

def fields : Told layout → List Field
  | handshakeReply version words => [.int version, .text words]
  | nextValidId version id => [.int version, .long id]
  | currentTime version time _ => [.int version, .long time.secs]
  | managedAccounts version accounts _ => [.int version, .text (",".intercalate accounts)]
  | errorNotice version notice =>
    [.int version, .int notice.id, .int notice.code, .text notice.message]
  | contractData version id details strike minTick =>
    [.int version, .int id, .text details.contract.symbol, .text details.contract.securityType,
      .text details.contract.lastTradeDate, .text strike.token, .text details.contract.right,
      .text details.contract.exchange, .text details.contract.currency,
      .text details.contract.localSymbol, .text details.marketName,
      .text details.contract.tradingClass, .int details.contract.id, .text minTick.token,
      .text details.contract.multiplier, .text details.validExchanges, .text details.longName,
      .text details.contract.primaryExchange, .text details.timeZone]
  | endMarker version id => [.int version, .int id]
  | historicalData id start ending bars =>
    .int id :: .text start :: .text ending :: .int bars.length :: bars.flatMap ToldBar.fields
  | tickPrice version id tickType price size attributes above =>
    [.int version, .int id, .int tickType, .text price.token, .decimal size,
      .int (attributeMask attributes above)]
  | tickSize version id tickType size => [.int version, .int id, .int tickType, .decimal size]
  | tickGeneric version id tickType value =>
    [.int version, .int id, .int tickType, .text value.token]
  | tickString version id tickType value => [.int version, .int id, .int tickType, .text value]
  | marketDataType version id kind => [.int version, .int id, .int kind]
  | tickReqParams id minTick exchange snapshotPermissions =>
    [.int id, .text minTick.token, .text exchange, .int snapshotPermissions]
  | marketDepth version id position operation side price size =>
    [.int version, .int id, .int position, .int (operationCode operation), .int (sideCode side),
      .text price.token, .decimal size]
  | marketDepthL2 version id position marketMaker operation side price size smart =>
    [.int version, .int id, .int position, .text marketMaker, .int (operationCode operation),
      .int (sideCode side), .text price.token, .decimal size, .int smart]

/-- What the message says: decimals in their normal form, times to the second, and of a contract
what has a field. -/
def value : Told layout → layout.Value
  | handshakeReply version words => (version, words)
  | nextValidId _ id => id
  | currentTime _ time _ => ⟨time.secs, 0⟩
  | managedAccounts _ accounts _ => accounts
  | errorNotice _ notice => notice
  | contractData _ id details strike minTick =>
    (id, { details with
      contract := { details.contract with strike := strike.value, includeExpired := false }
      minTick := minTick.value })
  | endMarker _ id => id
  | historicalData id _ _ bars => (id, bars.map ToldBar.bar)
  | tickPrice _ id tickType price size attributes _ =>
    (id, .price tickType price.value size.normalized attributes)
  | tickSize _ id tickType size => (id, .size tickType size.normalized)
  | tickGeneric _ id tickType value => (id, .generic tickType value.value)
  | tickString _ id tickType value => (id, .text tickType value)
  | marketDataType _ id kind => (id, kind)
  | tickReqParams id minTick exchange snapshotPermissions =>
    (id, .requestParameters minTick.value exchange snapshotPermissions)
  | marketDepth _ id position operation side price size =>
    (id, ⟨position, "", operation, side, price.value, size.normalized⟩)
  | marketDepthL2 _ id position marketMaker operation side price size _ =>
    (id, ⟨position, marketMaker, operation, side, price.value, size.normalized⟩)

/-- The values suit their fields; the text of a double does so in any case. -/
def Sound (m : Told layout) : Prop := ∀ f ∈ m.fields, f.Sound ∨ ∃ x : Spelled, f = .text x.token

theorem Sound.field {m : Told layout} (sound : m.Sound) : ∀ f ∈ m.fields, f.Sound := by
  intro f member
  rcases sound f member with sound | ⟨x, rfl⟩
  · exact sound
  · exact x.clean

end Told

theorem undoes_real (x : Spelled) : Undoes real [.text x.token] x.value :=
  undoes_one fun clean => takes_field clean x.reads

theorem ofMask_attributeMask (attributes : TickAttributes) (above : Int) :
    TickAttributes.ofMask (attributeMask attributes above) = attributes := by
  obtain ⟨a, b, c⟩ := attributes
  unfold TickAttributes.ofMask attributeMask testBit
  simp only [Int.shiftRight_eq_div_pow, TickAttributes.mk.injEq]
  cases a <;> cases b <;> cases c <;> simp [Bool.toInt] <;> omega

theorem undoes_bar (b : ToldBar) : Undoes bar b.fields b.bar :=
  (undoes_time _).next <| (undoes_real _).next <| (undoes_real _).next <| (undoes_real _).next <|
    (undoes_real _).next <| (undoes_decimal _).next <| (undoes_decimal _).next <|
    (undoes_int _).next <| undoes_pure _

theorem barsOnto_succ {c : Cursor} (sound : c.fault = none) (count : Nat) (done : List Bar) :
    barsOnto (count + 1) done c = barsOnto count ((bar c).1 :: done) (bar c).2 := by
  rw [barsOnto]
  dsimp only
  rw [sound, if_neg (by decide)]
  cases bar c
  rfl

/-- Bars are read one after the other, behind those that were read before. -/
theorem undoes_barsOnto (bars : List ToldBar) (done : List Bar) :
    Undoes (barsOnto bars.length done) (bars.flatMap ToldBar.fields)
      (done.reverse ++ bars.map ToldBar.bar) := by
  induction bars generalizing done with
  | nil =>
    rw [List.map_nil, List.append_nil]
    exact undoes_pure _
  | cons b bars ih =>
    intro sound more offset
    rw [List.flatMap_cons, List.forall_mem_append] at sound
    have front := undoes_bar b sound.1
    have behind := ih (b.bar :: done) sound.2 more offset
    rw [List.reverse_cons, List.append_assoc, List.singleton_append] at behind
    rw [List.length_cons, barsOnto_succ rfl, List.flatMap_cons, List.map_append, joined_append,
      List.append_assoc, front, behind, List.map_cons]

theorem undoes_barCount (count : Nat) : Undoes (barCount count) [] count := by
  unfold barCount
  rw [if_neg (Int.not_lt.mpr (Int.natCast_nonneg count))]
  exact undoes_pure _

theorem undoes_historicalData (id : Int) (start ending : String) (bars : List ToldBar) :
    Undoes historicalData
      (.int id :: .text start :: .text ending :: .int bars.length :: bars.flatMap ToldBar.fields)
      (.ok (id, bars.map ToldBar.bar)) := by
  have all : Undoes (do Reading.finish (id, ← barsOnto bars.length []))
    (bars.flatMap ToldBar.fields ++ [])
      (.ok (id, bars.map ToldBar.bar)) :=
    (undoes_barsOnto bars []).bind (undoes_finish _)
  rw [List.append_nil] at all
  exact (undoes_int _).next <| (undoes_text _).next <| (undoes_text _).next <|
    (undoes_int _).next <|
    (undoes_barCount _).bind all

theorem undoes_currentTime (version : Int) {secs : Int} (inRange : isInRange secs = true) :
    Undoes currentTime [.int version, .long secs] (.ok ⟨secs, 0⟩) := by
  have found : Instant.ofSeconds? secs = some ⟨secs, 0⟩ := if_pos inRange
  refine (undoes_int _).next <| (undoes_long _).next ?_
  rw [found]
  exact undoes_finish _

theorem undoes_managedAccounts (version : Int) {accounts : List String}
    (listable : ∀ account ∈ accounts, Listable account) :
    Undoes managedAccounts [.int version, .text (",".intercalate accounts)] (.ok accounts) := by
  refine (undoes_int _).next <| (undoes_text _).next ?_
  rw [splitList_intercalate listable]
  exact undoes_finish _

theorem undoes_resolveDepth (id position : Int) (marketMaker : String) (operation : DepthOperation)
    (side : Side) (price : Float) (size : Decimal) :
    Undoes (do return resolveDepth (← Reading.finish
        ⟨id, position, marketMaker, operationCode operation, sideCode side, price, size⟩)) []
      (.ok (id, ⟨position, marketMaker, operation, side, price, size⟩)) := by
  have resolved :
    resolveDepth (.ok ⟨id, position, marketMaker, operationCode operation, sideCode side,
      price, size⟩) = .ok (id, ⟨position, marketMaker, operation, side, price, size⟩) := by
    cases operation <;> cases side <;> rfl
  rw [← resolved]
  exact (undoes_finish _).map resolveDepth

/-- The reader of a kind takes the fields of a message of that kind for what the message says. -/
theorem Told.undoes {layout : Layout} (m : Told layout) :
    Undoes layout.decode m.fields (.ok m.value) := by
  cases m with
  | handshakeReply version words =>
    exact (undoes_int _).next <| (undoes_text _).next <| undoes_finish _
  | nextValidId version id =>
    exact (undoes_int _).next <| (undoes_long _).next <| undoes_finish _
  | currentTime version time inRange => exact undoes_currentTime version inRange
  | managedAccounts version accounts listable => exact undoes_managedAccounts version listable
  | errorNotice version notice =>
    exact (undoes_int _).next <| (undoes_int _).next <| (undoes_int _).next <|
      (undoes_text _).next <|
      undoes_finish _
  | contractData version id details strike minTick =>
    exact (undoes_int _).next <| (undoes_int _).next <| (undoes_text _).next <|
      (undoes_text _).next <|
      (undoes_text _).next <| (undoes_real _).next <| (undoes_text _).next <|
      (undoes_text _).next <|
      (undoes_text _).next <| (undoes_text _).next <| (undoes_text _).next <|
      (undoes_text _).next <|
      (undoes_int _).next <| (undoes_real _).next <| (undoes_text _).next <| (undoes_text _).next <|
      (undoes_text _).next <| (undoes_text _).next <| (undoes_text _).next <| undoes_finish _
  | endMarker version id =>
    exact (undoes_int _).next <| (undoes_int _).next <| undoes_finish _
  | historicalData id start ending bars => exact undoes_historicalData id start ending bars
  | tickPrice version id tickType price size attributes above =>
    have remarks := ofMask_attributeMask attributes above
    refine (undoes_int _).next <| (undoes_int _).next <| (undoes_int _).next <|
      (undoes_real _).next <|
      (undoes_decimal _).next <| (undoes_int _).next ?_
    rw [remarks]
    exact undoes_finish _
  | tickSize version id tickType size =>
    exact (undoes_int _).next <| (undoes_int _).next <| (undoes_int _).next <|
      (undoes_decimal _).next <| undoes_finish _
  | tickGeneric version id tickType value =>
    exact (undoes_int _).next <| (undoes_int _).next <| (undoes_int _).next <|
      (undoes_real _).next <| undoes_finish _
  | tickString version id tickType value =>
    exact (undoes_int _).next <| (undoes_int _).next <| (undoes_int _).next <|
      (undoes_text _).next <| undoes_finish _
  | marketDataType version id kind =>
    exact (undoes_int _).next <| (undoes_int _).next <| (undoes_int _).next <| undoes_finish _
  | tickReqParams id minTick exchange snapshotPermissions =>
    exact (undoes_int _).next <| (undoes_real _).next <| (undoes_text _).next <|
      (undoes_int _).next <| undoes_finish _
  | marketDepth version id position operation side price size =>
    exact (undoes_int _).next <| (undoes_int _).next <| (undoes_int _).next <|
      (undoes_int _).next <|
      (undoes_int _).next <| (undoes_real _).next <| (undoes_decimal _).next <|
      undoes_resolveDepth _ _ _ _ _ _ _
  | marketDepthL2 version id position marketMaker operation side price size smart =>
    exact (undoes_int _).next <| (undoes_int _).next <| (undoes_int _).next <|
      (undoes_text _).next <|
      (undoes_int _).next <| (undoes_int _).next <| (undoes_real _).next <|
      (undoes_decimal _).next <|
      (undoes_flag_int _).next <| undoes_resolveDepth _ _ _ _ _ _ _

theorem Told.fields_ne_nil {layout : Layout} (m : Told layout) : m.fields ≠ [] := by
  cases m <;> exact List.cons_ne_nil _ _

/-- A message of any kind is written without a fault, and is a frame of its own when it is not too
large. Its reader gives what the message says, with nothing remaining: neither the version nor the
texts of doubles nor a field without effect makes a difference. -/
theorem told_read_back {layout : Layout} (m : Told layout) (sound : m.Sound) :
    (writeAll m.fields).fault = none ∧
    ((writeAll m.fields).size ≤ frameLimit → ∃ frame, (writeAll m.fields).finish = .ok frame ∧
      splitFrame frame = .ok (some ((writeAll m.fields).payload, []))) ∧
    ∀ offset, layout.decode (Cursor.start (writeAll m.fields).payload offset) =
      (.ok m.value, { rest := [], fault := none, offset }) := by
  obtain ⟨faultless, payload⟩ := writeAll_sound sound.field
  refine ⟨faultless, finish_writeAll m.fields_ne_nil sound.field, ?_⟩
  intro offset
  have read := m.undoes sound.field [] offset
  rw [List.append_nil] at read
  rw [payload]
  exact read

/-- Two bars, the first at a leap second and with nothing for its prices, the second with a price in
the detailed form and a decimal that has zeros to lose. -/
def twoBars : Told .historicalData :=
  .historicalData 7 "" "é"
    [ { time := ⟨1483228799, 1500000000⟩
        opening := ⟨"", 0, rfl⟩
        high := ⟨"", 0, rfl⟩
        low := ⟨"", 0, rfl⟩
        closing := ⟨"", 0, rfl⟩
        volume := Decimal.zero
        average := Decimal.zero
        count := -1 },
      { time := ⟨0, 0⟩
        opening := ⟨"1.5", nearestDouble 15 (-1), rfl⟩
        high := ⟨"+Inf", infinity, rfl⟩
        low := ⟨"2e-3", nearestDouble 2 (-3), rfl⟩
        closing := ⟨"", 0, rfl⟩
        volume := ⟨false, 1500, 2, by decide, by decide⟩
        average := Decimal.zero
        count := 2147483647 } ]

theorem twoBars_read_back :
    historicalData (Cursor.start (writeAll twoBars.fields).payload 3600) =
      (.ok (7, [
        ⟨⟨1483228799, 1000000000⟩, 0, 0, 0, 0, Decimal.zero, Decimal.zero, -1⟩,
        ⟨⟨0, 0⟩, nearestDouble 15 (-1), infinity, nearestDouble 2 (-3), 0,
          ⟨false, 15, 0, by decide, by decide⟩, Decimal.zero, 2147483647⟩]),
        { rest := [], fault := none, offset := 3600 }) := by
  have sound : twoBars.Sound := by
    have each : ∀ f ∈ twoBars.fields, f.Sound := by decide
    exact fun f member => Or.inl (each f member)
  exact (told_read_back twoBars sound).2.2 3600

end MarketLink.Message
