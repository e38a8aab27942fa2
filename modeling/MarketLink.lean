import MarketLink.Command.Program
import MarketLink.Correlation.Operation
import MarketLink.Main
import MarketLink.Market.Depth
import MarketLink.Session.Script
import MarketLink.Proofs.Correlation.Interleaving
import MarketLink.Proofs.Correlation.Ledger
import MarketLink.Proofs.Gate
import MarketLink.Proofs.Message.Asked
import MarketLink.Proofs.Message.Bars
import MarketLink.Proofs.Message.Told
import MarketLink.Proofs.Session.Aftermath
import MarketLink.Proofs.Session.Answers
import MarketLink.Proofs.Session.Beginning
import MarketLink.Proofs.Session.Causes
import MarketLink.Proofs.Session.Closed
import MarketLink.Proofs.Session.DepthStream
import MarketLink.Proofs.Session.FirstId
import MarketLink.Proofs.Session.Flushed
import MarketLink.Proofs.Session.Isolation
import MarketLink.Proofs.Session.Loss
import MarketLink.Proofs.Session.OneShot
import MarketLink.Proofs.Session.Refusal
import MarketLink.Proofs.Session.Overtaking
import MarketLink.Proofs.Session.Reports
import MarketLink.Proofs.Session.Rounds
import MarketLink.Proofs.Session.Connecting
import MarketLink.Proofs.Session.Handling
import MarketLink.Proofs.Session.TickDelivery
import MarketLink.Proofs.Session.TickStream
import MarketLink.Proofs.Session.WireOrder
import MarketLink.Proofs.Session.WithdrawnOnce
import MarketLink.Proofs.Settings.Accepted
import MarketLink.Proofs.Settings.Writing
import MarketLink.Proofs.Wire.Builders
import MarketLink.Proofs.Wire.Chunks
import MarketLink.Proofs.Time.Offset
import MarketLink.Proofs.Wire.Times
import MarketLink.Settings.Document
