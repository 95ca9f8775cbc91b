import NodeBus.EventLoop.Clients
import NodeBus.Main
import NodeBus.Proofs.CommandFrame
import NodeBus.Proofs.Deframing
import NodeBus.Proofs.FrameRoundTrip
import NodeBus.Proofs.ExchangeEnding
import NodeBus.Proofs.ExchangeClassification
import NodeBus.Proofs.Attempts
import NodeBus.Proofs.ReceiveBound
import NodeBus.Proofs.Session
import NodeBus.Proofs.Attribution
import NodeBus.Proofs.Requests
import NodeBus.Proofs.InterruptFrames
import NodeBus.Proofs.Retries
import NodeBus.Proofs.NodeCapabilities
import NodeBus.Proofs.ConformingNetwork
import NodeBus.Proofs.InterruptDelivery
import NodeBus.Proofs.Envelopes
import NodeBus.Proofs.StatisticsConservation
import NodeBus.Proofs.CommandConnections
import NodeBus.Proofs.Subscriptions
import NodeBus.Proofs.MonitorCalls
import NodeBus.Proofs.MonitorStreams
import NodeBus.Proofs.Scanning
import NodeBus.Proofs.InterruptRecognition
import NodeBus.Proofs.InterruptServicing
import NodeBus.Proofs.DeframingGrammar
import NodeBus.Proofs.DecodersAgree
import NodeBus.Proofs.LongDivision
import NodeBus.Proofs.ErrorDetection
import NodeBus.Proofs.HexDigits
import NodeBus.Proofs.LineGrammar
import NodeBus.Proofs.LineEffects
import NodeBus.Proofs.ReplyReading
import NodeBus.Proofs.RawExchange
import NodeBus.Proofs.BoundedStuffing
import NodeBus.Proofs.ServedConfiguration
import NodeBus.Proofs.StartUpFailures
import NodeBus.Proofs.ControlRequests
import NodeBus.Proofs.WatchHistories
