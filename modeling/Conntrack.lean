import Conntrack.Host.Directory
import Conntrack.Main
import Conntrack.Wire.Cursor
import Conntrack.Wire.Outline
import Conntrack.Proofs.AttrRoundTrip
import Conntrack.Proofs.Delivery
import Conntrack.Proofs.Isolation
import Conntrack.Proofs.RecordFields
import Conntrack.Proofs.SentDatagram
import Conntrack.Proofs.TimeoutRequest
import Conntrack.Proofs.CursorReads
import Conntrack.Proofs.TreeReadBack
import Conntrack.Proofs.OpenSocket
import Conntrack.Proofs.BatchHistory
import Conntrack.Proofs.MonitorRun
import Conntrack.Proofs.Interrupts
import Conntrack.Proofs.SilentMessages
import Conntrack.Proofs.UpdateOutcome
import Conntrack.Proofs.OnePass
import Conntrack.Proofs.PartIndependence
import Conntrack.Proofs.Bounded.Place
import Conntrack.Proofs.Bounded.Attributes
import Conntrack.Proofs.Bounded.Records
import Conntrack.Proofs.Bounded.Walk
import Conntrack.Proofs.RecordAcceptance
import Conntrack.Proofs.SocketLifeCycle
import Conntrack.Proofs.PrintedArguments
import Conntrack.Proofs.RefusedInput
import Conntrack.Proofs.DeclaredBytes
import Conntrack.Proofs.FrameChain
import Conntrack.Proofs.FrameFaults
import Conntrack.Proofs.ScanPositions
import Conntrack.Proofs.EntryShape
import Conntrack.Proofs.TrailingBytes
import Conntrack.Proofs.Repacking
import Conntrack.Proofs.ExactPacking
import Conntrack.Proofs.JsonLexing
import Conntrack.Proofs.JsonReadBack
import Conntrack.Proofs.LineBuffer
import Conntrack.Proofs.PlainJson
import Conntrack.Proofs.EventLines
import Conntrack.Proofs.HeaderCodecs
import Conntrack.Proofs.GroupMask
import Conntrack.Proofs.MonitorSubscription
import Conntrack.Proofs.JsonGrammar
import Conntrack.Proofs.JsonSpelling
import Conntrack.Proofs.ConfigDocuments
import Conntrack.Proofs.CursorStacks
import Conntrack.Proofs.Bounded.Stack
