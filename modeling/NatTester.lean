import NatTester.Guarantees.HashTable
import NatTester.Guarantees.HashTableIndex
import NatTester.Guarantees.Polling
import NatTester.Guarantees.PollEvents
import NatTester.Guarantees.ByteStream
import NatTester.Guarantees.ReaderGrammar
import NatTester.Guarantees.AccessorReads
import NatTester.Guarantees.AddressValue
import NatTester.Guarantees.RoundTrip
import NatTester.Guarantees.AddAttribute
import NatTester.Guarantees.UnknownAttributes
import NatTester.Guarantees.TransactionId
import NatTester.Guarantees.Integrity
import NatTester.Guarantees.IntegrityPrefix
import NatTester.Guarantees.Fingerprint
import NatTester.Guarantees.RequestHandler
import NatTester.Guarantees.Authorisation
import NatTester.Guarantees.ResponseRoute
import NatTester.Guarantees.ClientResults
import NatTester.Guarantees.Filtering
import NatTester.Guarantees.OwnRequest
import NatTester.Guarantees.Probes
import NatTester.Guarantees.SendLoop
import NatTester.Guarantees.Report
import NatTester.Guarantees.Mapping
import NatTester.Guarantees.TcpResponse
import NatTester.Guarantees.TcpTimer
import NatTester.Guarantees.SingleTest
import NatTester.Guarantees.BufferSize
import NatTester.Guarantees.ClientOptions
import NatTester.Guarantees.NumberString
import NatTester.Guarantees.TrimmedText
import NatTester.Guarantees.PollingSetup
import NatTester.Guarantees.TestSummary
import NatTester.Guarantees.SavedReport
import NatTester.Guarantees.ExactDuration
import NatTester.Guarantees.ApproximateDuration
import NatTester.Guarantees.WrappedText
import NatTester.Guarantees.PositiveWidth
import NatTester.Guarantees.TableWidth
import NatTester.Guarantees.UdpLoop
import NatTester.Guarantees.SocketOwnership
import NatTester.Guarantees.LoopDescriptors
import NatTester.Guarantees.PointerOwnership
import NatTester.Guarantees.EpollEvents
import NatTester.Guarantees.PollingBackends
import NatTester.Guarantees.NatReport
import NatTester.Guarantees.NatVerdicts
import NatTester.Guarantees.CommandLine
import NatTester.Guarantees.TestCommand
import NatTester.Guarantees.TestReport
import NatTester.Guarantees.AdapterMemory
