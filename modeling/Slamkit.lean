import Slamkit.Library.Program
import Slamkit.Library.Bytes
import Slamkit.Library.Packed
import Slamkit.Library.Ledger
import Slamkit.Library.Register
import Slamkit.Library.ShiftRegister
import Slamkit.Protocol
import Slamkit.Driver
import Slamkit.Framing
import Slamkit.Exchange
import Slamkit.Tcp
import Slamkit.Reconnect
import Slamkit.Replies
import Slamkit.Session
import Slamkit.Usb.Resources
import Slamkit.Usb.Discipline
import Slamkit.Device
import Slamkit.SharedDriver
import Slamkit.Disconnect
import Slamkit.Usb.Channel
import Slamkit.Usb.Agreement
import Slamkit.Node
import Slamkit.Crc
import Slamkit.CrcDetection
import Slamkit.CrcResult
import Slamkit.Library.Run
import Slamkit.Usb.Buffer
import Slamkit.Usb.Pipeline
import Slamkit.SerialStream
import Slamkit.Library.Fifo
import Slamkit.WriteContract
import Slamkit.Library.History
import Slamkit.Usb.Reads
import Slamkit.FreshReadings
import Slamkit.Event
import Slamkit.SerialSend
import Slamkit.UdpRead
import Slamkit.SerialWait
import Slamkit.SerialSilence
import Slamkit.SerialPause
import Slamkit.SocketAddress
import Slamkit.NetworkAddress
import Slamkit.Library.LastWrite
import Slamkit.AddressCalls
import Slamkit.AddressRuns
import Slamkit.HostLookup
import Slamkit.Library.Handles
import Slamkit.SerialDescriptors
import Slamkit.Library.Trace
import Slamkit.Library.Sections
import Slamkit.Library.Fairness
import Slamkit.DriverSections
import Slamkit.SessionTrace
import Slamkit.SerialChannel
import Slamkit.SerialTracking
import Slamkit.SerialSessions
import Slamkit.SerialReconnect
import Slamkit.SerialRequests
import Slamkit.SingleWaiter
import Slamkit.Usb.Writes
import Slamkit.Usb.WriteStages
import Slamkit.Usb.WriteInvariant
import Slamkit.Usb.WriteResults
import Slamkit.InterleavedReplies
import Slamkit.Usb.Sessions
import Slamkit.Relay
import Slamkit.CrcResidue
import Slamkit.RequestRun
import Slamkit.TcpRequests
import Slamkit.UdpRequests
import Slamkit.FullTransfers
import Slamkit.AddressText
import Slamkit.Usb.Clients
import Slamkit.LikeLink
import Slamkit.SerialClients
