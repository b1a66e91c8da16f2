import OsiStack.Octets
import OsiStack.OnesComplement
import OsiStack.ShiftRegister
import OsiStack.SlotTable
import OsiStack.AccessLog
import OsiStack.Runs
import OsiStack.ListSearch
import OsiStack.WrappedList
import OsiStack.NumberText
import OsiStack.Crc32
import OsiStack.Frame
import OsiStack.TcpReceive
import OsiStack.TcpChecksum
import OsiStack.InternetChecksum
import OsiStack.Pipe
import OsiStack.HexText
import OsiStack.HexTools
import OsiStack.GroupBuffer
import OsiStack.HexGrammar
import OsiStack.HexRoundTrip
import OsiStack.Packet
import OsiStack.Interaction
import OsiStack.Receiver
import OsiStack.FrameCheck
import OsiStack.ConnectionCommand
import OsiStack.Slots
import OsiStack.Reply
import OsiStack.TableEffect
import OsiStack.Answer
import OsiStack.Dispatch
import OsiStack.Forwarding
import OsiStack.Routes
import OsiStack.Sealing
import OsiStack.Router
import OsiStack.LongestPrefix
import OsiStack.IpOptions
import OsiStack.Assigned
import OsiStack.ErrorReport
import OsiStack.Transition
import OsiStack.TableInvariant
import OsiStack.Console
import OsiStack.Segment
import OsiStack.PeerSegment
import OsiStack.Established
import OsiStack.Mirror
import OsiStack.PshAck
import OsiStack.Closing
import OsiStack.Agreement
import OsiStack.TrailingOctets
import OsiStack.UserSegment
import OsiStack.UserLine
import OsiStack.Emission
import OsiStack.Gating
import OsiStack.ExpiredSegment
import OsiStack.Isolation
import OsiStack.Handshake
import OsiStack.FrameLength
import OsiStack.Arrival
import OsiStack.Inert
import OsiStack.Damage
import OsiStack.MalformedLength
import OsiStack.FrameBuffer
import OsiStack.Erasure
import OsiStack.ArpReply
import OsiStack.BufferSafety
import OsiStack.BufferBounds
import OsiStack.Chat
import OsiStack.SendSequence
import OsiStack.Stream
import OsiStack.Delivery
import OsiStack.Contention
import OsiStack.Sweep
import OsiStack.EthernetStudy
import OsiStack.Backoff
import OsiStack.BackoffRange
import OsiStack.BackoffRun
import OsiStack.BackoffEnds
import OsiStack.Verdicts
import OsiStack.Study
import OsiStack.Comparison
import OsiStack.Throughput
import OsiStack.HexAllocation
import OsiStack.ReadOctets
import OsiStack.Internet
import OsiStack.Traceroute
import OsiStack.PollLoop
import OsiStack.PeerMachines
import OsiStack.PeerService
import OsiStack.Capacity
import OsiStack.HexStream
import OsiStack.Listing
import OsiStack.Transcript
import OsiStack.Sender
