import OsiStack.Octets
import Mathlib.Logic.Function.Basic

/- The structures of stack.h, ethernet.h, ip.h and tcp.h. A frame buffer is one
   memory; frame_fields, ip_header and tcp are views of it at octets 0, 14 and
   34, so a write through one view is seen through the others. Multi-octet fields
   are loaded in host order (little-endian), as the compiled accesses are. -/
set_option autoImplicit false

namespace OsiStack

open Octets

abbrev MacAddr := OctetString 6
abbrev IpAddr := OctetString 4

abbrev macOctets (a b c d e f : UInt8) : MacAddr := ⟨[a, b, c, d, e, f], rfl⟩
abbrev ipOctets (a b c d : UInt8) : IpAddr := ⟨[a, b, c, d], rfl⟩

def hostTcpPort : UInt16 := 1234
def tcpIp : IpAddr := ipOctets 0xC0 0xA8 0x00 0x05
def tcpMac : MacAddr := macOctets 0x12 0x9f 0x41 0x0d 0x0e 0x64
abbrev tcpConnectionLimit : Nat := 10

namespace FrameFields
abbrev destAddr (m : Memory) : MacAddr := loadOctets m 0 6
abbrev srcAddr (m : Memory) : MacAddr := loadOctets m 6 6
abbrev type (m : Memory) : UInt16 := load16 m 12
abbrev setDestAddr (m : Memory) (v : MacAddr) : Memory := storeOctets m 0 v
abbrev setSrcAddr (m : Memory) (v : MacAddr) : Memory := storeOctets m 6 v
abbrev setType (m : Memory) (v : UInt16) : Memory := store16 m 12 v
end FrameFields

namespace IpHeader
abbrev versionIhl (m : Memory) : UInt8 := m 14
abbrev totalLength (m : Memory) : UInt16 := load16 m 16
abbrev ttl (m : Memory) : UInt8 := m 22
abbrev protocol (m : Memory) : UInt8 := m 23
abbrev srcAddr (m : Memory) : IpAddr := loadOctets m 26 4
abbrev destAddr (m : Memory) : IpAddr := loadOctets m 30 4
abbrev setVersionIhl (m : Memory) (v : UInt8) : Memory := store m 14 [v]
abbrev setTypeOfService (m : Memory) (v : UInt8) : Memory := store m 15 [v]
abbrev setTotalLength (m : Memory) (v : UInt16) : Memory := store16 m 16 v
abbrev setIdentification (m : Memory) (v : UInt16) : Memory := store16 m 18 v
abbrev setFlagFragmentOffset (m : Memory) (v : UInt16) : Memory := store16 m 20 v
abbrev setTtl (m : Memory) (v : UInt8) : Memory := store m 22 [v]
abbrev setProtocol (m : Memory) (v : UInt8) : Memory := store m 23 [v]
abbrev setHeaderChecksum (m : Memory) (v : UInt16) : Memory := store16 m 24 v
abbrev setSrcAddr (m : Memory) (v : IpAddr) : Memory := storeOctets m 26 v
abbrev setDestAddr (m : Memory) (v : IpAddr) : Memory := storeOctets m 30 v
end IpHeader

namespace Tcp
abbrev srcPort (m : Memory) : UInt16 := load16 m 34
abbrev destPort (m : Memory) : UInt16 := load16 m 36
abbrev seqNumber (m : Memory) : UInt32 := load32 m 38
abbrev ackNumber (m : Memory) : UInt32 := load32 m 42
abbrev flag (m : Memory) : UInt16 := load16 m 46
abbrev setSrcPort (m : Memory) (v : UInt16) : Memory := store16 m 34 v
abbrev setDestPort (m : Memory) (v : UInt16) : Memory := store16 m 36 v
abbrev setSeqNumber (m : Memory) (v : UInt32) : Memory := store32 m 38 v
abbrev setAckNumber (m : Memory) (v : UInt32) : Memory := store32 m 42 v
abbrev setFlag (m : Memory) (v : UInt16) : Memory := store16 m 46 v
abbrev setWindow (m : Memory) (v : UInt16) : Memory := store16 m 48 v
abbrev setChecksum (m : Memory) (v : UInt16) : Memory := store16 m 50 v
abbrev setUrgentPointer (m : Memory) (v : UInt16) : Memory := store16 m 52 v
end Tcp

structure Interface where
  macAddr : MacAddr
  ipAddr : IpAddr
deriving DecidableEq

structure TableR where
  dest : IpAddr
  gateway : IpAddr
  genmask : IpAddr
  interfaceId : Nat
deriving DecidableEq

structure ArpCache where
  ipAddr : IpAddr
  macAddr : MacAddr
deriving DecidableEq

-- The three tables that main fills in. They have three rows each in stack.h;
-- here any number.
structure Network where
  routingTable : List TableR
  arpCache : List ArpCache
  interfaceList : List Interface

structure Config extends Network where
  tcpIpLocal : ∃ iface ∈ interfaceList, iface.ipAddr = tcpIp

instance : Coe Config Network := ⟨Config.toNetwork⟩

theorem tcp_ip_alone : ∃ iface ∈ [Interface.mk tcpMac tcpIp], iface.ipAddr = tcpIp :=
  ⟨_, List.mem_singleton.mpr rfl, rfl⟩

-- ip_str only repeats host_ip_addr for printing and fin_ack is never used.
structure TcpConnection where
  io : Int
  hostIpAddr : IpAddr
  hostMac : MacAddr
  port : UInt16
  nextSeq : UInt32
  currSeq : UInt32
  connectionStatus : Int
deriving DecidableEq

abbrev Table := Fin tcpConnectionLimit → TcpConnection

def zeroConnection : TcpConnection where
  io := 0
  hostIpAddr := ipOctets 0 0 0 0
  hostMac := macOctets 0 0 0 0 0 0
  port := 0
  nextSeq := 0
  currSeq := 0
  connectionStatus := 0

def zeroTable : Table := fun _ => zeroConnection

-- What send_ethernet_frame writes to the switch of one interface. Its length
-- parameter is a uint16_t.
structure Sent where
  interface : Nat
  frame : List UInt8
deriving DecidableEq

def sendEthernetFrame (interface : Nat) (frame : Memory) (len : Nat) : Sent := ⟨interface, fetch frame 0 (len % 65536)⟩

end OsiStack
