import OsiStack.AccessLog
import OsiStack.Receiver

/- The receiving functions once more, as computations on the frame buffer that log
   every access. Without its log each is the function of the same name: a value
   read, a buffer left behind. -/
set_option autoImplicit false

namespace OsiStack

open Octets AccessLog

namespace InBuffer

namespace FrameFields
abbrev destAddr : Logged MacAddr := readOctets 0 6
abbrev srcAddr : Logged MacAddr := readOctets 6 6
abbrev type : Logged UInt16 := read16 12
abbrev setDestAddr (v : MacAddr) : Logged Unit := writeOctets 0 v
abbrev setSrcAddr (v : MacAddr) : Logged Unit := writeOctets 6 v
end FrameFields

namespace IpHeader
abbrev totalLength : Logged UInt16 := read16 16
abbrev ttl : Logged UInt8 := readOctet 22
abbrev protocol : Logged UInt8 := readOctet 23
abbrev srcAddr : Logged IpAddr := readOctets 26 4
abbrev destAddr : Logged IpAddr := readOctets 30 4
abbrev setTotalLength (v : UInt16) : Logged Unit := write16 16 v
abbrev setIdentification (v : UInt16) : Logged Unit := write16 18 v
abbrev setTtl (v : UInt8) : Logged Unit := write 22 [v]
abbrev setProtocol (v : UInt8) : Logged Unit := write 23 [v]
abbrev setSrcAddr (v : IpAddr) : Logged Unit := writeOctets 26 v
abbrev setDestAddr (v : IpAddr) : Logged Unit := writeOctets 30 v
end IpHeader

namespace Tcp
abbrev srcPort : Logged UInt16 := read16 34
abbrev destPort : Logged UInt16 := read16 36
abbrev seqNumber : Logged UInt32 := read32 38
abbrev ackNumber : Logged UInt32 := read32 42
abbrev flag : Logged UInt16 := read16 46
abbrev setSrcPort (v : UInt16) : Logged Unit := write16 34 v
abbrev setDestPort (v : UInt16) : Logged Unit := write16 36 v
abbrev setSeqNumber (v : UInt32) : Logged Unit := write32 38 v
abbrev setAckNumber (v : UInt32) : Logged Unit := write32 42 v
abbrev setFlag (v : UInt16) : Logged Unit := write16 46 v
abbrev setChecksum (v : UInt16) : Logged Unit := write16 50 v
end Tcp

namespace Arp
abbrev opcode : Logged UInt16 := read16 20
abbrev senderIp : Logged IpAddr := readOctets 28 4
abbrev targetIp : Logged IpAddr := readOctets 38 4
abbrev setOpcode (v : UInt16) : Logged Unit := write16 20 v
abbrev setSenderMac (v : MacAddr) : Logged Unit := writeOctets 22 v
abbrev setSenderIp (v : IpAddr) : Logged Unit := writeOctets 28 v
abbrev setTargetMac (v : MacAddr) : Logged Unit := writeOctets 32 v
abbrev setTargetIp (v : IpAddr) : Logged Unit := writeOctets 38 v
end Arp

-- crc32 from the start of the buffer; its third parameter is a size_t.
def crc32 (size : Int) : Logged UInt32 := do
  let bytes ← readSized size
  pure (OsiStack.crc32 0 bytes)

def frameCheckSequence (len : Nat) : Logged Unit := do
  let crc ← crc32 (len - 4 : Int)
  write32At (len - 4 : Int) crc

def sendEthernetFrame (interface len : Nat) : Logged Sent := do
  let frame ← read 0 (len % 65536)
  pure ⟨interface, frame⟩

def calculateTcpChecksum (tcpLen : UInt16) : Logged UInt16 := do
  let srcAddr ← IpHeader.srcAddr
  let destAddr ← IpHeader.destAddr
  let segment ← read 34 tcpLen.toNat
  let padding := if (12 + tcpLen.toNat) % 2 = 0 then [] else [0]
  pure (htons (ipChecksum (srcAddr.val ++ destAddr.val ++ [0, 6] ++ bytes16 (htons tcpLen) ++ segment ++ padding)))

structure TcpReturn where
  status : Int
  table : Table
  console : List UInt8
  notices : List Notice

def returned (out : TcpOutcome) : TcpReturn × Memory := (⟨out.status, out.table, out.console, out.notices⟩, out.frame)

def writeOut (dataPtr : Nat) (count : Int8) : Logged (List UInt8) := read dataPtr count.toInt.toNat

section
variable (octets : Int8) (offset : UInt8) (table : Table) (id : Fin tcpConnectionLimit)

def handleSyn (draws : List UInt32) : Logged TcpReturn := do
  let seq ← Tcp.seqNumber
  Tcp.setAckNumber (htonl (ntohl seq + 1))
  let prev ← Tcp.seqNumber
  Tcp.setSeqNumber (tcpSeqGenerator draws (ntohl prev))
  Tcp.setFlag (htons (flagWord offset 0x12))
  let srcPort ← Tcp.srcPort
  Tcp.setDestPort srcPort
  Tcp.setSrcPort (htons hostTcpPort)
  let hostIpAddr ← IpHeader.srcAddr
  let port ← Tcp.destPort
  let hostMac ← FrameFields.srcAddr
  let nextSeq ← Tcp.ackNumber
  let conn := { table id with
    hostIpAddr := hostIpAddr
    port := ntohs port
    hostMac := hostMac
    nextSeq := ntohl nextSeq
    connectionStatus := 2 }
  pure ⟨tcpReg, Function.update table id conn, [], []⟩

def acknowledge : Logged Unit := do
  let rcvdAck ← Tcp.ackNumber
  let seq ← Tcp.seqNumber
  Tcp.setAckNumber (htonl (ntohl seq + UInt32.ofInt octets.toInt))
  Tcp.setSeqNumber rcvdAck

def recordNumbers : Logged TcpConnection := do
  let next ← Tcp.ackNumber
  let curr ← Tcp.seqNumber
  pure { table id with nextSeq := ntohl next, currSeq := ntohl curr }

def handleAck (headerLen : Nat) : Logged TcpReturn :=
  if (table id).connectionStatus = 0 then pure ⟨tcpNone, table, [], []⟩
  else do
    acknowledge octets
    let conn ← recordNumbers table id
    if conn.connectionStatus = 1 then
      if 0 < octets.toInt then do
        let console ← writeOut (34 + headerLen) octets
        pure ⟨tcpReg, Function.update table id conn, console, []⟩
      else pure ⟨tcpNone, Function.update table id conn, [], []⟩
    else if conn.connectionStatus = 2 then
      pure ⟨tcpNone, Function.update table id { conn with connectionStatus := 1 }, [], []⟩
    else pure ⟨tcpNone, Function.update table id conn, [], []⟩

def handlePshAck (headerLen : Nat) : Logged TcpReturn := do
  acknowledge octets
  let conn ← recordNumbers table id
  Tcp.setFlag (htons (flagWord offset 0x10))
  let srcPort ← Tcp.srcPort
  Tcp.setDestPort srcPort
  Tcp.setSrcPort (htons hostTcpPort)
  let console ← writeOut (34 + headerLen) octets
  let totalLength ← IpHeader.totalLength
  IpHeader.setTotalLength (htons (ntohs totalLength - UInt16.ofInt octets.toInt))
  pure ⟨octets.toInt, Function.update table id conn, console, []⟩

def acknowledgeFin : Logged Unit := do
  let rcvdAck ← Tcp.ackNumber
  let seq ← Tcp.seqNumber
  Tcp.setAckNumber (htonl (ntohl seq + 1))
  Tcp.setSeqNumber rcvdAck
  Tcp.setFlag (htons (flagWord offset 0x10))
  let srcPort ← Tcp.srcPort
  Tcp.setDestPort srcPort
  Tcp.setSrcPort (htons hostTcpPort)

def handleFinAck (flag : Bool) : Logged TcpReturn :=
  if flag then do
    Tcp.setFlag (htons (flagWord offset 0x11))
    pure ⟨tcpReg, Function.update table id { table id with connectionStatus := 0 }, [], []⟩
  else do
    acknowledgeFin offset
    let conn ← recordNumbers table id
    if conn.connectionStatus = 0 then pure ⟨-2, Function.update table id conn, [], []⟩
    else pure ⟨tcpFinAck, Function.update table id conn, [], []⟩

def handleTcpPayload (draws : List UInt32) (bits : UInt8) (flag : Bool) (headerLen : Nat) : Logged TcpReturn :=
  if bits = 2 then handleSyn offset table id draws
  else if bits = 16 then handleAck octets table id headerLen
  else if bits = 24 then handlePshAck octets offset table id headerLen
  else if bits = 18 then pure ⟨-1, table, [], []⟩
  else if bits = 17 then handleFinAck offset table id flag
  else pure ⟨tcpNone, table, [], [.unsupportedFlag bits]⟩

end

def readdress (flag : Bool) : Logged Unit :=
  if flag then do
    IpHeader.setIdentification (htons 1)
    write 50 [0, 0]
  else do
    let srcAddr ← IpHeader.srcAddr
    IpHeader.setDestAddr srcAddr
    IpHeader.setSrcAddr tcpIp
    IpHeader.setTtl 64
    IpHeader.setIdentification (htons 0)
    write 50 [0, 0]

def finishTcp (status : Int) (segmentLen octets : UInt16) (flag : Bool) : Logged Unit := do
  readdress flag
  let checksum ← calculateTcpChecksum (if 1 ≤ status then segmentLen - octets else segmentLen)
  Tcp.setChecksum checksum

def refusal : Logged (Option Notice) := do
  let destAddr ← IpHeader.destAddr
  let destPort ← Tcp.destPort
  pure (if destAddr ≠ tcpIp then some .unknownAddress
    else if ntohs destPort ≠ hostTcpPort then some .unknownPort else none)

def checksumNotices (segmentLen : UInt16) : Logged (List Notice) := do
  let checksum ← calculateTcpChecksum segmentLen
  pure (if checksum ≠ 0 then [.incorrectChecksum] else [])

def controlBits : Logged UInt8 := do
  let word ← Tcp.flag
  pure (ntohs word &&& 0x3F).toUInt8

def dataOffset : Logged UInt8 := do
  let word ← Tcp.flag
  pure ((ntohs word >>> 12) &&& 0xF).toUInt8

def handleSlot (draws : List UInt32) (count : UInt16) (offset : UInt8) (table : Table) (id : Fin tcpConnectionLimit)
    (bits : UInt8) (flag : Bool) (announced : List Notice) : Logged TcpReturn := do
  let out ← handleTcpPayload count.toUInt8.toInt8 offset table id draws bits flag (offset * 4).toNat
  finishTcp out.status ((offset * 4).toUInt16 + count) count flag
  pure { out with notices := announced ++ out.notices }

def handleTcp (draws : List UInt32) (len : Nat) (table : Table) (flag : Bool) : Logged TcpReturn := do
  let bits ← (if flag then pure 17 else controlBits)
  let offset ← dataOffset
  let count := UInt16.ofNat len - 14 - 20 - (offset * 4).toUInt16
  let refused ← (if flag then pure none else refusal)
  match refused with
  | some notice => pure ⟨tcpNone, table, [], [notice]⟩
  | none => do
      let announced ← (if flag then pure [] else checksumNotices ((offset * 4).toUInt16 + count))
      let peerAddr ← (if flag then IpHeader.destAddr else IpHeader.srcAddr)
      let peerPort ← (if flag then Tcp.destPort else Tcp.srcPort)
      match tcpSlot table peerAddr (ntohs peerPort) with
      | none => pure ⟨tcpNone, table, [], announced ++ [.connectionLimit]⟩
      | some id => handleSlot draws count offset table id bits flag announced

def handleIcmp (cfg : Network) (icmp : Icmp) (transmitter : Nat) : Logged Unit := do
  let quoted ← read 14 28
  write 42 quoted
  IpHeader.setProtocol 1
  IpHeader.setTotalLength (htons 56)
  IpHeader.setTtl 64
  IpHeader.setIdentification (htons 0)
  let srcAddr ← IpHeader.srcAddr
  IpHeader.setDestAddr srcAddr
  IpHeader.setSrcAddr (interfaceAt cfg transmitter).ipAddr
  write 34 [UInt8.ofNat icmp.type, UInt8.ofNat icmp.code, 0, 0, 0, 0, 0, 0]
  let message ← read 34 36
  write16 36 (htons (ipChecksum message))
  write16 16 (htons 56)

def linkHeader (cfg : Network) (destAddr : Option MacAddr) (transmitter : Nat) (flag : Bool) : Logged Unit :=
  if flag then pure ()
  else do
    let protocol ← IpHeader.protocol
    if protocol = 6 then do
      let srcAddr ← FrameFields.srcAddr
      FrameFields.setDestAddr srcAddr
      FrameFields.setSrcAddr (interfaceAt cfg transmitter).macAddr
    else do
      FrameFields.setSrcAddr (interfaceAt cfg transmitter).macAddr
      match destAddr with
      | some mac => FrameFields.setDestAddr mac
      | none => pure ()

def sealFrame (len : Nat) (flag : Bool) : Logged Nat := do
  let ttl ← IpHeader.ttl
  IpHeader.setTtl ttl
  write 24 [0, 0]
  let header ← read 14 20
  write16 24 (htons (ipChecksum header))
  let protocol ← IpHeader.protocol
  let newLen := if protocol = 6 ∧ ¬ flag then len + 4 else len
  frameCheckSequence newLen
  pure newLen

def encapsulation (cfg : Network) (len : Nat) (destAddr : Option MacAddr) (icmp : Icmp) (error : Bool)
    (transmitter : Nat) (flag : Bool) : Logged Nat :=
  if error then do
    let srcAddr ← FrameFields.srcAddr
    FrameFields.setDestAddr srcAddr
    FrameFields.setSrcAddr (interfaceAt cfg transmitter).macAddr
    handleIcmp cfg icmp transmitter
    sealFrame 74 flag
  else do
    linkHeader cfg destAddr transmitter flag
    sealFrame len flag

structure Route where
  error : Bool
  icmp : Icmp
  transmitter : Nat
  finalDestAddr : Option MacAddr

def routed (r : Routing) : Route × Memory := (⟨r.error, r.icmp, r.transmitter, r.finalDestAddr⟩, r.frame)

def routePacket (cfg : Network) (icmp : Icmp) (receiver : Nat) : Logged Route := do
  let destAddr ← IpHeader.destAddr
  match routeLookup cfg destAddr with
  | none => pure ⟨true, ⟨3, 0⟩, receiver, none⟩
  | some i =>
      match cfg.routingTable[i]? with
      | none => pure ⟨true, ⟨3, 0⟩, receiver, none⟩
      | some row =>
          match arpLookup cfg (if row.gateway.val = [0, 0, 0, 0] then destAddr else row.gateway) with
          | none => pure ⟨true, ⟨3, 1⟩, receiver, none⟩
          | some mac => do
              let ttl ← IpHeader.ttl
              IpHeader.setTtl (ttl - 1)
              pure ⟨false, icmp, row.interfaceId, some mac⟩

-- final_dest_addr of a local packet is a pointer to src_addr; here it is read.
def packetRouting (cfg : Network) (icmp : Icmp) (receiver : Nat) : Logged Route := do
  let ttl ← IpHeader.ttl
  let destAddr ← IpHeader.destAddr
  let error := decide (ttl = 1)
  let icmp1 : Icmp := if error then ⟨11, 0⟩ else icmp
  if (isInterface cfg destAddr).isSome then do
    let srcAddr ← FrameFields.srcAddr
    pure ⟨error, icmp1, receiver, some srcAddr⟩
  else if error then pure ⟨true, icmp1, receiver, none⟩
  else routePacket cfg icmp1 receiver

def handleTcpPacket (cfg : Network) (draws : List UInt32) (len : Nat) (r : Route) (table : Table) : Logged Effects := do
  let out ← handleTcp draws len table false
  if 1 ≤ out.status then do
    let newLen ← encapsulation cfg (len - out.status.toNat) r.finalDestAddr r.icmp r.error r.transmitter false
    let sent ← sendEthernetFrame r.transmitter newLen
    pure ⟨out.table, [sent], out.console, out.notices⟩
  else do
    let newLen ← encapsulation cfg len r.finalDestAddr r.icmp r.error r.transmitter false
    if out.status = tcpReg ∨ out.status = -2 then do
      let sent ← sendEthernetFrame r.transmitter newLen
      pure ⟨out.table, [sent], out.console, out.notices⟩
    else if out.status = tcpFinAck then do
      let first ← sendEthernetFrame r.transmitter newLen
      let again ← handleTcp draws len out.table true
      let lastLen ← encapsulation cfg newLen r.finalDestAddr r.icmp r.error r.transmitter true
      let second ← sendEthernetFrame r.transmitter lastLen
      pure ⟨again.table, [first, second], out.console ++ again.console, out.notices ++ again.notices⟩
    else pure ⟨out.table, [], out.console, out.notices⟩

-- The addresses are read for printing, and the header to check its sum.
def handlePacket (cfg : Network) (draws : List UInt32) (len : Nat) (icmp : Icmp) (receiver : Nat) (table : Table) :
    Logged Effects := do
  let destAddr ← IpHeader.destAddr
  let _ ← IpHeader.srcAddr
  let totalLength ← IpHeader.totalLength
  let _ ← read 14 20
  let ttl ← IpHeader.ttl
  let protocol ← IpHeader.protocol
  if ¬ 20 < (ntohs totalLength).toNat then pure (noEffect table)
  else if ttl = 0 then pure (noEffect table)
  else if (isInterface cfg destAddr).isSome ∧ protocol ≠ 6 then pure (noEffect table)
  else do
    let r ← packetRouting cfg icmp receiver
    let now ← IpHeader.protocol
    if now = 6 then handleTcpPacket cfg draws len r table
    else do
      let newLen ← encapsulation cfg len r.finalDestAddr r.icmp r.error r.transmitter false
      let sent ← sendEthernetFrame r.transmitter newLen
      pure ⟨table, [sent], [], []⟩

def handleArp (cfg : Network) (len : Nat) : Logged (List Sent) := do
  let _ ← Arp.senderIp
  let targetIp ← Arp.targetIp
  let opcode ← Arp.opcode
  if ntohs opcode = 1 then
    match isInterface cfg targetIp with
    | none => pure []
    | some idx => do
        let srcAddr ← FrameFields.srcAddr
        FrameFields.setDestAddr srcAddr
        FrameFields.setSrcAddr (interfaceAt cfg idx).macAddr
        let destAddr ← FrameFields.destAddr
        Arp.setTargetMac destAddr
        let senderIp ← Arp.senderIp
        Arp.setTargetIp senderIp
        Arp.setSenderIp (interfaceAt cfg idx).ipAddr
        Arp.setSenderMac (interfaceAt cfg idx).macAddr
        Arp.setOpcode (htons 2)
        frameCheckSequence len
        let sent ← sendEthernetFrame idx len
        pure [sent]
  else pure []

def ethCmp (cfg : Network) : Logged (Option Nat) := do
  let destAddr ← FrameFields.destAddr
  pure (cfg.interfaceList.findIdx? fun iface => decide (iface.macAddr = destAddr))

def handleFrame (cfg : Network) (len : Nat) : Logged (FrameFlags × Option Nat) := do
  let currCheckSum ← read32At (len - 4 : Int)
  let destAddr ← FrameFields.destAddr
  let receiver ← ethCmp cfg
  let crc ← crc32 (len - 4 : Int)
  pure (⟨decide (destAddr = broadcastAddr), receiver.isSome, decide (currCheckSum = crc),
    decide (¬ (len : Int) - 14 - 4 < 46)⟩, receiver)

def receiveEthernetFrame (octets : List UInt8) : Logged Unit := write 0 octets

def binaryToHex (n : Nat) : Logged Unit := do
  let _ ← read 0 n
  pure ()

def interfaceReceiver (cfg : Network) (len : Nat) (octets : List UInt8) (icmpCode : Nat) (draws : List UInt32)
    (table : Table) : Logged Effects := do
  receiveEthernetFrame octets
  if len = 0 then pure (noEffect table)
  else do
    binaryToHex len
    let (flags, found) ← handleFrame cfg len
    if ¬ flags.validLength then pure (noEffect table)
    else do
      let type ← FrameFields.type
      let _ ← FrameFields.srcAddr
      if flags.isBroadcast then
        if ntohs type = 2054 then do
          let sent ← handleArp cfg len
          pure ⟨table, sent, [], []⟩
        else pure (noEffect table)
      else
        match found with
        | none => pure (noEffect table)
        | some receiver =>
            if ntohs type = 2048 then handlePacket cfg draws len ⟨1, icmpCode⟩ receiver table
            else pure (noEffect table)

end InBuffer

end OsiStack
