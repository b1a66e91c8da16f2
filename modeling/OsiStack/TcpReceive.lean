import OsiStack.Frame
import OsiStack.Crc32
import Mathlib.Data.Fin.Tuple.Basic

/- tcp.c, the receiving side: handle_tcp rewrites a received segment in place into
   its reply and keeps the connection table. Printed progress messages are left
   out; what handle_tcp refuses or complains about is a notice. -/
set_option autoImplicit false

namespace OsiStack

open Octets

inductive Notice where
  | unknownAddress
  | unknownPort
  | incorrectChecksum
  | connectionLimit
  | unsupportedFlag (controlBits : UInt8)
deriving DecidableEq

def tcpNone : Int := -1
def tcpReg : Int := 0
def tcpFinAck : Int := -3

@[irreducible] def connectionLookup (table : Table) (ipAddr : IpAddr) (srcPort : UInt16) : Option (Fin tcpConnectionLimit) :=
  Fin.find? fun i => decide ((table i).hostIpAddr = ipAddr) && decide (srcPort = (table i).port)

@[irreducible] def isSpace (table : Table) : Option (Fin tcpConnectionLimit) :=
  Fin.find? fun i => decide ((table i).connectionStatus = 0)

-- The successive results of getrandom; it fails once they are used up, and a
-- failure gives sequence number 0.
def tcpSeqGenerator : List UInt32 → UInt32 → UInt32
  | [], _ => 0
  | buf :: rest, prev => if buf = prev then tcpSeqGenerator rest prev else buf

def pseudoHeader (packet : Memory) (tcpLen : UInt16) : List UInt8 :=
  (IpHeader.srcAddr packet).val ++ (IpHeader.destAddr packet).val ++ [0, 6] ++ bytes16 (htons tcpLen)

def calculateTcpChecksum (packet : Memory) (tcpLen : UInt16) : UInt16 :=
  let padding := if (12 + tcpLen.toNat) % 2 = 0 then [] else [0]
  htons (ipChecksum (pseudoHeader packet tcpLen ++ fetch packet 34 tcpLen.toNat ++ padding))

-- What handle_tcp reads off the header and the frame length, each narrowed to
-- the width of its C variable.
def controlBits (m : Memory) : UInt8 := (ntohs (Tcp.flag m) &&& 0x3F).toUInt8
def dataOffset (m : Memory) : UInt8 := ((ntohs (Tcp.flag m) >>> 12) &&& 0xF).toUInt8
def tcpHeaderLen (m : Memory) : UInt8 := dataOffset m * 4
def dataOctets (m : Memory) (len : Nat) : UInt16 := UInt16.ofNat len - 14 - 20 - (tcpHeaderLen m).toUInt16
def tcpSegmentLen (m : Memory) (len : Nat) : UInt16 := (tcpHeaderLen m).toUInt16 + dataOctets m len

structure TcpOutcome where
  status : Int
  frame : Memory
  table : Table
  console : List UInt8
  notices : List Notice

def flagWord (offset : UInt8) (bits : UInt16) : UInt16 := (offset.toUInt16 <<< 12) ||| bits

-- write(STDOUT_FILENO, ..) with an int8_t count: a negative count becomes a
-- size_t no kernel accepts, and nothing is written.
def writeOut (m : Memory) (dataPtr : Nat) (count : Int8) : List UInt8 := fetch m dataPtr count.toInt.toNat

section
variable (m : Memory) (octets : Int8) (offset : UInt8) (table : Table) (id : Fin tcpConnectionLimit)

def handleSyn (draws : List UInt32) : TcpOutcome :=
  let m1 := Tcp.setAckNumber m (htonl (ntohl (Tcp.seqNumber m) + 1))
  let m2 := Tcp.setSeqNumber m1 (tcpSeqGenerator draws (ntohl (Tcp.seqNumber m1)))
  let m3 := Tcp.setFlag m2 (htons (flagWord offset 0x12))
  let m4 := Tcp.setDestPort m3 (Tcp.srcPort m3)
  let m5 := Tcp.setSrcPort m4 (htons hostTcpPort)
  let conn := { table id with
    hostIpAddr := IpHeader.srcAddr m5
    port := ntohs (Tcp.destPort m5)
    hostMac := FrameFields.srcAddr m5
    nextSeq := ntohl (Tcp.ackNumber m5)
    connectionStatus := 2 }
  ⟨tcpReg, m5, Function.update table id conn, [], []⟩

def acknowledge : Memory :=
  let rcvdAck := Tcp.ackNumber m
  let m1 := Tcp.setAckNumber m (htonl (ntohl (Tcp.seqNumber m) + UInt32.ofInt octets.toInt))
  Tcp.setSeqNumber m1 rcvdAck

def recordNumbers (frame : Memory) : TcpConnection :=
  { table id with nextSeq := ntohl (Tcp.ackNumber frame), currSeq := ntohl (Tcp.seqNumber frame) }

def handleAck (headerLen : Nat) : TcpOutcome :=
  if (table id).connectionStatus = 0 then ⟨tcpNone, m, table, [], []⟩
  else
    let m1 := acknowledge m octets
    let conn := recordNumbers table id m1
    if conn.connectionStatus = 1 then
      if 0 < octets.toInt then
        ⟨tcpReg, m1, Function.update table id conn, writeOut m1 (34 + headerLen) octets, []⟩
      else ⟨tcpNone, m1, Function.update table id conn, [], []⟩
    else if conn.connectionStatus = 2 then
      ⟨tcpNone, m1, Function.update table id { conn with connectionStatus := 1 }, [], []⟩
    else ⟨tcpNone, m1, Function.update table id conn, [], []⟩

def handlePshAck (headerLen : Nat) : TcpOutcome :=
  let m1 := acknowledge m octets
  let conn := recordNumbers table id m1
  let m2 := Tcp.setFlag m1 (htons (flagWord offset 0x10))
  let m3 := Tcp.setDestPort m2 (Tcp.srcPort m2)
  let m4 := Tcp.setSrcPort m3 (htons hostTcpPort)
  let newIpLen := ntohs (IpHeader.totalLength m4) - UInt16.ofInt octets.toInt
  let m5 := IpHeader.setTotalLength m4 (htons newIpLen)
  ⟨octets.toInt, m5, Function.update table id conn, writeOut m4 (34 + headerLen) octets, []⟩

def acknowledgeFin : Memory :=
  let rcvdAck := Tcp.ackNumber m
  let m1 := Tcp.setAckNumber m (htonl (ntohl (Tcp.seqNumber m) + 1))
  let m2 := Tcp.setSeqNumber m1 rcvdAck
  let m3 := Tcp.setFlag m2 (htons (flagWord offset 0x10))
  let m4 := Tcp.setDestPort m3 (Tcp.srcPort m3)
  Tcp.setSrcPort m4 (htons hostTcpPort)

-- The second transmission only sets the flags and closes the slot.
def handleFinAck (flag : Bool) : TcpOutcome :=
  if flag then
    let m1 := Tcp.setFlag m (htons (flagWord offset 0x11))
    ⟨tcpReg, m1, Function.update table id { table id with connectionStatus := 0 }, [], []⟩
  else
    let m5 := acknowledgeFin m offset
    let conn := recordNumbers table id m5
    if conn.connectionStatus = 0 then ⟨-2, m5, Function.update table id conn, [], []⟩
    else ⟨tcpFinAck, m5, Function.update table id conn, [], []⟩

-- The switch on the masked flags. SYN/ACK (18) breaks out to the final return.
def handleTcpPayload (draws : List UInt32) (bits : UInt8) (flag : Bool) (headerLen : Nat) : TcpOutcome :=
  if bits = 2 then handleSyn m offset table id draws
  else if bits = 16 then handleAck m octets table id headerLen
  else if bits = 24 then handlePshAck m octets offset table id headerLen
  else if bits = 18 then ⟨-1, m, table, [], []⟩
  else if bits = 17 then handleFinAck m offset table id flag
  else ⟨tcpNone, m, table, [], [.unsupportedFlag bits]⟩

end

def tcpSlot (table : Table) (ipAddr : IpAddr) (port : UInt16) : Option (Fin tcpConnectionLimit) :=
  match connectionLookup table ipAddr port with
  | some i => some i
  | none => isSpace table

def readdress (m : Memory) (flag : Bool) : Memory :=
  let m1 := if flag then m else
    IpHeader.setTtl (IpHeader.setSrcAddr (IpHeader.setDestAddr m (IpHeader.srcAddr m)) tcpIp) 64
  let m2 := IpHeader.setIdentification m1 (if flag then htons 1 else htons 0)
  store m2 50 [0, 0]

-- The payload of a PSH/ACK (a positive status) leaves the checksummed range.
def finishTcp (out : TcpOutcome) (segmentLen octets : UInt16) (flag : Bool) : Memory :=
  let len := if 1 ≤ out.status then segmentLen - octets else segmentLen
  let m3 := readdress out.frame flag
  Tcp.setChecksum m3 (calculateTcpChecksum m3 len)

def refusal (m : Memory) : Option Notice :=
  if IpHeader.destAddr m ≠ tcpIp then some .unknownAddress
  else if ntohs (Tcp.destPort m) ≠ hostTcpPort then some .unknownPort
  else none

-- A bad checksum is announced as a drop, but the return is commented out.
def checksumNotices (m : Memory) (len : Nat) : List Notice :=
  if calculateTcpChecksum m (tcpSegmentLen m len) ≠ 0 then [.incorrectChecksum] else []

-- `flag` marks the second transmission of a FIN/ACK, which skips every check and
-- finds its slot from the reply's destination.
def handleTcp (draws : List UInt32) (len : Nat) (m : Memory) (table : Table) (flag : Bool) : TcpOutcome :=
  let bits := if flag then 17 else controlBits m
  match (if flag then none else refusal m) with
  | some notice => ⟨tcpNone, m, table, [], [notice]⟩
  | none =>
      let announced := if flag then [] else checksumNotices m len
      let peerAddr := if flag then IpHeader.destAddr m else IpHeader.srcAddr m
      let peerPort := if flag then ntohs (Tcp.destPort m) else ntohs (Tcp.srcPort m)
      match tcpSlot table peerAddr peerPort with
      | none => ⟨tcpNone, m, table, [], announced ++ [.connectionLimit]⟩
      | some id =>
          let out := handleTcpPayload m (dataOctets m len).toUInt8.toInt8 (dataOffset m) table id draws bits flag
            (tcpHeaderLen m).toNat
          { out with
            frame := finishTcp out (tcpSegmentLen m len) (dataOctets m len) flag
            notices := announced ++ out.notices }

end OsiStack
