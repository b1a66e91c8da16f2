import OsiStack.TcpReceive

set_option autoImplicit false

namespace OsiStack

open Octets

def isSpaceChar (c : UInt8) : Bool := c = 32 || (9 ≤ c && c ≤ 13)
def isDigitChar (c : UInt8) : Bool := 48 ≤ c && c ≤ 57

def digitsValue (digits : List UInt8) : Nat := digits.foldl (fun n c => 10 * n + (c.toNat - 48)) 0

-- atoi: blanks, an optional sign, and the digits up to the first other character.
-- A value that does not fit an int is undefined in C; here it is kept.
def atoi (input : List UInt8) : Int :=
  match input.dropWhile isSpaceChar with
  | 45 :: rest => -(digitsValue (rest.takeWhile isDigitChar) : Int)
  | 43 :: rest => digitsValue (rest.takeWhile isDigitChar)
  | rest => digitsValue (rest.takeWhile isDigitChar)

def isCommandChar (c : UInt8) : Bool := c = 67 || c = 81 || c = 99 || c = 113

-- The id and the command letter; a rejected input gives id -1.
def parseConnectionCommand (input : List UInt8) : Int × UInt8 :=
  if input.length < 2 then (-1, 0)
  else
    let lastChar := input.getLastD 0
    if ¬ isCommandChar lastChar then (-1, 0) else (atoi input.dropLast, lastChar)

def isQuit (c : UInt8) : Bool := c = 81 || c = 113

@[irreducible] def verifyUserIdInput (deviceId : Int) (table : Table) : Option (Fin tcpConnectionLimit) :=
  Fin.find? fun i => decide (deviceId = (i.val : Int)) && decide ((table i).connectionStatus ≠ 0)

@[irreducible] def promise (table : Table) : Option (Fin tcpConnectionLimit) := Fin.find? fun i => decide ((table i).io ≠ 0)

structure Segment where
  table : Table
  frame : Memory
  frameSize : Nat

def segmentHeader (conn : TcpConnection) (mac : MacAddr) (ip : IpAddr) (trueLen : Nat) (finFlag : Bool) : Memory :=
  let e1 := FrameFields.setSrcAddr (fun _ => 0) mac
  let e2 := FrameFields.setDestAddr e1 conn.hostMac
  let e3 := FrameFields.setType e2 (htons 0x0800)
  let i1 := IpHeader.setVersionIhl e3 0x45
  let i2 := IpHeader.setTypeOfService i1 0
  let i3 := IpHeader.setTotalLength i2 (htons (UInt16.ofNat (20 + 20 + trueLen)))
  let i4 := IpHeader.setIdentification i3 0
  let i5 := IpHeader.setFlagFragmentOffset i4 (htons 0x4000)
  let i6 := IpHeader.setTtl i5 64
  let i7 := IpHeader.setProtocol i6 6
  let i8 := IpHeader.setSrcAddr i7 ip
  let i9 := IpHeader.setDestAddr i8 conn.hostIpAddr
  let t1 := Tcp.setSrcPort i9 (htons hostTcpPort)
  let t2 := Tcp.setDestPort t1 (htons conn.port)
  let t3 := Tcp.setSeqNumber t2 (htonl conn.currSeq)
  let t4 := Tcp.setAckNumber t3 (htonl conn.nextSeq)
  let t5 := Tcp.setFlag t4 (htons (flagWord 5 (if finFlag then 0x11 else 0x18)))
  let t6 := Tcp.setWindow t5 (htons 65535)
  Tcp.setUrgentPointer t6 0

def createTcpSegment (buffer : List UInt8) (table : Table) (mac : MacAddr) (ip : IpAddr)
    (deviceId : Fin tcpConnectionLimit) (finFlag : Bool) : Segment :=
  let conn := table deviceId
  let trueLen := if finFlag then 0 else buffer.length
  let frameSize := 14 + 20 + 20 + trueLen + 4
  let t7 := segmentHeader conn mac ip trueLen finFlag
  let t8 := store t7 (34 + 20) (buffer.take trueLen)
  let t9 := Tcp.setChecksum t8 0
  let t10 := Tcp.setChecksum t9 (calculateTcpChecksum t9 (UInt16.ofNat (20 + trueLen)))
  let h1 := IpHeader.setHeaderChecksum t10 0
  let h2 := IpHeader.setHeaderChecksum h1 (htons (ipChecksum (fetch h1 14 20)))
  let f := store32 h2 (frameSize - 4) (crc32 0 (fetch h2 0 (frameSize - 4)))
  let closed := if finFlag then { conn with connectionStatus := 0 } else conn
  let advanced := if trueLen = 0 then { closed with currSeq := conn.currSeq + 1 }
    else { closed with currSeq := conn.currSeq + UInt32.ofNat trueLen }
  ⟨Function.update table deviceId advanced, f, frameSize⟩

def stripNewline (read : List UInt8) : List UInt8 := if read.getLastD 0 = 10 then read.dropLast else read

structure Interaction where
  table : Table
  sent : List Sent

def sendSegment (interfaceId : Nat) (segment : Segment) : Sent :=
  sendEthernetFrame interfaceId segment.frame segment.frameSize

def commandMode (interfaceId : Nat) (table : Table) (read : List UInt8) : Interaction :=
  if read.length = 0 then ⟨table, []⟩
  else
    let (id, command) := parseConnectionCommand ((stripNewline read).takeWhile fun c => c ≠ 0)
    if id = -1 then ⟨table, []⟩
    else
      match verifyUserIdInput id table with
      | none => ⟨table, []⟩
      | some i =>
          if isQuit command then
            let closed := Function.update table i { table i with connectionStatus := 0 }
            let segment := createTcpSegment [] closed tcpMac tcpIp i true
            ⟨segment.table, [sendSegment interfaceId segment]⟩
          else ⟨Function.update table i { table i with io := 1 }, []⟩

-- Slot `i` is in write mode: the input is text for it. Only a lone q read without
-- its newline leaves the mode.
def chatMode (interfaceId : Nat) (table : Table) (i : Fin tcpConnectionLimit) (read : List UInt8) : Interaction :=
  if read.length = 1 ∧ isQuit (read.getD 0 0) then
    ⟨Function.update table i { table i with io := 0 }, []⟩
  else if read.length = 0 then ⟨table, []⟩
  else
    let segment := createTcpSegment read table tcpMac tcpIp i false
    ⟨Function.update segment.table i { segment.table i with io := 0 }, [sendSegment interfaceId segment]⟩

def interactionHandler (interfaceId : Nat) (table : Table) (read : List UInt8) : Interaction :=
  match promise table with
  | none => commandMode interfaceId table read
  | some i => chatMode interfaceId table i read

end OsiStack
