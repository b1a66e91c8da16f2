import OsiStack.TcpReceive

set_option autoImplicit false

namespace OsiStack

open Octets

structure Icmp where
  type : Nat
  code : Nat
deriving DecidableEq

def interfaceAt (cfg : Network) (i : Nat) : Interface :=
  cfg.interfaceList.getD i ⟨macOctets 0 0 0 0 0 0, ipOctets 0 0 0 0⟩

def isInterface (cfg : Network) (ipAddr : IpAddr) : Option Nat :=
  cfg.interfaceList.findIdx? fun iface => decide (iface.ipAddr = ipAddr)

def ipAnd (a b : IpAddr) : IpAddr :=
  ⟨List.zipWith (· &&& ·) a.val b.val, by simp [a.property, b.property]⟩

def popcount (mask : IpAddr) : Nat :=
  (mask.val.map fun octet => (List.range 8).countP fun bit => octet.toNat.testBit bit).sum

structure PrefixSearch where
  index : Option Nat
  length : Int
deriving DecidableEq

def routeLoop (ipAddr : IpAddr) : List TableR → Nat → PrefixSearch → PrefixSearch
  | [], _, best => best
  | row :: rest, i, best =>
      if ipAnd ipAddr row.genmask = row.dest ∧ best.length < (popcount row.genmask : Int) then
        routeLoop ipAddr rest (i + 1) ⟨some i, popcount row.genmask⟩
      else routeLoop ipAddr rest (i + 1) best

def routeLookup (cfg : Network) (ipAddr : IpAddr) : Option Nat := (routeLoop ipAddr cfg.routingTable 0 ⟨none, -1⟩).index

-- The loop has no break: the last matching entry stays.
def arpLookup (cfg : Network) (ipAddr : IpAddr) : Option MacAddr :=
  cfg.arpCache.foldl (fun found entry => if entry.ipAddr = ipAddr then some entry.macAddr else found) none

structure Routing where
  frame : Memory
  error : Bool
  icmp : Icmp
  transmitter : Nat
  finalDestAddr : Option MacAddr

def routePacket (cfg : Network) (m : Memory) (icmp : Icmp) (receiver : Nat) : Routing :=
  match routeLookup cfg (IpHeader.destAddr m) with
  | none => ⟨m, true, ⟨3, 0⟩, receiver, none⟩
  | some i =>
      match cfg.routingTable[i]? with
      | none => ⟨m, true, ⟨3, 0⟩, receiver, none⟩
      | some row =>
          let realPath := if row.gateway.val = [0, 0, 0, 0] then IpHeader.destAddr m else row.gateway
          match arpLookup cfg realPath with
          | none => ⟨m, true, ⟨3, 1⟩, receiver, none⟩
          | some mac => ⟨IpHeader.setTtl m (IpHeader.ttl m - 1), false, icmp, row.interfaceId, some mac⟩

def icmpMessage (cfg : Network) (m : Memory) (icmp : Icmp) (transmitter : Nat) : Memory :=
  let m1 := store m 42 (fetch m 14 28)
  let m2 := IpHeader.setProtocol m1 1
  let m3 := IpHeader.setTotalLength m2 (htons 56)
  let m4 := IpHeader.setTtl m3 64
  let m5 := IpHeader.setIdentification m4 (htons 0)
  let m6 := IpHeader.setDestAddr m5 (IpHeader.srcAddr m5)
  let m7 := IpHeader.setSrcAddr m6 (interfaceAt cfg transmitter).ipAddr
  store m7 34 [UInt8.ofNat icmp.type, UInt8.ofNat icmp.code, 0, 0, 0, 0, 0, 0]

def handleIcmp (cfg : Network) (m : Memory) (icmp : Icmp) (transmitter : Nat) : Memory :=
  let m8 := icmpMessage cfg m icmp transmitter
  let m9 := store16 m8 36 (htons (ipChecksum (fetch m8 34 36)))
  store16 m9 16 (htons 56)

structure Encapsulated where
  frame : Memory
  len : Nat

def linkHeader (cfg : Network) (m : Memory) (destAddr : Option MacAddr) (transmitter : Nat) (flag : Bool) : Memory :=
  if flag then m
  else if IpHeader.protocol m = 6 then
    FrameFields.setSrcAddr (FrameFields.setDestAddr m (FrameFields.srcAddr m)) (interfaceAt cfg transmitter).macAddr
  else
    let m1 := FrameFields.setSrcAddr m (interfaceAt cfg transmitter).macAddr
    match destAddr with
    | some mac => FrameFields.setDestAddr m1 mac
    | none => m1

-- The IP checksum and the frame check sequence; a TCP frame grows by four octets.
def sealFrame (m : Memory) (len : Nat) (flag : Bool) : Encapsulated :=
  let m1 := IpHeader.setTtl m (IpHeader.ttl m)
  let m2 := store m1 24 [0, 0]
  let m3 := store16 m2 24 (htons (ipChecksum (fetch m2 14 20)))
  let newLen := if IpHeader.protocol m3 = 6 ∧ ¬ flag then len + 4 else len
  ⟨store32 m3 (newLen - 4) (crc32 0 (fetch m3 0 (newLen - 4))), newLen⟩

def encapsulation (cfg : Network) (m : Memory) (len : Nat) (destAddr : Option MacAddr) (icmp : Icmp) (error : Bool)
    (transmitter : Nat) (flag : Bool) : Encapsulated :=
  if error then
    let m1 := FrameFields.setDestAddr m (FrameFields.srcAddr m)
    let m2 := FrameFields.setSrcAddr m1 (interfaceAt cfg transmitter).macAddr
    sealFrame (handleIcmp cfg m2 icmp transmitter) 74 flag
  else sealFrame (linkHeader cfg m destAddr transmitter flag) len flag

structure Effects where
  table : Table
  sent : List Sent
  console : List UInt8
  notices : List Notice

def noEffect (table : Table) : Effects := ⟨table, [], [], []⟩

-- What handle_packet does with a TCP packet once routing is settled: the status
-- of handle_tcp is a code, or the number of payload octets of a PSH/ACK.
def handleTcpPacket (cfg : Network) (draws : List UInt32) (len : Nat) (r : Routing) (table : Table) : Effects :=
  let out := handleTcp draws len r.frame table false
  let status := out.status
  let seal1 := fun currLen => encapsulation cfg out.frame currLen r.finalDestAddr r.icmp r.error r.transmitter false
  if 1 ≤ status then
    let first := seal1 (len - status.toNat)
    ⟨out.table, [sendEthernetFrame r.transmitter first.frame first.len], out.console, out.notices⟩
  else
    let first := seal1 len
    if status = tcpReg ∨ status = -2 then
      ⟨out.table, [sendEthernetFrame r.transmitter first.frame first.len], out.console, out.notices⟩
    else if status = tcpFinAck then
      let again := handleTcp draws len first.frame out.table true
      let second := encapsulation cfg again.frame first.len r.finalDestAddr r.icmp r.error r.transmitter true
      ⟨again.table, [sendEthernetFrame r.transmitter first.frame first.len,
        sendEthernetFrame r.transmitter second.frame second.len], out.console ++ again.console, out.notices ++ again.notices⟩
    else ⟨out.table, [], out.console, out.notices⟩

-- The routing half of handle_packet. `icmp` is the caller's structure: its type
-- is preset, its code is not. A local packet goes back to its link-level sender.
def packetRouting (cfg : Network) (m : Memory) (icmp : Icmp) (receiver : Nat) : Routing :=
  let error := decide (IpHeader.ttl m = 1)
  let icmp1 : Icmp := if error then ⟨11, 0⟩ else icmp
  if (isInterface cfg (IpHeader.destAddr m)).isSome then ⟨m, error, icmp1, receiver, some (FrameFields.srcAddr m)⟩
  else if error then ⟨m, true, icmp1, receiver, none⟩
  else routePacket cfg m icmp1 receiver

-- valid_checksum is recorded; both branches on it are commented out.
def validChecksum (m : Memory) : Bool := decide (ipChecksum (fetch m 14 20) = 0)

def handlePacket (cfg : Network) (draws : List UInt32) (len : Nat) (m : Memory) (icmp : Icmp) (receiver : Nat)
    (table : Table) : Effects :=
  if ¬ 20 < (ntohs (IpHeader.totalLength m)).toNat then noEffect table
  else if IpHeader.ttl m = 0 then noEffect table
  else if (isInterface cfg (IpHeader.destAddr m)).isSome ∧ IpHeader.protocol m ≠ 6 then noEffect table
  else
    let r := packetRouting cfg m icmp receiver
    if IpHeader.protocol r.frame = 6 then handleTcpPacket cfg draws len r table
    else
      let out := encapsulation cfg r.frame len r.finalDestAddr r.icmp r.error r.transmitter false
      ⟨table, [sendEthernetFrame r.transmitter out.frame out.len], [], []⟩

theorem route_packet_octet (cfg : Network) (m : Memory) (icmp : Icmp) (receiver : Nat) (i : Nat) (apart : i ≠ 22) :
    (routePacket cfg m icmp receiver).frame i = m i := by
  unfold routePacket
  split
  · rfl
  · split
    · rfl
    · dsimp only
      split
      · rfl
      · exact store_outside m 22 i _ (by simp; omega)

theorem packet_routing_octet (cfg : Network) (m : Memory) (icmp : Icmp) (receiver : Nat) (i : Nat) (apart : i ≠ 22) :
    (packetRouting cfg m icmp receiver).frame i = m i := by
  simp only [packetRouting]
  split
  · rfl
  · split
    · rfl
    · exact route_packet_octet cfg m _ receiver i apart

end OsiStack
