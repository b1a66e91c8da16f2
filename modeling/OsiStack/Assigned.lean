import OsiStack.Packet

/- handle_packet with its variables as C has them: the address of the next hop and
   the ICMP type and code are unset until assigned, a connection index may be -1,
   and to use one of these unset is a fault. No packet comes to one. -/
set_option autoImplicit false

namespace OsiStack

open Octets

inductive Fault where
  | destAddrUnset
  | icmpUnset
  | noConnection
deriving DecidableEq

structure IcmpVars where
  type : Option Nat
  code : Option Nat

def assign (icmp : Icmp) : IcmpVars := ⟨some icmp.type, some icmp.code⟩

def readIcmp (icmp : IcmpVars) : Except Fault Icmp :=
  match icmp.type, icmp.code with
  | some type, some code => .ok ⟨type, code⟩
  | _, _ => .error .icmpUnset

def dereference : Option MacAddr → Except Fault MacAddr
  | some mac => .ok mac
  | none => .error .destAddrUnset

structure PacketVars where
  frame : Memory
  error : Bool
  icmp : IcmpVars
  transmitter : Nat
  finalDestAddr : Option MacAddr

def unreachable (vars : PacketVars) (code receiver : Nat) : PacketVars :=
  { vars with error := true, icmp := assign ⟨3, code⟩, transmitter := receiver }

def assignRoute (cfg : Network) (vars : PacketVars) (receiver : Nat) : PacketVars :=
  match routeLookup cfg (IpHeader.destAddr vars.frame) with
  | none => unreachable vars 0 receiver
  | some i =>
      match cfg.routingTable[i]? with
      | none => unreachable vars 0 receiver
      | some row =>
          let realPath := if row.gateway.val = [0, 0, 0, 0] then IpHeader.destAddr vars.frame else row.gateway
          match arpLookup cfg realPath with
          | none => unreachable vars 1 receiver
          | some mac =>
              { vars with
                frame := IpHeader.setTtl vars.frame (IpHeader.ttl vars.frame - 1)
                transmitter := row.interfaceId
                finalDestAddr := some mac }

-- Nothing is set at the start, whatever the caller left in its structure.
def assignRouting (cfg : Network) (m : Memory) (receiver : Nat) : PacketVars :=
  let vars : PacketVars := ⟨m, false, ⟨none, none⟩, receiver, none⟩
  let vars1 := if IpHeader.ttl m = 1 then { vars with error := true, icmp := assign ⟨11, 0⟩ } else vars
  if (isInterface cfg (IpHeader.destAddr m)).isSome then { vars1 with finalDestAddr := some (FrameFields.srcAddr m) }
  else if vars1.error then vars1
  else assignRoute cfg vars1 receiver

def checkedIcmp (cfg : Network) (m : Memory) (icmp : IcmpVars) (transmitter : Nat) : Except Fault Memory := do
  let read ← readIcmp icmp
  pure (handleIcmp cfg m read transmitter)

def checkedLinkHeader (cfg : Network) (m : Memory) (destAddr : Option MacAddr) (transmitter : Nat) (flag : Bool) :
    Except Fault Memory :=
  if flag then pure m
  else if IpHeader.protocol m = 6 then
    pure (FrameFields.setSrcAddr (FrameFields.setDestAddr m (FrameFields.srcAddr m)) (interfaceAt cfg transmitter).macAddr)
  else do
    let mac ← dereference destAddr
    pure (FrameFields.setDestAddr (FrameFields.setSrcAddr m (interfaceAt cfg transmitter).macAddr) mac)

def checkedEncapsulation (cfg : Network) (m : Memory) (len : Nat) (vars : PacketVars) (flag : Bool) :
    Except Fault Encapsulated :=
  if vars.error then do
    let m1 := FrameFields.setDestAddr m (FrameFields.srcAddr m)
    let m2 := FrameFields.setSrcAddr m1 (interfaceAt cfg vars.transmitter).macAddr
    let m3 ← checkedIcmp cfg m2 vars.icmp vars.transmitter
    pure (sealFrame m3 74 flag)
  else do
    let m1 ← checkedLinkHeader cfg m vars.finalDestAddr vars.transmitter flag
    pure (sealFrame m1 len flag)

-- connection_lookup and is_space give an index, or -1.
def slotNumber : Option (Fin tcpConnectionLimit) → Int
  | some i => i.val
  | none => -1

def enterSlot (connectionIdx : Int) : Except Fault (Fin tcpConnectionLimit) :=
  if inside : 0 ≤ connectionIdx ∧ connectionIdx < tcpConnectionLimit then .ok ⟨connectionIdx.toNat, by omega⟩
  else .error .noConnection

def checkedHandleTcp (draws : List UInt32) (len : Nat) (m : Memory) (table : Table) (flag : Bool) : Except Fault TcpOutcome :=
  let bits := if flag then 17 else controlBits m
  match (if flag then none else refusal m) with
  | some notice => pure ⟨tcpNone, m, table, [], [notice]⟩
  | none =>
      let announced := if flag then [] else checksumNotices m len
      let peerAddr := if flag then IpHeader.destAddr m else IpHeader.srcAddr m
      let peerPort := if flag then ntohs (Tcp.destPort m) else ntohs (Tcp.srcPort m)
      let known := slotNumber (connectionLookup table peerAddr peerPort)
      let connectionIdx := if known = -1 then slotNumber (isSpace table) else known
      if connectionIdx = -1 then pure ⟨tcpNone, m, table, [], announced ++ [.connectionLimit]⟩
      else do
        let id ← enterSlot connectionIdx
        let out := handleTcpPayload m (dataOctets m len).toUInt8.toInt8 (dataOffset m) table id draws bits flag
          (tcpHeaderLen m).toNat
        pure { out with
          frame := finishTcp out (tcpSegmentLen m len) (dataOctets m len) flag
          notices := announced ++ out.notices }

example (cfg : Network) (m : Memory) (transmitter : Nat) :
    checkedIcmp cfg m ⟨some 1, none⟩ transmitter = .error .icmpUnset := rfl

-- The first encapsulation is for all cases, also where nothing is sent.
def checkedTcpPacket (cfg : Network) (draws : List UInt32) (len : Nat) (vars : PacketVars) (table : Table) :
    Except Fault Effects := do
  let out ← checkedHandleTcp draws len vars.frame table false
  let status := out.status
  if 1 ≤ status then
    let first ← checkedEncapsulation cfg out.frame (len - status.toNat) vars false
    pure ⟨out.table, [sendEthernetFrame vars.transmitter first.frame first.len], out.console, out.notices⟩
  else
    let first ← checkedEncapsulation cfg out.frame len vars false
    if status = tcpReg ∨ status = -2 then
      pure ⟨out.table, [sendEthernetFrame vars.transmitter first.frame first.len], out.console, out.notices⟩
    else if status = tcpFinAck then
      let again ← checkedHandleTcp draws len first.frame out.table true
      let second ← checkedEncapsulation cfg again.frame first.len vars true
      pure ⟨again.table, [sendEthernetFrame vars.transmitter first.frame first.len,
        sendEthernetFrame vars.transmitter second.frame second.len], out.console ++ again.console,
          out.notices ++ again.notices⟩
    else pure ⟨out.table, [], out.console, out.notices⟩

def checkedHandlePacket (cfg : Network) (draws : List UInt32) (len : Nat) (m : Memory) (receiver : Nat) (table : Table) :
    Except Fault Effects :=
  if ¬ 20 < (ntohs (IpHeader.totalLength m)).toNat then pure (noEffect table)
  else if IpHeader.ttl m = 0 then pure (noEffect table)
  else if (isInterface cfg (IpHeader.destAddr m)).isSome ∧ IpHeader.protocol m ≠ 6 then pure (noEffect table)
  else
    let vars := assignRouting cfg m receiver
    if IpHeader.protocol vars.frame = 6 then checkedTcpPacket cfg draws len vars table
    else do
      let out ← checkedEncapsulation cfg vars.frame len vars false
      pure ⟨table, [sendEthernetFrame vars.transmitter out.frame out.len], [], []⟩

structure Settles (vars : PacketVars) (r : Routing) : Prop where
  frame : vars.frame = r.frame
  error : vars.error = r.error
  transmitter : vars.transmitter = r.transmitter
  icmp : r.error = true → vars.icmp = assign r.icmp
  hop : r.error = false → ∃ mac, vars.finalDestAddr = some mac ∧ r.finalDestAddr = some mac

theorem assign_route_settles (cfg : Network) (m : Memory) (icmp : Icmp) (vars : PacketVars) (receiver : Nat)
    (frame : vars.frame = m) (noError : vars.error = false) :
    Settles (assignRoute cfg vars receiver) (routePacket cfg m icmp receiver) := by
  subst frame
  cases found : routeLookup cfg (IpHeader.destAddr vars.frame) with
  | none =>
      simp only [assignRoute, routePacket, found]
      exact ⟨rfl, rfl, rfl, fun _ => rfl, fun good => absurd good.symm Bool.false_ne_true⟩
  | some i =>
      cases here : cfg.routingTable[i]? with
      | none =>
          simp only [assignRoute, routePacket, found, here]
          exact ⟨rfl, rfl, rfl, fun _ => rfl, fun good => absurd good.symm Bool.false_ne_true⟩
      | some row =>
          simp only [assignRoute, routePacket, found, here]
          cases arpLookup cfg (if row.gateway.val = [0, 0, 0, 0] then IpHeader.destAddr vars.frame else row.gateway) with
          | none => exact ⟨rfl, rfl, rfl, fun _ => rfl, fun good => absurd good.symm Bool.false_ne_true⟩
          | some mac => exact ⟨rfl, noError, rfl, fun bad => absurd bad Bool.false_ne_true, fun _ => ⟨mac, rfl, rfl⟩⟩

theorem assign_routing_settles (cfg : Network) (m : Memory) (icmp : Icmp) (receiver : Nat) :
    Settles (assignRouting cfg m receiver) (packetRouting cfg m icmp receiver) := by
  by_cases home : (isInterface cfg (IpHeader.destAddr m)).isSome
  · by_cases expired : IpHeader.ttl m = 1
    · simp only [assignRouting, packetRouting, home, expired, if_true, decide_true]
      exact ⟨rfl, rfl, rfl, fun _ => rfl, fun good => absurd good.symm Bool.false_ne_true⟩
    · simp only [assignRouting, packetRouting, home, expired, if_true, if_false, decide_false, Bool.false_eq_true]
      exact ⟨rfl, rfl, rfl, fun bad => absurd bad Bool.false_ne_true, fun _ => ⟨_, rfl, rfl⟩⟩
  · by_cases expired : IpHeader.ttl m = 1
    · simp only [assignRouting, packetRouting, home, expired, if_true, if_false, decide_true, Bool.false_eq_true]
      exact ⟨rfl, rfl, rfl, fun _ => rfl, fun good => absurd good.symm Bool.false_ne_true⟩
    · simp only [assignRouting, packetRouting, home, expired, if_false, decide_false, Bool.false_eq_true]
      exact assign_route_settles cfg m icmp _ receiver rfl rfl

theorem checked_encapsulation (cfg : Network) (m : Memory) (len : Nat) (vars : PacketVars) (r : Routing) (flag : Bool)
    (settles : Settles vars r) : checkedEncapsulation cfg m len vars flag =
      .ok (encapsulation cfg m len r.finalDestAddr r.icmp r.error r.transmitter flag) := by
  cases bad : r.error with
  | true =>
      have set := settles.icmp bad
      simp only [checkedEncapsulation, encapsulation, settles.error, bad, if_true, settles.transmitter, set]
      rfl
  | false =>
      obtain ⟨mac, set, hop⟩ := settles.hop bad
      simp only [checkedEncapsulation, encapsulation, settles.error, bad, Bool.false_eq_true, if_false, settles.transmitter,
        set, hop, checkedLinkHeader, linkHeader]
      split_ifs <;> rfl

theorem enter_slot_number (i : Fin tcpConnectionLimit) : enterSlot (slotNumber (some i)) = .ok i := by
  have bound : (i.val : Int) < tcpConnectionLimit := by exact_mod_cast i.isLt
  rw [enterSlot, dif_pos ⟨Int.natCast_nonneg _, bound⟩]
  rfl

theorem slot_number_some (i : Fin tcpConnectionLimit) : slotNumber (some i) ≠ -1 := by
  simp only [slotNumber]
  omega

theorem slot_number_none : slotNumber none = -1 := rfl

theorem checked_handle_tcp (draws : List UInt32) (len : Nat) (m : Memory) (table : Table) (flag : Bool) :
    checkedHandleTcp draws len m table flag = .ok (handleTcp draws len m table flag) := by
  cases refused : (if flag then none else refusal m) with
  | some notice =>
      simp only [checkedHandleTcp, handleTcp, refused]
      rfl
  | none =>
      simp only [checkedHandleTcp, handleTcp, refused, tcpSlot]
      cases connectionLookup table (if flag then IpHeader.destAddr m else IpHeader.srcAddr m)
          (if flag then ntohs (Tcp.destPort m) else ntohs (Tcp.srcPort m)) with
      | some i =>
          simp only [slot_number_some, if_false, enter_slot_number]
          rfl
      | none =>
          cases isSpace table with
          | some i =>
              simp only [slot_number_none, if_true, slot_number_some, if_false, enter_slot_number]
              rfl
          | none =>
              simp only [slot_number_none, if_true]
              rfl

theorem checked_tcp_packet (cfg : Network) (draws : List UInt32) (len : Nat) (vars : PacketVars) (r : Routing) (table : Table)
    (settles : Settles vars r) : checkedTcpPacket cfg draws len vars table = .ok (handleTcpPacket cfg draws len r table) := by
  simp only [checkedTcpPacket, handleTcpPacket, checked_handle_tcp, checked_encapsulation cfg _ _ vars r _ settles,
    settles.frame, settles.transmitter, bind, Except.bind]
  split_ifs <;> rfl

theorem handle_packet_assigned (cfg : Network) (draws : List UInt32) (len : Nat) (m : Memory) (icmp : Icmp) (receiver : Nat)
    (table : Table) :
    checkedHandlePacket cfg draws len m receiver table = .ok (handlePacket cfg draws len m icmp receiver table) := by
  have settles := assign_routing_settles cfg m icmp receiver
  simp only [checkedHandlePacket, handlePacket, settles.frame, settles.transmitter,
    checked_tcp_packet cfg draws len _ _ table settles, checked_encapsulation cfg _ _ _ _ _ settles, bind, Except.bind]
  split_ifs <;> rfl

end OsiStack
