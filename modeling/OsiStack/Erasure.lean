import OsiStack.FrameBuffer

set_option autoImplicit false

namespace OsiStack

open Octets AccessLog

namespace InBuffer

section
variable (cfg : Network) (m : Memory)

theorem type_erased : result FrameFields.type m = (OsiStack.FrameFields.type m, m) := (rfl)
theorem frame_dest_erased : result FrameFields.destAddr m = (OsiStack.FrameFields.destAddr m, m) := (rfl)
theorem frame_src_erased : result FrameFields.srcAddr m = (OsiStack.FrameFields.srcAddr m, m) := (rfl)
theorem total_length_erased : result IpHeader.totalLength m = (OsiStack.IpHeader.totalLength m, m) := (rfl)
theorem ttl_erased : result IpHeader.ttl m = (OsiStack.IpHeader.ttl m, m) := (rfl)
theorem protocol_erased : result IpHeader.protocol m = (OsiStack.IpHeader.protocol m, m) := (rfl)
theorem src_addr_erased : result IpHeader.srcAddr m = (OsiStack.IpHeader.srcAddr m, m) := (rfl)
theorem dest_addr_erased : result IpHeader.destAddr m = (OsiStack.IpHeader.destAddr m, m) := (rfl)
theorem src_port_erased : result Tcp.srcPort m = (OsiStack.Tcp.srcPort m, m) := (rfl)
theorem dest_port_erased : result Tcp.destPort m = (OsiStack.Tcp.destPort m, m) := (rfl)
theorem opcode_erased : result Arp.opcode m = (OsiStack.Arp.opcode m, m) := (rfl)
theorem sender_ip_erased : result Arp.senderIp m = (OsiStack.Arp.senderIp m, m) := (rfl)
theorem target_ip_erased : result Arp.targetIp m = (OsiStack.Arp.targetIp m, m) := (rfl)
theorem data_offset_erased : result dataOffset m = (OsiStack.dataOffset m, m) := (rfl)
theorem control_bits_erased : result controlBits m = (OsiStack.controlBits m, m) := (rfl)
theorem refusal_erased : result refusal m = (OsiStack.refusal m, m) := (rfl)
theorem eth_cmp_erased : result (ethCmp cfg) m = (OsiStack.ethCmp cfg m, m) := (rfl)

end

section
variable (m : Memory) (octets : Int8) (offset : UInt8) (table : Table) (id : Fin tcpConnectionLimit)

theorem returned_ite (c : Prop) [Decidable c] (a b : TcpOutcome) :
    returned (if c then a else b) = if c then returned a else returned b := by
  split <;> rfl

theorem handle_ack_erased (headerLen : Nat) :
    result (handleAck octets table id headerLen) m = returned (OsiStack.handleAck m octets table id headerLen) := by
  unfold handleAck OsiStack.handleAck
  simp only [result_ite, result_bind, returned_ite]
  rfl

theorem handle_fin_ack_erased (flag : Bool) :
    result (handleFinAck offset table id flag) m = returned (OsiStack.handleFinAck m offset table id flag) := by
  unfold handleFinAck OsiStack.handleFinAck
  simp only [result_ite, result_bind, returned_ite]
  rfl

theorem handle_tcp_payload_erased (draws : List UInt32) (bits : UInt8) (flag : Bool) (headerLen : Nat) :
    result (handleTcpPayload octets offset table id draws bits flag headerLen) m =
      returned (OsiStack.handleTcpPayload m octets offset table id draws bits flag headerLen) := by
  unfold handleTcpPayload OsiStack.handleTcpPayload
  simp only [result_ite, returned_ite, handle_ack_erased, handle_fin_ack_erased]
  rfl

theorem finish_tcp_erased (out : TcpOutcome) (segmentLen count : UInt16) (flag : Bool) :
    result (finishTcp out.status segmentLen count flag) out.frame = ((), OsiStack.finishTcp out segmentLen count flag) := by
  cases flag <;> rfl

theorem checksum_notices_erased (len : Nat) :
    result (checksumNotices (tcpSegmentLen m len)) m = (OsiStack.checksumNotices m len, m) := rfl

theorem handle_slot_erased (draws : List UInt32) (count : UInt16) (bits : UInt8) (flag : Bool) (announced : List Notice) :
    result (handleSlot draws count offset table id bits flag announced) m =
      returned (
        let out := OsiStack.handleTcpPayload m count.toUInt8.toInt8 offset table id draws bits flag (offset * 4).toNat
        { out with
          frame := OsiStack.finishTcp out ((offset * 4).toUInt16 + count) count flag
          notices := announced ++ out.notices }) := by
  rw [handleSlot, result_bind, handle_tcp_payload_erased]
  generalize OsiStack.handleTcpPayload m count.toUInt8.toInt8 offset table id draws bits flag (offset * 4).toNat = out
  change result (finishTcp out.status ((offset * 4).toUInt16 + count) count flag >>= fun _ => _) out.frame = _
  rw [result_bind, finish_tcp_erased]
  rfl

theorem handle_tcp_again_erased (draws : List UInt32) (len : Nat) :
    result (handleTcp draws len table true) m = returned (OsiStack.handleTcp draws len m table true) := by
  simp only [handleTcp, OsiStack.handleTcp, if_true, result_bind, result_pure, data_offset_erased, dest_addr_erased,
    dest_port_erased, OsiStack.dataOctets, OsiStack.tcpSegmentLen, OsiStack.tcpHeaderLen]
  cases tcpSlot table (OsiStack.IpHeader.destAddr m) (ntohs (OsiStack.Tcp.destPort m)) with
  | none => rfl
  | some id => exact handle_slot_erased m _ table id draws _ 17 true []

theorem handle_tcp_first_erased (draws : List UInt32) (len : Nat) :
    result (handleTcp draws len table false) m = returned (OsiStack.handleTcp draws len m table false) := by
  have notices := checksum_notices_erased m len
  simp only [OsiStack.dataOctets, OsiStack.tcpSegmentLen, OsiStack.tcpHeaderLen] at notices
  simp only [handleTcp, OsiStack.handleTcp, Bool.false_eq_true, if_false, result_bind, data_offset_erased,
    control_bits_erased, refusal_erased, OsiStack.dataOctets, OsiStack.tcpSegmentLen, OsiStack.tcpHeaderLen]
  cases OsiStack.refusal m with
  | some notice => rfl
  | none =>
      simp only [result_bind, notices, src_addr_erased, src_port_erased]
      cases tcpSlot table (OsiStack.IpHeader.srcAddr m) (ntohs (OsiStack.Tcp.srcPort m)) with
      | none => rfl
      | some id =>
          exact handle_slot_erased m _ table id draws _ (OsiStack.controlBits m) false (OsiStack.checksumNotices m len)

end

section
variable (cfg : Network) (m : Memory) (icmp : Icmp) (transmitter : Nat)

theorem crc32_erased (n : Nat) : result (crc32 (n - 4 : Int)) m = (OsiStack.crc32 0 (fetch m 0 (n - 4)), m) := by
  have place : ((n : Int) - 4).toNat = n - 4 := by omega
  change (OsiStack.crc32 0 (fetch m 0 ((n : Int) - 4).toNat), m) = _
  rw [place]

theorem frame_check_sequence_erased (n : Nat) : result (frameCheckSequence n) m =
    ((), store32 m (n - 4) (OsiStack.crc32 0 (fetch m 0 (n - 4)))) := by
  have place : ((n : Int) - 4).toNat = n - 4 := by omega
  rw [frameCheckSequence, result_bind, crc32_erased]
  change ((), store32 m ((n : Int) - 4).toNat _) = _
  rw [place]

theorem handle_icmp_erased :
    result (handleIcmp cfg icmp transmitter) m = ((), OsiStack.handleIcmp cfg m icmp transmitter) := (rfl)

theorem link_header_erased (destAddr : Option MacAddr) (flag : Bool) :
    result (linkHeader cfg destAddr transmitter flag) m = ((), OsiStack.linkHeader cfg m destAddr transmitter flag) := by
  cases flag with
  | true => rfl
  | false =>
      simp only [linkHeader, OsiStack.linkHeader, Bool.false_eq_true, if_false, result_bind, result_ite, protocol_erased]
      split
      · rfl
      · cases destAddr <;> rfl

theorem seal_frame_erased (len : Nat) (flag : Bool) :
    result (sealFrame len flag) m = ((OsiStack.sealFrame m len flag).len, (OsiStack.sealFrame m len flag).frame) := by
  simp only [sealFrame, OsiStack.sealFrame, result_bind, frame_check_sequence_erased]
  rfl

theorem encapsulation_erased (len : Nat) (destAddr : Option MacAddr) (error flag : Bool) :
    result (encapsulation cfg len destAddr icmp error transmitter flag) m =
      ((OsiStack.encapsulation cfg m len destAddr icmp error transmitter flag).len,
        (OsiStack.encapsulation cfg m len destAddr icmp error transmitter flag).frame) := by
  cases error with
  | true =>
      simp only [encapsulation, OsiStack.encapsulation, if_true, result_bind, handle_icmp_erased]
      exact seal_frame_erased _ 74 flag
  | false =>
      simp only [encapsulation, OsiStack.encapsulation, Bool.false_eq_true, if_false, result_bind, link_header_erased]
      exact seal_frame_erased _ len flag

theorem send_ethernet_frame_erased (interface len : Nat) :
    result (sendEthernetFrame interface len) m = (OsiStack.sendEthernetFrame interface m len, m) := rfl

theorem route_packet_erased (receiver : Nat) :
    result (routePacket cfg icmp receiver) m = routed (OsiStack.routePacket cfg m icmp receiver) := by
  simp only [routePacket, OsiStack.routePacket, result_bind, dest_addr_erased]
  cases routeLookup cfg (OsiStack.IpHeader.destAddr m) with
  | none => rfl
  | some i =>
      dsimp only
      cases cfg.routingTable[i]? with
      | none => rfl
      | some row =>
          dsimp only
          cases arpLookup cfg (if row.gateway.val = [0, 0, 0, 0] then OsiStack.IpHeader.destAddr m else row.gateway) with
          | none => rfl
          | some mac => rfl

theorem packet_routing_erased (receiver : Nat) :
    result (packetRouting cfg icmp receiver) m = routed (OsiStack.packetRouting cfg m icmp receiver) := by
  simp only [packetRouting, OsiStack.packetRouting, result_bind, result_ite, ttl_erased, dest_addr_erased]
  split
  · rfl
  · split
    · rfl
    · exact route_packet_erased cfg m _ receiver

theorem handle_tcp_packet_erased (draws : List UInt32) (len : Nat) (r : Routing) (table : Table) :
    (result (handleTcpPacket cfg draws len (routed r).1 table) r.frame).1 = OsiStack.handleTcpPacket cfg draws len
      r table := by
  simp only [handleTcpPacket, OsiStack.handleTcpPacket, result_bind, result_ite, handle_tcp_first_erased]
  generalize OsiStack.handleTcp draws len r.frame table false = out
  simp only [returned, routed, encapsulation_erased, send_ethernet_frame_erased, handle_tcp_again_erased]
  split
  · rfl
  · split
    · rfl
    · split <;> rfl

theorem handle_packet_erased (draws : List UInt32) (len receiver : Nat) (table : Table) :
    (result (handlePacket cfg draws len icmp receiver table) m).1 =
      OsiStack.handlePacket cfg draws len m icmp receiver table := by
  simp only [handlePacket, OsiStack.handlePacket, result_bind, result_ite, total_length_erased, ttl_erased, src_addr_erased,
    dest_addr_erased, protocol_erased, result_read, packet_routing_erased, encapsulation_erased, send_ethernet_frame_erased]
  generalize OsiStack.packetRouting cfg m icmp receiver = r
  split
  · rfl
  · split
    · rfl
    · split
      · rfl
      · rw [show (routed r).2 = r.frame from rfl]
        split
        · exact handle_tcp_packet_erased cfg draws len r table
        · rfl

theorem handle_arp_erased (len : Nat) : (result (handleArp cfg len) m).1 = OsiStack.handleArp cfg m len := by
  simp only [handleArp, OsiStack.handleArp, result_bind, result_ite, target_ip_erased, sender_ip_erased, opcode_erased]
  split
  · cases isInterface cfg (OsiStack.Arp.targetIp m) with
    | none => rfl
    | some idx =>
        simp only [result_bind, frame_check_sequence_erased, send_ethernet_frame_erased]
        rfl
  · rfl

theorem handle_frame_erased (len : Nat) :
    result (handleFrame cfg len) m = ((OsiStack.handleFrame cfg len m, OsiStack.ethCmp cfg m), m) := by
  have place : ((len : Int) - 4).toNat = len - 4 := by omega
  have stored : result (read32At (len - 4 : Int)) m = (load32 m (len - 4), m) := by
    change (load32 m ((len : Int) - 4).toNat, m) = _
    rw [place]
  simp only [handleFrame, result_bind, stored, frame_dest_erased, eth_cmp_erased, crc32_erased]
  rfl

theorem interface_receiver_erased (len : Nat) (octets : List UInt8) (icmpCode : Nat) (draws : List UInt32) (table : Table) :
    (result (interfaceReceiver cfg len octets icmpCode draws table) m).1 =
      OsiStack.interfaceReceiver cfg len (store m 0 octets) icmpCode draws table := by
  have filled : result (receiveEthernetFrame octets) m = ((), store m 0 octets) := rfl
  simp only [interfaceReceiver, OsiStack.interfaceReceiver, result_bind, result_ite, filled]
  generalize store m 0 octets = frame
  have dump : result (binaryToHex len) frame = ((), frame) := rfl
  simp only [dump, handle_frame_erased, type_erased, frame_src_erased, handle_arp_erased]
  split
  · rfl
  · split
    · rfl
    · split
      · split <;> rfl
      · cases OsiStack.ethCmp cfg frame with
        | none => rfl
        | some receiver =>
            simp only [result_ite]
            split
            · exact handle_packet_erased cfg frame ⟨1, icmpCode⟩ draws len receiver table
            · rfl
end

end InBuffer

end OsiStack
