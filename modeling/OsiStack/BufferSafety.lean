import OsiStack.Erasure
import OsiStack.FrameLength

set_option autoImplicit false

namespace OsiStack

open Octets AccessLog

namespace InBuffer

section
variable (m : Memory) (octets : Int8) (offset : UInt8) (table : Table) (id : Fin tcpConnectionLimit)

theorem handle_syn_safe (draws : List UInt32) : Safe 1600 (handleSyn offset table id draws) m := by
  simp [handleSyn]

theorem write_out_safe (dataPtr : Nat) (near : dataPtr ≤ 1473) : Safe 1600 (writeOut dataPtr octets) m := by
  have few := octets.toInt_lt
  simp only [writeOut, safe_read]
  omega

theorem acknowledge_safe : Safe 1600 (acknowledge octets) m := by
  simp [acknowledge]

theorem record_numbers_safe : Safe 1600 (recordNumbers table id) m := by
  simp [recordNumbers]

theorem handle_ack_safe (headerLen : Nat) (small : headerLen < 256) : Safe 1600 (handleAck octets table id headerLen) m := by
  have near (m : Memory) := write_out_safe m octets (34 + headerLen) (by omega)
  simp [handleAck, acknowledge_safe, record_numbers_safe, near]

theorem handle_psh_ack_safe (headerLen : Nat) (small : headerLen < 256) :
    Safe 1600 (handlePshAck octets offset table id headerLen) m := by
  have near (m : Memory) := write_out_safe m octets (34 + headerLen) (by omega)
  simp [handlePshAck, acknowledge_safe, record_numbers_safe, near]

theorem handle_fin_ack_safe (flag : Bool) : Safe 1600 (handleFinAck offset table id flag) m := by
  cases flag <;> simp [handleFinAck, acknowledgeFin, record_numbers_safe]

theorem handle_tcp_payload_safe (draws : List UInt32) (bits : UInt8) (flag : Bool) (headerLen : Nat)
    (small : headerLen < 256) : Safe 1600 (handleTcpPayload octets offset table id draws bits flag headerLen) m := by
  simp [handleTcpPayload, handle_syn_safe, handle_ack_safe, handle_psh_ack_safe, handle_fin_ack_safe, small]

theorem calculate_tcp_checksum_safe (tcpLen : UInt16) (short : tcpLen.toNat ≤ 1566) :
    Safe 1600 (calculateTcpChecksum tcpLen) m := by
  simp [calculateTcpChecksum]
  omega

theorem finish_tcp_safe (status : Int) (segmentLen count : UInt16) (flag : Bool) (whole : segmentLen.toNat ≤ 1566)
    (bare : (segmentLen - count).toNat ≤ 1566) : Safe 1600 (finishTcp status segmentLen count flag) m := by
  have summed (m : Memory) : Safe 1600 (calculateTcpChecksum (if 1 ≤ status then segmentLen - count else segmentLen)) m := by
    apply calculate_tcp_checksum_safe
    split
    · exact bare
    · exact whole
  cases flag <;> simp [finishTcp, readdress, summed]

theorem handle_slot_safe (draws : List UInt32) (count : UInt16) (bits : UInt8) (flag : Bool) (announced : List Notice)
    (whole : ((offset * 4).toUInt16 + count).toNat ≤ 1566) :
    Safe 1600 (handleSlot draws count offset table id bits flag announced) m := by
  have low := (offset * 4).toNat_lt
  have bare : ((offset * 4).toUInt16 + count - count).toNat ≤ 1566 := by
    rw [UInt16.add_sub_cancel, UInt8.toNat_toUInt16]
    omega
  have payload (m : Memory) :=
    handle_tcp_payload_safe m count.toUInt8.toInt8 offset table id draws bits flag (offset * 4).toNat (by omega)
  have finish (m : Memory) (status : Int) := finish_tcp_safe m status _ count flag whole bare
  rw [handleSlot, safe_bind, safe_bind]
  exact ⟨payload m, finish _ _, safe_pure 1600 _ _⟩

theorem checksum_notices_safe (segmentLen : UInt16) (whole : segmentLen.toNat ≤ 1566) :
    Safe 1600 (checksumNotices segmentLen) m := by
  rw [checksumNotices, safe_bind]
  exact ⟨calculate_tcp_checksum_safe m segmentLen whole, safe_pure 1600 _ _⟩

theorem handle_tcp_safe (draws : List UInt32) (len : Nat) (flag : Bool) (long : 34 ≤ len) (short : len ≤ 1600) :
    Safe 1600 (handleTcp draws len table flag) m := by
  have read : Safe 1600 controlBits m ∧ Safe 1600 dataOffset m ∧ Safe 1600 refusal m := by
    simp [controlBits, dataOffset, refusal]
  have whole : (tcpSegmentLen m len).toNat ≤ 1566 := by
    rw [tcp_segment_len m len long, UInt16.toNat_ofNat']
    omega
  have announced := checksum_notices_safe m _ whole
  have notices := checksum_notices_erased m len
  have slot (id : Fin tcpConnectionLimit) (bits : UInt8) (announced : List Notice) :=
    handle_slot_safe m (OsiStack.dataOffset m) table id draws (dataOctets m len) bits flag announced whole
  simp only [OsiStack.dataOctets, OsiStack.tcpSegmentLen, OsiStack.tcpHeaderLen] at announced notices slot
  cases flag with
  | true =>
      simp only [handleTcp, if_true, safe_bind, safe_pure, result_pure, data_offset_erased, dest_addr_erased,
        dest_port_erased, read, true_and]
      cases tcpSlot table (OsiStack.IpHeader.destAddr m) (ntohs (OsiStack.Tcp.destPort m)) with
      | none => simp
      | some id => exact ⟨by simp, by simp, slot id 17 []⟩
  | false =>
      simp only [handleTcp, Bool.false_eq_true, if_false, safe_bind, data_offset_erased, control_bits_erased, refusal_erased,
        read, true_and]
      cases OsiStack.refusal m with
      | some notice => simp
      | none =>
          simp only [safe_bind, announced, notices, src_addr_erased, src_port_erased, true_and]
          cases tcpSlot table (OsiStack.IpHeader.srcAddr m) (ntohs (OsiStack.Tcp.srcPort m)) with
          | none => simp
          | some id => exact ⟨by simp, by simp, slot id (OsiStack.controlBits m) (OsiStack.checksumNotices m len)⟩

end

section
variable (cfg : Network) (m : Memory) (icmp : Icmp) (transmitter : Nat)

theorem crc32_safe (n : Nat) (bound : n < 100000) : Safe 1600 (crc32 (n - 4 : Int)) m ↔ 4 ≤ n ∧ n ≤ 1604 := by
  have length := safe_read_sized 1600 m (n - 4 : Int) (by omega)
  simp only [crc32, safe_bind, safe_pure, and_true, length]
  omega

theorem handle_icmp_safe : Safe 1600 (handleIcmp cfg icmp transmitter) m := by
  simp [handleIcmp, result_read]

theorem link_header_safe (destAddr : Option MacAddr) (flag : Bool) :
    Safe 1600 (linkHeader cfg destAddr transmitter flag) m := by
  cases flag with
  | true => simp [linkHeader]
  | false => cases destAddr <;> simp [linkHeader]

theorem frame_check_sequence_safe (n : Nat) (bound : n < 100000) :
    Safe 1600 (frameCheckSequence n) m ↔ 4 ≤ n ∧ n ≤ 1600 := by
  simp only [frameCheckSequence, safe_bind, crc32_safe m n bound, safe_write32_at]
  omega

theorem seal_frame_safe (len : Nat) (flag : Bool) (bound : len < 70000) : Safe 1600 (sealFrame len flag) m ↔
    4 ≤ (OsiStack.sealFrame m len flag).len ∧ (OsiStack.sealFrame m len flag).len ≤ 1600 := by
  have newLen : (OsiStack.sealFrame m len flag).len ≤ len + 4 := by
    rw [seal_frame_len]
    split <;> omega
  rw [← frame_check_sequence_safe (store16 (store (OsiStack.IpHeader.setTtl m (OsiStack.IpHeader.ttl m)) 24 [0, 0]) 24
    (htons (ipChecksum (fetch (store (OsiStack.IpHeader.setTtl m (OsiStack.IpHeader.ttl m)) 24 [0, 0]) 14 20)))) _ (by omega)]
  simp only [sealFrame, safe_bind, result_read_octet, result_read, result_write, safe_read_octet, safe_write, safe_read,
    safe_write16, safe_pure, and_true]
  constructor
  · rintro ⟨-, -, -, -, -, -, last⟩
    exact last
  · intro last
    exact ⟨by omega, by simp, by simp, by omega, by omega, by omega, last⟩

theorem encapsulation_safe (len : Nat) (destAddr : Option MacAddr) (error flag : Bool) (bound : len < 70000) :
    Safe 1600 (encapsulation cfg len destAddr icmp error transmitter flag) m ↔
      4 ≤ (OsiStack.encapsulation cfg m len destAddr icmp error transmitter flag).len ∧
        (OsiStack.encapsulation cfg m len destAddr icmp error transmitter flag).len ≤ 1600 := by
  cases error with
  | true =>
      have reported (m : Memory) := handle_icmp_safe cfg m icmp transmitter
      simp only [encapsulation, OsiStack.encapsulation, if_true, safe_bind, reported, handle_icmp_erased]
      rw [seal_frame_safe _ 74 flag (by omega)]
      simp only [safe_read_octets, safe_write_octets]
      constructor
      · rintro ⟨-, -, -, -, last⟩
        exact last
      · intro last
        exact ⟨by omega, by omega, by omega, trivial, last⟩
  | false =>
      simp only [encapsulation, OsiStack.encapsulation, Bool.false_eq_true, if_false, safe_bind, link_header_erased]
      rw [seal_frame_safe _ len flag bound]
      exact and_iff_right (link_header_safe cfg m transmitter destAddr flag)

theorem send_ethernet_frame_safe (interface len : Nat) (short : len ≤ 1600) :
    Safe 1600 (sendEthernetFrame interface len) m := by
  simp only [sendEthernetFrame, safe_bind, safe_read, safe_pure, and_true]
  omega

theorem route_packet_safe (receiver : Nat) : Safe 1600 (routePacket cfg icmp receiver) m := by
  simp only [routePacket, safe_bind, safe_read_octets, dest_addr_erased]
  refine ⟨by omega, ?_⟩
  cases routeLookup cfg (OsiStack.IpHeader.destAddr m) with
  | none => simp
  | some i =>
      dsimp only
      cases cfg.routingTable[i]? with
      | none => simp
      | some row =>
          dsimp only
          cases arpLookup cfg (if row.gateway.val = [0, 0, 0, 0] then OsiStack.IpHeader.destAddr m else row.gateway) <;> simp

theorem packet_routing_safe (receiver : Nat) : Safe 1600 (packetRouting cfg icmp receiver) m := by
  have onward (m : Memory) (icmp : Icmp) := route_packet_safe cfg m icmp receiver
  simp [packetRouting, onward]

end

section
variable (cfg : Network) (draws : List UInt32) (len : Nat) (r : Routing) (table : Table)

theorem first_answer_bounds (long : 34 ≤ len) :
    OsiStack.IpHeader.protocol (OsiStack.handleTcp draws len r.frame table false).frame = OsiStack.IpHeader.protocol r.frame ∧
      (OsiStack.handleTcp draws len r.frame table false).status.toNat ≤ len - 34 := by
  cases heard : OsiStack.refusal r.frame with
  | some notice =>
      rw [handle_tcp_refused draws len r.frame table notice heard]
      exact ⟨rfl, by simp [tcpNone]⟩
  | none =>
      cases chosen : slotFor table (sender r.frame) with
      | none =>
          rw [handle_tcp_full draws len r.frame table heard chosen]
          exact ⟨rfl, by simp [tcpNone]⟩
      | some j =>
          have room := removed_le r.frame len long
          rw [removed_status _ (table j), ← handle_tcp_first_status draws len r.frame table j heard chosen] at room
          exact ⟨first_octet draws len r table j heard chosen 23 (by omega), room⟩

theorem answer_len (m : Memory) (n : Nat) (tcp : OsiStack.IpHeader.protocol m = 6) :
    (OsiStack.encapsulation cfg m n r.finalDestAddr r.icmp r.error r.transmitter false).len =
      if r.error then 74 else n + 4 := by
  cases r.error with
  | true => exact encapsulation_error_len cfg m n r.finalDestAddr r.icmp r.transmitter false
  | false =>
      rw [encapsulation_len, if_pos ⟨tcp, by simp⟩]
      rfl

theorem ungrown_bounds (m : Memory) (n : Nat) (flag : Bool) (still : ¬ (OsiStack.IpHeader.protocol m = 6 ∧ ¬ flag))
    (low : 4 ≤ n) (high : n ≤ 1600) :
    4 ≤ (OsiStack.encapsulation cfg m n r.finalDestAddr r.icmp r.error r.transmitter flag).len ∧
      (OsiStack.encapsulation cfg m n r.finalDestAddr r.icmp r.error r.transmitter flag).len ≤ 1600 := by
  cases r.error with
  | true =>
      rw [encapsulation_error_len]
      omega
  | false =>
      rw [encapsulation_len, if_neg still]
      exact ⟨low, high⟩

-- Only the answer's own growth can pass the end of the buffer.
theorem handle_tcp_packet_safe (tcp : OsiStack.IpHeader.protocol r.frame = 6) (long : 64 ≤ len) (short : len ≤ 1600) :
    Safe 1600 (handleTcpPacket cfg draws len (routed r).1 table) r.frame ↔
      (r.error = false → len - (OsiStack.handleTcp draws len r.frame table false).status.toNat + 4 ≤ 1600) := by
  have first := handle_tcp_safe r.frame table draws len false (by omega) short
  obtain ⟨protocol, room⟩ := first_answer_bounds draws len r table (by omega)
  simp only [handleTcpPacket, safe_bind, safe_ite, first, true_and, handle_tcp_first_erased]
  generalize OsiStack.handleTcp draws len r.frame table false = out at protocol room ⊢
  have sizeOf (n : Nat) (bound : n < 70000) :=
    encapsulation_safe cfg out.frame r.icmp r.transmitter n r.finalDestAddr r.error false bound
  have answer (n : Nat) (bound : n < 70000) :
    Safe 1600 (encapsulation cfg n r.finalDestAddr r.icmp r.error r.transmitter false)
      out.frame ↔ (r.error = false → n + 4 ≤ 1600) := by
    rw [sizeOf n bound, answer_len cfg r out.frame n (protocol.trans tcp)]
    cases r.error <;> simp
  have again (m : Memory) := handle_tcp_safe m out.table draws len true (by omega) short
  simp only [returned, routed, encapsulation_erased]
  split
  · rw [and_iff_left_of_imp, answer _ (by omega)]
    intro whole
    have fits := (sizeOf _ (by omega)).mp whole
    exact ⟨send_ethernet_frame_safe _ _ _ fits.2, safe_pure 1600 _ _⟩
  · have nothing : out.status.toNat = 0 := by omega
    rw [and_iff_left_of_imp, answer len (by omega), nothing, Nat.sub_zero]
    intro whole
    obtain ⟨low, high⟩ := (sizeOf _ (by omega)).mp whole
    generalize (OsiStack.encapsulation cfg out.frame len r.finalDestAddr r.icmp r.error r.transmitter false).len = newLen
      at low high ⊢
    have sent (m : Memory) := send_ethernet_frame_safe m r.transmitter newLen high
    have last (m : Memory) := ungrown_bounds cfg r m newLen true (by simp) low high
    have sealed (m : Memory) :=
      encapsulation_safe cfg m r.icmp r.transmitter newLen r.finalDestAddr r.error true (by omega)
    split
    · exact ⟨sent _, safe_pure 1600 _ _⟩
    · split
      · exact ⟨sent _, again _, (sealed _).mpr (last _), send_ethernet_frame_safe _ _ _ (last _).2, safe_pure 1600 _ _⟩
      · exact safe_pure 1600 _ _

end

section
variable (cfg : Network) (m : Memory) (draws : List UInt32) (len : Nat) (table : Table)

theorem handle_arp_safe (low : 4 ≤ len) (high : len ≤ 1600) : Safe 1600 (handleArp cfg len) m := by
  have sealed (m : Memory) := frame_check_sequence_safe m len (by omega)
  have sent (m : Memory) (interface : Nat) := send_ethernet_frame_safe m interface len high
  simp only [handleArp, safe_bind, safe_ite, target_ip_erased, sender_ip_erased]
  refine ⟨by simp, by simp, by simp, ?_⟩
  split
  · cases isInterface cfg (OsiStack.Arp.targetIp m) with
    | none => simp
    | some idx => simp [sealed, sent, low, high]
  · simp

theorem handle_frame_safe (bound : len < 100000) : Safe 1600 (handleFrame cfg len) m ↔ 4 ≤ len ∧ len ≤ 1600 := by
  have sum (m : Memory) := crc32_safe m len bound
  simp only [handleFrame, ethCmp, safe_bind, sum, safe_read32_at, safe_read_octets, safe_pure, and_true]
  omega

theorem handle_packet_safe (icmp : Icmp) (receiver : Nat) (long : 64 ≤ len) (short : len ≤ 1600) :
    Safe 1600 (handlePacket cfg draws len icmp receiver table) m ↔
      (20 < (ntohs (OsiStack.IpHeader.totalLength m)).toNat → OsiStack.IpHeader.ttl m ≠ 0 → OsiStack.IpHeader.protocol m = 6 →
        (OsiStack.packetRouting cfg m icmp receiver).error = false →
        len - (OsiStack.handleTcp draws len (OsiStack.packetRouting cfg m icmp receiver).frame table false).status.toNat + 4
          ≤ 1600) := by
  have same : OsiStack.IpHeader.protocol (OsiStack.packetRouting cfg m icmp receiver).frame = OsiStack.IpHeader.protocol m :=
    packet_routing_octet cfg m icmp receiver 23 (by omega)
  have routing := packet_routing_safe cfg m icmp receiver
  simp only [handlePacket, safe_bind, safe_ite, total_length_erased, ttl_erased, src_addr_erased, dest_addr_erased,
    protocol_erased, result_read, routing, packet_routing_erased, safe_read_octets, safe_read, safe_read16, safe_read_octet]
  generalize OsiStack.packetRouting cfg m icmp receiver = r at same ⊢
  have segment (tcp : OsiStack.IpHeader.protocol m = 6) :=
    handle_tcp_packet_safe cfg draws len r table (same.trans tcp) long short
  constructor
  · rintro ⟨-, -, -, -, -, -, rest⟩ filled alive tcp
    rw [if_neg (by simpa using filled), if_neg alive, if_neg fun other => other.2 tcp] at rest
    obtain ⟨-, -, rest⟩ := rest
    rw [if_pos (show OsiStack.IpHeader.protocol (routed r).2 = 6 from same.trans tcp)] at rest
    exact (segment tcp).mp rest
  · intro rules
    refine ⟨by omega, by omega, by omega, by omega, by omega, by omega, ?_⟩
    split
    · exact safe_pure 1600 m _
    · rename_i filled
      split
      · exact safe_pure 1600 m _
      · rename_i alive
        split
        · exact safe_pure 1600 m _
        · refine ⟨trivial, by omega, ?_⟩
          split
          · rename_i tcp
            exact (segment (same.symm.trans tcp)).mpr (rules (by simpa using filled) alive (same.symm.trans tcp))
          · rename_i other
            have bounds := ungrown_bounds cfg r r.frame len false (fun tcp => other tcp.1) (by omega) short
            have sealed := encapsulation_safe cfg r.frame r.icmp r.transmitter len r.finalDestAddr r.error false (by omega)
            simp only [routed, encapsulation_erased]
            exact ⟨sealed.mpr bounds, send_ethernet_frame_safe _ _ _ bounds.2, safe_pure 1600 _ _⟩

end

end InBuffer

end OsiStack
