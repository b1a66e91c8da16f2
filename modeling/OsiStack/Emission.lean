import OsiStack.PeerSegment
import OsiStack.Router
import OsiStack.UserSegment

set_option autoImplicit false

namespace OsiStack

open Octets PeerSegment

inductive PacketFate (cfg : Network) (draws : List UInt32) (len : Nat) (m : Memory) (icmp : Icmp) (receiver : Nat)
    (table : Table) : Effects → Prop
  | dropped : PacketFate cfg draws len m icmp receiver table (noEffect table)
  | segment (filled : 20 < (ntohs (IpHeader.totalLength m)).toNat) (alive : IpHeader.ttl m ≠ 0)
      (tcp : IpHeader.protocol m = 6) : PacketFate cfg draws len m icmp receiver table
        (handleTcpPacket cfg draws len (packetRouting cfg m icmp receiver) table)
  | routed (filled : 20 < (ntohs (IpHeader.totalLength m)).toNat) (alive : IpHeader.ttl m ≠ 0)
      (other : IpHeader.protocol m ≠ 6) (transit : isInterface cfg (IpHeader.destAddr m) = none) :
      PacketFate cfg draws len m icmp receiver table
        ⟨table, [transitSent cfg len (packetRouting cfg m icmp receiver)], [], []⟩

theorem handle_packet_segment (cfg : Network) (draws : List UInt32) (len : Nat) (m : Memory) (icmp : Icmp) (receiver : Nat)
    (table : Table) (filled : 20 < (ntohs (IpHeader.totalLength m)).toNat) (alive : IpHeader.ttl m ≠ 0)
    (tcp : IpHeader.protocol m = 6) : handlePacket cfg draws len m icmp receiver table =
      handleTcpPacket cfg draws len (packetRouting cfg m icmp receiver) table := by
  have protocol : IpHeader.protocol (packetRouting cfg m icmp receiver).frame = 6 :=
    (packet_routing_octet cfg m icmp receiver 23 (by omega)).trans tcp
  simp [handlePacket, filled, alive, tcp, protocol]

theorem handle_packet_fate (cfg : Network) (draws : List UInt32) (len : Nat) (m : Memory) (icmp : Icmp) (receiver : Nat)
    (table : Table) : PacketFate cfg draws len m icmp receiver table (handlePacket cfg draws len m icmp receiver table) := by
  by_cases filled : 20 < (ntohs (IpHeader.totalLength m)).toNat
  · by_cases alive : IpHeader.ttl m = 0
    · rw [handlePacket, if_neg (by simpa using filled), if_pos alive]
      exact .dropped
    · by_cases tcp : IpHeader.protocol m = 6
      · rw [handle_packet_segment cfg draws len m icmp receiver table filled alive tcp]
        exact .segment filled alive tcp
      · cases transit : isInterface cfg (IpHeader.destAddr m) with
        | none =>
            rw [handle_packet_routed cfg draws len m icmp receiver table transit filled alive tcp]
            exact .routed filled alive tcp transit
        | some here =>
            rw [handlePacket, if_neg (by simpa using filled), if_neg alive, if_pos ⟨by simp [transit], tcp⟩]
            exact .dropped
  · rw [handlePacket, if_pos filled]
    exact .dropped

theorem segment_sent_heard (cfg : Network) (draws : List UInt32) (len : Nat) (r : Routing) (table : Table)
    (answered : (handleTcpPacket cfg draws len r table).sent ≠ []) : refusal r.frame = none ∧
      ∃ i, slotFor table (hear r.frame len).peer = some i := by
  cases heard : refusal r.frame with
  | some notice =>
      rw [handle_tcp_packet_refused cfg draws len r table notice heard] at answered
      simp at answered
  | none =>
      refine ⟨rfl, ?_⟩
      cases chosen : slotFor table (hear r.frame len).peer with
      | some i => exact ⟨i, rfl⟩
      | none =>
          rw [handle_tcp_packet_full cfg draws len r table heard chosen] at answered
          simp at answered

section
variable (cfg : Network) (draws : List UInt32) (len : Nat) (r : Routing) (table : Table) (i : Fin tcpConnectionLimit)
variable (heard : refusal r.frame = none) (chosen : slotFor table (hear r.frame len).peer = some i)
variable (tcp : IpHeader.protocol r.frame = 6)
include heard chosen tcp

theorem first_sent_bounds (currLen : Nat) (room : 34 ≤ currLen) : 38 ≤ (firstSent cfg draws len r table currLen).len ∧
    (firstSent cfg draws len r table currLen).len ≤ max 74 (currLen + 4) := by
  cases error : r.error with
  | true =>
      rw [firstSent, error, encapsulation_error_len]
      omega
  | false =>
      rw [first_sent_len cfg draws len r table i heard chosen tcp error currLen]
      omega

theorem first_sent_sealed (currLen : Nat) (room : 34 ≤ currLen) (short : currLen < 65000) :
    Sealed (emit r (firstSent cfg draws len r table currLen)).frame := by
  obtain ⟨least, most⟩ := first_sent_bounds cfg draws len r table i heard chosen tcp currLen room
  exact encapsulation_sealed cfg _ _ _ _ _ _ _ r.transmitter least (by unfold firstSent at most; omega)

theorem second_sent_sealed (room : 34 ≤ len) (short : len < 65000) :
    Sealed (emit r (secondSent cfg draws len r table)).frame := by
  obtain ⟨least, most⟩ := first_sent_bounds cfg draws len r table i heard chosen tcp len room
  obtain ⟨high, low⟩ := encapsulation_len_le cfg
    (handleTcp draws len (firstSent cfg draws len r table len).frame
      (handleTcp draws len r.frame table false).table true).frame
    (firstSent cfg draws len r table len).len r.finalDestAddr r.icmp r.error r.transmitter true
  exact encapsulation_sealed cfg _ _ _ _ _ _ _ r.transmitter (by omega) (by omega)

end

theorem segment_sent_sealed (cfg : Network) (draws : List UInt32) (len : Nat) (r : Routing) (table : Table)
    (tcp : IpHeader.protocol r.frame = 6) (room : 34 ≤ len) (short : len < 65000) (s : Sent)
    (member : s ∈ (handleTcpPacket cfg draws len r table).sent) : Sealed s.frame := by
  obtain ⟨heard, i, chosen⟩ := segment_sent_heard cfg draws len r table (List.ne_nil_of_mem member)
  have status := handle_tcp_first_status draws len r.frame table i heard chosen
  have removed := removed_le r.frame len room
  rw [removed_status _ (table i)] at removed
  rcases segment_sent_cases cfg draws len r table _ status s member with rfl | rfl
  · exact first_sent_sealed cfg draws len r table i heard chosen tcp _ (by omega) (by omega)
  · exact second_sent_sealed cfg draws len r table i heard chosen tcp room short

theorem create_tcp_segment_sealed (buffer : List UInt8) (table : Table) (i : Fin tcpConnectionLimit) (finFlag : Bool)
    (interface : Nat) (fits : buffer.length ≤ 1023) :
    Sealed (sendSegment interface (createTcpSegment buffer table tcpMac tcpIp i finFlag)).frame := by
  have size : (createTcpSegment buffer table tcpMac tcpIp i finFlag).frameSize = _ :=
    create_tcp_segment_size buffer table i finFlag
  have most : (if finFlag then 0 else buffer.length) ≤ 1023 := by split <;> omega
  constructor
  · simp only [createTcpSegment] at size
    simp only [sendSegment, createTcpSegment]
    exact emitted_check_sequence interface _ _ (by omega) (by omega)
  · rw [← seal_segment_header (fillTcpChecksum (segmentBody buffer table tcpMac tcpIp i finFlag)
        (UInt16.ofNat (20 + (carried buffer finFlag).length))) (54 + (carried buffer finFlag).length) (by omega),
      ← create_tcp_segment_frame]
    congr 1
    apply fetch_congr
    intro k low high
    exact sent_octet _ _ _ k (by omega) (by omega)

theorem packet_sent_sealed (cfg : Network) (draws : List UInt32) (len : Nat) (m : Memory) (icmp : Icmp) (receiver : Nat)
    (table : Table) (long : 64 ≤ len) (short : len < 65000) (s : Sent)
    (member : s ∈ (handlePacket cfg draws len m icmp receiver table).sent) : Sealed s.frame := by
  have fate := handle_packet_fate cfg draws len m icmp receiver table
  generalize handlePacket cfg draws len m icmp receiver table = e at fate member
  cases fate with
  | dropped => simp [noEffect] at member
  | segment _ _ tcp =>
      have protocol := (packet_routing_octet cfg m icmp receiver 23 (by omega)).trans tcp
      exact segment_sent_sealed cfg draws len _ table protocol (by omega) short s member
  | routed =>
      rw [List.mem_singleton] at member
      rw [member]
      exact transit_sent_sealed cfg len _ long short

theorem input_sent_sealed (table : Table) (u : UserRead) (s : Sent) (member : s ∈ (interact table u).sent) :
    Sealed s.frame := by
  rw [interact_intent] at member
  generalize intent table u = request at member
  cases request with
  | nothing => simp [Intent.sent] at member
  | select i => simp [Intent.sent] at member
  | leave i => simp [Intent.sent] at member
  | quit i =>
      simp only [Intent.sent, List.mem_singleton] at member
      rw [member]
      exact create_tcp_segment_sealed [] _ i true 0 (by simp)
  | text i =>
      simp only [Intent.sent, List.mem_singleton] at member
      rw [member]
      exact create_tcp_segment_sealed u.text table i false 0 u.fits

structure SelfConsistent (frame : List UInt8) : Prop where
  checkSumMatch : ∀ cfg, (handleFrame cfg frame.length (ofList frame)).checkSumMatch = true
  header : ntohs (FrameFields.type (ofList frame)) = 2048 → ipChecksum (fetch (ofList frame) 14 20) = 0

theorem sealed_self_consistent (frame : List UInt8) (whole : Sealed frame) : SelfConsistent frame :=
  ⟨fun cfg => check_sequence_match cfg frame whole.checkSequence, fun _ => whole.header⟩

theorem handle_arp_self_consistent (cfg : Network) (m : Memory) (len : Nat) (long : 64 ≤ len) (short : len < 65536)
    (arp : ntohs (FrameFields.type m) = 2054) (s : Sent) (member : s ∈ handleArp cfg m len) : SelfConsistent s.frame := by
  have type := handle_arp_type cfg m len long short s member
  refine ⟨fun other => check_sequence_match other s.frame ?_, fun ipv4 => ?_⟩
  · obtain ⟨-, idx, reply, -, -, rfl⟩ := handle_arp_member cfg m len s member
    exact emitted_check_sequence idx reply len (by omega) short
  · rw [type, arp] at ipv4
    exact absurd ipv4 (by decide)

theorem emitted_self_consistent (cfg : Network) (table : Table) (e : Event) (s : Sent)
    (member : s ∈ (react cfg table e).sent) : SelfConsistent s.frame := by
  cases e with
  | frame r =>
      have high := r.lenHigh
      change s ∈ (receive cfg table r).sent at member
      have fate := interface_receiver_fate cfg r.len r.buffer r.icmpCode r.draws table
      rw [receive] at member
      generalize interfaceReceiver cfg r.len r.buffer r.icmpCode r.draws table = effects at fate member
      cases fate with
      | ignored => simp [noEffect] at member
      | arp long _ type => exact handle_arp_self_consistent cfg r.buffer r.len long (by omega) type s member
      | packet receiver long _ _ _ =>
          apply sealed_self_consistent
          exact packet_sent_sealed cfg r.draws r.len r.buffer ⟨1, r.icmpCode⟩ receiver table long (by omega) s member
  | input u => exact sealed_self_consistent _ (input_sent_sealed table u s member)

theorem syn_answered : (react soloConfig zeroTable (arrives 100 0 2 [])).sent ≠ [] := by decide +kernel

theorem emitted_self_consistent_syn_ack :
    SelfConsistent ((react soloConfig zeroTable (arrives 100 0 2 [])).sent.head syn_answered).frame :=
  emitted_self_consistent soloConfig zeroTable (arrives 100 0 2 []) _ (List.head_mem syn_answered)

end OsiStack
