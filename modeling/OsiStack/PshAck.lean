import OsiStack.Established
import OsiStack.Mirror
import OsiStack.TableInvariant
import OsiStack.TcpChecksum

set_option autoImplicit false

namespace OsiStack

open Octets PeerSegment

structure AckOf (m : Memory) (frame : List UInt8) : Prop where
  tcp : TcpFrame frame
  bits : controlBits (ofList frame) = 16
  ack : ntohl (Tcp.ackNumber (ofList frame)) = ntohl (Tcp.seqNumber m) + UInt32.ofNat (payloadLen m)
  totalLength : (ntohs (IpHeader.totalLength (ofList frame))).toNat = 20 + 4 * (dataOffset m).toNat
  size : frame.length = 20 + 4 * (dataOffset m).toNat + 18
  checksum : calculateTcpChecksum (ofList frame) (UInt16.ofNat (4 * (dataOffset m).toNat)) = 0

structure PshAckLaw (m : Memory) (i : Fin tcpConnectionLimit) (e : Effects) : Prop where
  answer : ∃ s, e.sent = [s] ∧ AckOf m s.frame
  console : e.console = fetch m (34 + 4 * (dataOffset m).toNat) (payloadLen m)
  nextSeq : (e.table i).nextSeq = ntohl (Tcp.seqNumber m) + UInt32.ofNat (payloadLen m)
  status : (e.table i).connectionStatus = 1

theorem header_segment_len (m : Memory) (len : Nat) :
    tcpSegmentLen m len - dataOctets m len = UInt16.ofNat (4 * (dataOffset m).toNat) := by
  have four := data_offset_lt m
  apply UInt16.toNat_inj.mp
  rw [tcpSegmentLen, UInt16.add_sub_cancel, UInt8.toNat_toUInt16, tcp_header_len_toNat, UInt16.toNat_ofNat']
  omega

section
variable {m : Memory} {len : Nat} (wf : WellFormed m len) (psh : controlBits m = 24)
variable (draws : List UInt32) (table : Table)
variable (i : Fin tcpConnectionLimit) (chosen : slotFor table (hear m len).peer = some i)
include wf psh chosen

theorem psh_ack_status (small : payloadLen m ≤ 127) : (handleTcp draws len m table false).status = payloadLen m := by
  have kind : (hear m len).kind = .pshAck := (kind_of_psh_ack _).mpr psh
  have status := handle_tcp_first_status draws len m table i wf.heard chosen
  simp only [Heard.status, kind, wf.octets_small small] at status
  exact status

theorem psh_ack_checksum (data : 1 ≤ payloadLen m) (small : payloadLen m ≤ 127) :
    calculateTcpChecksum (handleTcp draws len m table false).frame (UInt16.ofNat (4 * (dataOffset m).toNat)) = 0 := by
  have status := psh_ack_status wf psh draws table i chosen small
  have offset := wf.offset
  have four := data_offset_lt m
  rw [handle_tcp_heard draws len m table i wf.heard chosen] at status ⊢
  dsimp only at status ⊢
  apply finish_tcp_verifies
  · rw [if_pos (by omega), header_segment_len]
  · rw [UInt16.toNat_ofNat']
    omega

variable (cfg : Config) (icmp : Icmp) (receiver : Nat)

theorem psh_ack_answer (data : 1 ≤ payloadLen m) (small : payloadLen m ≤ 127) :
    ∃ s, (handlePacket cfg draws len m icmp receiver table).sent = [s] ∧ AckOf m s.frame := by
  have kind : (hear m len).kind = .pshAck := (kind_of_psh_ack _).mpr psh
  have count := wf.octets_small small
  have lenEq := wf.len_eq
  have offset := wf.offset
  have four := data_offset_lt m
  have fits := wf.fits
  have status := psh_ack_status wf psh draws table i chosen small
  have sum := psh_ack_checksum wf psh draws table i chosen data small
  have removed : (hear m len).removed = payloadLen m := by
    rw [Heard.removed, if_pos kind, count]
    omega
  have answered : (hear m len).flags (table i) ≠ [] := by
    rw [flags_status _ _ draws, ← handle_tcp_first_status draws len m table i wf.heard chosen, status, if_pos (by omega)]
    simp
  let r := localRouting m icmp receiver
  have noError : r.error = false := wf.routed icmp receiver
  have answer : Answers (hear m len) draws len r
      (emit r (firstSent cfg draws len r table (len - (hear m len).removed))) ((hear m len).reply draws).bits :=
    first_sent_answers cfg draws len r table i wf.heard chosen wf.tcp noError (by omega) (by omega) answered
  have octet (k : Nat) (low : 26 ≤ k) (high : k < len - payloadLen m) :=
    first_sent_octet cfg draws len r table i wf.heard chosen wf.tcp noError (len - payloadLen m) k (Or.inr low) high
  have size := first_sent_len cfg draws len r table i wf.heard chosen wf.tcp noError (len - payloadLen m)
  have sent := handle_tcp_packet_sent cfg draws len r table (payloadLen m) status
  rw [if_pos (Or.inl (by omega)), Int.toNat_natCast] at sent
  rw [removed] at answer
  rw [wf.handled]
  refine ⟨_, sent, ?_⟩
  have lengthEq := answer.size
  rw [removed] at lengthEq
  have header := answer.header (by omega)
  refine ⟨answers_tcp _ _ _ _ _ _ answer (by omega) wf.ipv4 wf.tcp, ?_, ?_, ?_, by omega, ?_⟩
  · refine (congrArg Header.bits header).trans ?_
    simp [Heard.reply, kind]
  · refine (congrArg Header.ack header).trans ?_
    simp only [Heard.reply, Heard.nextSeq, kind, count, of_int32_natCast, hear_seq]
  · have total := congrArg Header.totalLength header
    have bound := (ntohs (IpHeader.totalLength m)).toNat_lt
    simp only [readHeader, Heard.reply, kind, if_true, hear_total_length, count] at total
    rw [total, UInt16.toNat_sub, of_int16_toNat]
    rw [payloadLen] at small ⊢
    omega
  · rw [← sum]
    apply tcp_checksum_congr
    intro k low high
    rw [UInt16.toNat_ofNat'] at high
    rw [emit, sent_octet _ _ _ k (by omega) (by omega)]
    exact octet k low (by omega)

theorem psh_ack_law_small (data : 1 ≤ payloadLen m) (small : payloadLen m ≤ 127) (up : (table i).connectionStatus = 1) :
    PshAckLaw m i (handlePacket cfg draws len m icmp receiver table) := by
  have kind : (hear m len).kind = .pshAck := (kind_of_psh_ack _).mpr psh
  have count := wf.octets_small small
  have regular : (hear m len).status (table i) ≠ tcpFinAck := by
    simp only [Heard.status, kind, count, tcpFinAck]
    omega
  refine ⟨psh_ack_answer wf psh draws table i chosen cfg icmp receiver data small, ?_, ?_, ?_⟩
  · simp [wf.console cfg draws icmp receiver table i chosen, Heard.printed, kind, count]
  · rw [wf.table_heard cfg draws icmp receiver table i chosen, Function.update_self, Heard.outcome, if_neg regular]
    simp only [Heard.apply, Heard.nextSeq, kind, count, of_int32_natCast, hear_seq]
  · rw [wf.table_heard cfg draws icmp receiver table i chosen, Function.update_self, Heard.outcome, if_neg regular]
    simp [Heard.apply, kind, up]

-- A payload of 128 octets or more moves next_seq by a count it no longer has.
theorem psh_ack_law_large (large : 127 < payloadLen m) (short : len ≤ 1514) :
    ¬ PshAckLaw m i (handlePacket cfg draws len m icmp receiver table) := by
  intro law
  have kind : (hear m len).kind = .pshAck := (kind_of_psh_ack _).mpr psh
  have count := wf.octets
  have lenEq := wf.len_eq
  have next := law.nextSeq
  rw [wf.table_heard cfg draws icmp receiver table i chosen, Function.update_self,
    (outcome_numbers _ _).1, (apply_numbers _ _ (Or.inr kind)).1, hear_seq, UInt32.add_right_inj,
    ← UInt32.toNat_inj, of_int32_toNat, UInt32.toNat_ofNat', count, Int.bmod_def] at next
  split at next <;> omega

end

theorem psh_ack_law_iff (cfg : Config) (draws : List UInt32) (len : Nat) (m : Memory) (icmp : Icmp) (receiver : Nat)
    (table : Table) (reached : Reachable cfg table) (i : Fin tcpConnectionLimit) (up : (table i).connectionStatus = 1)
    (peer : peerOf (table i) = (hear m len).peer) (wf : WellFormed m len) (psh : controlBits m = 24)
    (short : len ≤ 1514) (data : 1 ≤ payloadLen m) :
    PshAckLaw m i (handlePacket cfg draws len m icmp receiver table) ↔ payloadLen m ≤ 127 := by
  have inv := table_inv_reachable cfg table reached
  have chosen : slotFor table (hear m len).peer = some i := by
    rw [← peer]
    exact SlotTable.canonical_choose peerOf isLive table inv.canonical i ((is_live_iff _).mpr (by rw [up]; decide))
  constructor
  · intro law
    by_contra large
    exact psh_ack_law_large wf psh draws table i chosen cfg icmp receiver (by omega) short law
  · intro small
    exact psh_ack_law_small wf psh draws table i chosen cfg icmp receiver data small up

theorem psh_ack_law_visitor :
    PshAckLaw (visitorText 24).buffer 0 (handlePacket soloConfig [] 64 (visitorText 24).buffer ⟨1, 0⟩ 0 visited) := by
  have len := visitor_text_len 24 (by decide)
  exact (psh_ack_law_iff soloConfig [] 64 (visitorText 24).buffer ⟨1, 0⟩ 0 visited visited_reachable 0 (by decide +kernel)
    (by decide +kernel) (visitor_text_well_formed 24 (by decide)) (by decide +kernel) (by omega)
    (by rw [len]; decide)).mpr (by rw [len]; decide)

def longText : Reception := (visitor 101 778 24 (List.replicate 128 65)).arrival []

theorem long_text_breaks_law : Reachable soloConfig visited ∧ (visited 0).connectionStatus = 1 ∧
    peerOf (visited 0) = (hear longText.buffer longText.len).peer ∧ WellFormed longText.buffer longText.len ∧
    controlBits longText.buffer = 24 ∧ payloadLen longText.buffer = 128 ∧
    ¬ PshAckLaw longText.buffer 0 (handlePacket soloConfig [] longText.len longText.buffer ⟨1, 0⟩ 0 visited) := by
  have wf : WellFormed longText.buffer longText.len :=
    arrival_well_formed _ [] (by decide) (show (2 : UInt8) ≤ 64 by decide) (by simp [visitor])
  have len : payloadLen longText.buffer = 128 := (arrival_payload_len _ [] (by decide)).trans (by simp [visitor])
  have psh : controlBits longText.buffer = 24 := by decide +kernel
  refine ⟨visited_reachable, by decide +kernel, by decide +kernel, wf, psh, len, ?_⟩
  exact psh_ack_law_large wf psh [] visited 0 (by decide +kernel) soloConfig ⟨1, 0⟩ 0 (by rw [len]; decide)
    (by decide +kernel)

end OsiStack
