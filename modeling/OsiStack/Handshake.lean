import OsiStack.Isolation

set_option autoImplicit false

namespace OsiStack

open Octets PeerSegment

structure ControlReply (m : Memory) (bits : UInt8) (frame : List UInt8) : Prop where
  bits : controlBits (ofList frame) = bits
  ack : ntohl (Tcp.ackNumber (ofList frame)) = ntohl (Tcp.seqNumber m) + 1
  destMac : FrameFields.destAddr (ofList frame) = FrameFields.srcAddr m
  srcMac : FrameFields.srcAddr (ofList frame) = FrameFields.destAddr m
  destAddr : IpHeader.destAddr (ofList frame) = IpHeader.srcAddr m
  srcAddr : IpHeader.srcAddr (ofList frame) = IpHeader.destAddr m
  destPort : ntohs (Tcp.destPort (ofList frame)) = ntohs (Tcp.srcPort m)
  srcPort : ntohs (Tcp.srcPort (ofList frame)) = ntohs (Tcp.destPort m)
  totalLength : IpHeader.totalLength (ofList frame) = IpHeader.totalLength m
  size : frame.length = 18 + (ntohs (IpHeader.totalLength m)).toNat
  header : ipChecksum (fetch (ofList frame) 14 20) = 0
  segment : calculateTcpChecksum (ofList frame) (UInt16.ofNat ((ntohs (IpHeader.totalLength m)).toNat - 20)) = 0
  accepted : ∀ cfg, (handleFrame cfg frame.length (ofList frame)).checkSumMatch = true ∧
    (handleFrame cfg frame.length (ofList frame)).validLength = true

structure ClosingReply (m : Memory) (bits : UInt8) (frame : List UInt8) : Prop extends ControlReply m bits frame where
  seq : ntohl (Tcp.seqNumber (ofList frame)) = ntohl (Tcp.ackNumber m)

def OpeningAnswered (m : Memory) (receiver : Nat) (sent : List Sent) : Prop :=
  ∃ s, sent = [s] ∧ s.interface = receiver ∧ ControlReply m 0x12 s.frame

-- The answer to a FIN/ACK on a dead slot is an ACK, on a live one also a FIN/ACK.
def StrayClosingAnswered (m : Memory) (receiver : Nat) (sent : List Sent) : Prop :=
  ∃ s, sent = [s] ∧ s.interface = receiver ∧ ClosingReply m 0x10 s.frame

def ClosingAnswered (m : Memory) (receiver : Nat) (sent : List Sent) : Prop :=
  ∃ s s', sent = [s, s'] ∧ s.interface = receiver ∧ s'.interface = receiver ∧ ClosingReply m 0x10 s.frame ∧
    ClosingReply m 0x11 s'.frame

section
variable (draws : List UInt32) (len : Nat) (m : Memory) (table : Table) (i : Fin tcpConnectionLimit)
variable (long : 54 ≤ len) (short : len < 65000)
include long short

theorem first_pass_verifies (heard : refusal m = none) (chosen : slotFor table (hear m len).peer = some i)
    (bare : (hear m len).status (table i) < 1) :
    calculateTcpChecksum (handleTcp draws len m table false).frame (UInt16.ofNat (len - 34)) = 0 := by
  have status := (first_payload_refines draws len m table i).2
  rw [handle_tcp_heard draws len m table i heard chosen]
  apply finish_tcp_verifies
  · rw [status, if_neg (by omega), tcp_segment_len m len (by omega)]
  · rw [UInt16.toNat_ofNat']
    omega

theorem second_pass_verifies (chosen : slotFor table (addressee m) = some i) :
    calculateTcpChecksum (handleTcp draws len m table true).frame (UInt16.ofNat (len - 34)) = 0 := by
  rw [handle_tcp_again draws len m table i chosen]
  apply finish_tcp_verifies
  · rw [if_neg (by simp [handleFinAck, tcpReg]), tcp_segment_len m len (by omega)]
  · rw [UInt16.toNat_ofNat']
    omega

end

section
variable (cfg : Network) (draws : List UInt32) (len : Nat) (r : Routing) (table : Table) (i : Fin tcpConnectionLimit)
variable (wf : WellFormed r.frame len) (chosen : slotFor table (hear r.frame len).peer = some i)
variable (noError : r.error = false) (long : 64 ≤ len) (short : len ≤ 1596)
variable (mine : (interfaceAt cfg r.transmitter).macAddr = FrameFields.destAddr r.frame)
variable (control : (hear r.frame len).kind = .syn ∨ (hear r.frame len).kind = .finAck)

include control in
theorem control_numbers : (hear r.frame len).removed = 0 ∧ (hear r.frame len).nextSeq = (hear r.frame len).seq + 1 := by
  rcases control with syn | fin
  · simp [Heard.removed, Heard.nextSeq, syn]
  · simp [Heard.removed, Heard.nextSeq, fin]

include control in
theorem control_flags : (hear r.frame len).status (table i) < 1 ∧ (hear r.frame len).flags (table i) ≠ [] := by
  rcases control with syn | fin
  · simp [Heard.status, Heard.flags, syn, tcpReg]
  · by_cases dead : (table i).connectionStatus = 0 <;> simp [Heard.status, Heard.flags, fin, dead, tcpFinAck]

include wf long short mine control

theorem control_reply (e : Encapsulated) (bits : UInt8)
    (answer : Answers (hear r.frame len) draws len r (emit r e) bits) (whole : Sealed (emit r e).frame)
    (link : FrameFields.destAddr (ofList (emit r e).frame) = FrameFields.srcAddr r.frame ∧
      FrameFields.srcAddr (ofList (emit r e).frame) = (interfaceAt cfg r.transmitter).macAddr)
    (sum : calculateTcpChecksum (ofList (emit r e).frame) (UInt16.ofNat (len - 34)) = 0) :
    ControlReply r.frame bits (emit r e).frame := by
  obtain ⟨nothing, next⟩ := control_numbers len r control
  have size := answer.size
  rw [nothing] at size
  have header := answer.header (by omega)
  have total := congrArg Header.totalLength header
  have lenEq := wf.size
  have swapped : (hear r.frame len).kind ≠ .ack := by rcases control with kind | kind <;> rw [kind] <;> decide
  have kept : (hear r.frame len).kind ≠ .pshAck := by rcases control with kind | kind <;> rw [kind] <;> decide
  refine ⟨congrArg Header.bits header, ?_, link.1, link.2.trans mine, congrArg Header.destAddr header, ?_, ?_, ?_,
    ?_, by omega, whole.header, ?_, fun other => ⟨check_sequence_match other _ whole.checkSequence, ?_⟩⟩
  · exact (congrArg Header.ack header).trans next
  · exact (congrArg Header.srcAddr header).trans wf.destAddr.symm
  · refine (congrArg Header.destPort header).trans ?_
    simp [Heard.reply, swapped]
  · refine (congrArg Header.srcPort header).trans ?_
    rw [wf.destPort]
    simp [Heard.reply, swapped]
  · simp only [readHeader, Heard.reply, if_neg kept, hear_total_length] at total
    rw [← ntohs_ntohs (IpHeader.totalLength (ofList (emit r e).frame)), total, ntohs_ntohs]
  · rw [← sum]
    congr 2
    omega
  · rw [handleFrame, decide_eq_true_iff]
    omega

include chosen noError

theorem first_control_reply :
    ControlReply r.frame ((hear r.frame len).reply draws).bits (emit r (firstSent cfg draws len r table len)).frame := by
  obtain ⟨nothing, -⟩ := control_numbers len r control
  obtain ⟨bare, answered⟩ := control_flags len r table i control
  have answer := first_sent_answers cfg draws len r table i wf.heard chosen wf.tcp noError (by omega) (by omega) answered
  rw [nothing, Nat.sub_zero] at answer
  have size := first_sent_len cfg draws len r table i wf.heard chosen wf.tcp noError len
  have octet (k : Nat) (inside : k < len) :
      ofList (emit r (firstSent cfg draws len r table len)).frame k = (firstSent cfg draws len r table len).frame k :=
    sent_octet _ _ _ k (by omega) (by omega)
  obtain ⟨dest, source⟩ := first_sent_link cfg draws len r table i wf.heard chosen wf.tcp noError len (by omega)
  apply control_reply cfg draws len r wf long short mine control _ _ answer
    (first_sent_sealed cfg draws len r table i wf.heard chosen wf.tcp len (by omega) (by omega))
  · rw [← dest, ← source]
    exact ⟨load_octets_congr _ _ 0 6 fun k _ _ => octet k (by omega),
      load_octets_congr _ _ 6 6 fun k _ _ => octet k (by omega)⟩
  · rw [← first_pass_verifies draws len r.frame table i (by omega) (by omega) wf.heard chosen bare]
    apply tcp_checksum_congr
    intro k low high
    rw [UInt16.toNat_ofNat'] at high
    rw [octet k (by omega)]
    exact first_sent_octet cfg draws len r table i wf.heard chosen wf.tcp noError len k (Or.inr low) (by omega)

theorem second_control_reply (closing : (hear r.frame len).status (table i) = tcpFinAck) :
    ControlReply r.frame 0x11 (emit r (secondSent cfg draws len r table)).frame := by
  have answer := second_sent_answers cfg draws len r table i wf.heard chosen wf.tcp noError (by omega) (by omega) closing
  have again := second_pass_slot cfg draws len r table i wf.heard chosen noError (by omega) (by omega) closing
  have size := second_sent_len cfg draws len r table i wf.heard chosen wf.tcp noError
  have octet (k : Nat) (apart : k < 24 ∨ 26 ≤ k) (inside : k < len) :
      ofList (emit r (secondSent cfg draws len r table)).frame k =
        (handleTcp draws len (firstSent cfg draws len r table len).frame
        (handleTcp draws len r.frame table false).table true).frame k := by
    rw [emit, sent_octet _ _ _ k (by omega) (by omega)]
    exact second_sent_octet cfg draws len r table i wf.heard chosen wf.tcp noError k apart inside
  obtain ⟨dest, source⟩ := first_sent_link cfg draws len r table i wf.heard chosen wf.tcp noError len (by omega)
  apply control_reply cfg draws len r wf long short mine control _ _ answer
    (second_sent_sealed cfg draws len r table i wf.heard chosen wf.tcp (by omega) (by omega))
  · have kept (k : Nat) (inside : k < 12) : ofList (emit r (secondSent cfg draws len r table)).frame k =
        (firstSent cfg draws len r table len).frame k := by
      rw [octet k (by omega) (by omega), again_octet draws len _ _ i again k (by omega)]
    rw [← dest, ← source]
    exact ⟨load_octets_congr _ _ 0 6 fun k _ _ => kept k (by omega), load_octets_congr _ _ 6 6 fun k _ _ => kept k (by omega)⟩
  · rw [← second_pass_verifies draws len (firstSent cfg draws len r table len).frame
      (handleTcp draws len r.frame table false).table i (by omega) (by omega) again]
    apply tcp_checksum_congr
    intro k low high
    rw [UInt16.toNat_ofNat'] at high
    exact octet k (Or.inr low) (by omega)

end

theorem closing_reply (draws : List UInt32) (len : Nat) (r : Routing) (long : 64 ≤ len)
    (fin : (hear r.frame len).kind = .finAck) (s : Sent) (bits : UInt8)
    (answer : Answers (hear r.frame len) draws len r s bits)
    (reply : ControlReply r.frame bits s.frame) : ClosingReply r.frame bits s.frame := by
  have nothing := (control_numbers len r (Or.inr fin)).1
  have size := answer.size
  have header := answer.header (by omega)
  refine ⟨reply, (congrArg Header.seq header).trans ?_⟩
  have later : (hear r.frame len).kind ≠ .syn := by rw [fin]; decide
  simp only [Heard.reply, if_neg later]
  rfl

section
variable (cfg : Network) (draws : List UInt32) (len : Nat) (r : Routing) (table : Table) (i : Fin tcpConnectionLimit)
variable (wf : WellFormed r.frame len) (chosen : slotFor table (hear r.frame len).peer = some i)
variable (noError : r.error = false) (long : 64 ≤ len) (short : len ≤ 1596)
variable (mine : (interfaceAt cfg r.transmitter).macAddr = FrameFields.destAddr r.frame)
include wf chosen noError long short mine

theorem opening_answered (syn : (hear r.frame len).kind = .syn) :
    OpeningAnswered r.frame r.transmitter (handleTcpPacket cfg draws len r table).sent := by
  have status := handle_tcp_first_status draws len r.frame table i wf.heard chosen
  have reg : (hear r.frame len).status (table i) = tcpReg := by rw [Heard.status, syn]
  have reply := first_control_reply cfg draws len r table i wf chosen noError long short mine (Or.inl syn)
  have bits : ((hear r.frame len).reply draws).bits = 0x12 := by simp [Heard.reply, syn]
  rw [handle_tcp_packet_sent cfg draws len r table _ (status.trans reg)]
  rw [bits] at reply
  exact ⟨_, rfl, rfl, reply⟩

theorem stray_closing_answered (fin : (hear r.frame len).kind = .finAck) (dead : (table i).connectionStatus = 0) :
    StrayClosingAnswered r.frame r.transmitter (handleTcpPacket cfg draws len r table).sent := by
  have status := handle_tcp_first_status draws len r.frame table i wf.heard chosen
  have code : (hear r.frame len).status (table i) = -2 := by simp [Heard.status, fin, dead]
  have reply := first_control_reply cfg draws len r table i wf chosen noError long short mine (Or.inr fin)
  have bits : ((hear r.frame len).reply draws).bits = 0x10 := by simp [Heard.reply, fin]
  have answers := handle_tcp_packet_answers cfg draws len r table i wf.heard chosen wf.tcp noError (by omega) (by omega)
  have flags : (hear r.frame len).flags (table i) = [0x10] := by simp [Heard.flags, fin, dead]
  rw [flags, handle_tcp_packet_sent cfg draws len r table _ (status.trans code)] at answers
  rw [handle_tcp_packet_sent cfg draws len r table _ (status.trans code)]
  rw [bits] at reply
  cases answers with
  | cons answer _ => exact ⟨_, rfl, rfl, closing_reply draws len r long fin _ _ answer reply⟩

theorem closing_answered (fin : (hear r.frame len).kind = .finAck) (live : (table i).connectionStatus ≠ 0) :
    ClosingAnswered r.frame r.transmitter (handleTcpPacket cfg draws len r table).sent ∧
      ((handleTcpPacket cfg draws len r table).table i).connectionStatus = 0 := by
  have status := handle_tcp_first_status draws len r.frame table i wf.heard chosen
  have closing : (hear r.frame len).status (table i) = tcpFinAck := by simp [Heard.status, fin, live]
  have reply := first_control_reply cfg draws len r table i wf chosen noError long short mine (Or.inr fin)
  have again := second_control_reply cfg draws len r table i wf chosen noError long short mine (Or.inr fin) closing
  have bits : ((hear r.frame len).reply draws).bits = 0x10 := by simp [Heard.reply, fin]
  have answers := handle_tcp_packet_answers cfg draws len r table i wf.heard chosen wf.tcp noError (by omega) (by omega)
  have flags : (hear r.frame len).flags (table i) = [0x10, 0x11] := by simp [Heard.flags, fin, live]
  rw [flags, handle_tcp_packet_sent cfg draws len r table _ (status.trans closing)] at answers
  rw [handle_tcp_packet_heard cfg draws len r table i wf.heard chosen (by omega) (Or.inl noError),
    handle_tcp_packet_sent cfg draws len r table _ (status.trans closing)]
  rw [bits] at reply
  refine ⟨?_, by simp [Heard.outcome, closing, Heard.close]⟩
  cases answers with
  | cons first rest =>
      cases rest with
      | cons second _ =>
          exact ⟨_, _, rfl, rfl, rfl, closing_reply draws len r long fin _ _ first reply,
            closing_reply draws len r long fin _ _ second again⟩

end

structure AddressedTo (cfg : Network) (m : Memory) (receiver : Nat) : Prop where
  mine : ∃ iface, cfg.interfaceList[receiver]? = some iface ∧ iface.macAddr = FrameFields.destAddr m
  distinct : cfg.interfaceList.Pairwise fun a b => a.macAddr ≠ b.macAddr
  unicast : ∀ iface ∈ cfg.interfaceList, iface.macAddr ≠ broadcastAddr

def SlotAvailable (table : Table) (peer : Peer) : Prop := ∃ i, peerOf (table i) = peer ∨ (table i).connectionStatus = 0

theorem slot_available (table : Table) (peer : Peer) (available : SlotAvailable table peer) :
    ∃ i, slotFor table peer = some i := by
  unfold slotFor SlotTable.choose
  cases found : SlotTable.lookup peerOf table peer with
  | some i => exact ⟨i, rfl⟩
  | none =>
      have absent := (SlotTable.lookup_none peerOf table peer).mp found
      obtain ⟨i, own | dead⟩ := available
      · exact absurd own (absent i)
      · rw [← Option.ne_none_iff_exists']
        intro full
        exact (is_live_iff _).mp ((SlotTable.space_none isLive table).mp full i) dead

theorem sender_slot_available (table : Table) (peer : Peer) (i : Fin tcpConnectionLimit)
    (chosen : slotFor table peer = some i) : SlotAvailable table peer := by
  rcases sender_slot table peer i chosen with ⟨own, -⟩ | ⟨-, dead, -⟩
  · exact ⟨i, Or.inl own⟩
  · exact ⟨i, Or.inr dead⟩

section
variable (cfg : Config) (table : Table) (len : Nat) (m : Memory) (icmpCode : Nat) (draws : List UInt32) (receiver : Nat)
variable (wf : WellFormed m len) (addressed : AddressedTo cfg m receiver) (long : 64 ≤ len)
include wf addressed long

theorem well_formed_handled : interfaceReceiver cfg len m icmpCode draws table =
    handleTcpPacket cfg draws len (localRouting m ⟨1, icmpCode⟩ receiver) table := by
  obtain ⟨iface, here, mine⟩ := addressed.mine
  have found := eth_cmp_distinct cfg m receiver iface here mine addressed.distinct
  have single : FrameFields.destAddr m ≠ broadcastAddr := by
    rw [← mine]
    exact addressed.unicast iface (List.mem_of_getElem? here)
  rw [interface_receiver_packet cfg len m icmpCode draws table receiver long single found wf.ipv4]
  exact wf.handled cfg draws _ receiver table

end

theorem addressed_mac (cfg : Network) (m : Memory) (receiver : Nat) (addressed : AddressedTo cfg m receiver) :
    (interfaceAt cfg receiver).macAddr = FrameFields.destAddr m := by
  obtain ⟨iface, here, mine⟩ := addressed.mine
  rw [interface_at_get cfg receiver iface here, mine]

theorem handshake_answered (cfg : Config) (table : Table) (reached : Reachable cfg table) (len : Nat) (m : Memory)
    (icmpCode : Nat) (draws : List UInt32) (receiver : Nat) (wf : WellFormed m len) (addressed : AddressedTo cfg m receiver)
    (long : 64 ≤ len) (short : len ≤ 1596) (available : SlotAvailable table (sender m)) :
    let e := interfaceReceiver cfg len m icmpCode draws table
    (controlBits m = 2 → OpeningAnswered m receiver e.sent) ∧
      (controlBits m = 17 → (∀ i, peerOf (table i) = sender m → (table i).connectionStatus = 0) →
        StrayClosingAnswered m receiver e.sent) ∧
      (controlBits m = 17 → ∀ i, peerOf (table i) = sender m → (table i).connectionStatus ≠ 0 →
        ClosingAnswered m receiver e.sent ∧ (e.table i).connectionStatus = 0) := by
  obtain ⟨i, chosen⟩ := slot_available table (sender m) available
  have noError := wf.routed ⟨1, icmpCode⟩ receiver
  have mine := addressed_mac cfg m receiver addressed
  rw [well_formed_handled cfg table len m icmpCode draws receiver wf addressed long]
  refine ⟨fun syn => ?_, fun finAck dead => ?_, fun finAck j own live => ?_⟩
  · exact opening_answered cfg draws len _ table i wf chosen noError long short mine ((kind_of_syn _).mpr syn)
  · have closed : (table i).connectionStatus = 0 := by
      by_contra live
      exact live (dead i (SlotTable.choose_live peerOf isLive table _ i chosen ((is_live_iff _).mpr live)).1)
    exact stray_closing_answered cfg draws len _ table i wf chosen noError long short mine
      ((kind_of_fin_ack _).mpr finAck) closed
  · have canonical := (table_inv_reachable cfg table reached).canonical
    have found := SlotTable.canonical_choose peerOf isLive table canonical j ((is_live_iff _).mpr live)
    rw [own] at found
    exact closing_answered cfg draws len _ table j wf found noError long short mine ((kind_of_fin_ack _).mpr finAck) live

theorem visitor_addressed (bits : UInt16) : AddressedTo soloConfig (visitorText bits).buffer 0 where
  mine := ⟨_, rfl, by simp [visitorText, arrival, buffer]⟩
  distinct := List.pairwise_singleton _ _
  unicast := by decide

theorem handshake_answered_fin_ack :
    let e := interfaceReceiver soloConfig (visitorText 17).len (visitorText 17).buffer 0 [] visited
    (controlBits (visitorText 17).buffer = 2 → OpeningAnswered (visitorText 17).buffer 0 e.sent) ∧
      (controlBits (visitorText 17).buffer = 17 →
        (∀ i, peerOf (visited i) = sender (visitorText 17).buffer → (visited i).connectionStatus = 0) →
        StrayClosingAnswered (visitorText 17).buffer 0 e.sent) ∧
      (controlBits (visitorText 17).buffer = 17 → ∀ i, peerOf (visited i) = sender (visitorText 17).buffer →
        (visited i).connectionStatus ≠ 0 →
        ClosingAnswered (visitorText 17).buffer 0 e.sent ∧ (e.table i).connectionStatus = 0) :=
  handshake_answered soloConfig visited visited_reachable (visitorText 17).len (visitorText 17).buffer 0 [] 0
    (visitor_text_well_formed 17 (by decide)) (visitor_addressed 17) (by decide) (by decide) ⟨0, Or.inl (by decide +kernel)⟩

end OsiStack
