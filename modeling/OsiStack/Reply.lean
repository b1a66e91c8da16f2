import OsiStack.Packet
import OsiStack.Slots

set_option autoImplicit false

namespace OsiStack

open Octets

section
variable (m : Memory) (octets : Int8) (offset : UInt8) (table : Table) (id : Fin tcpConnectionLimit)
variable (draws : List UInt32) (bits : UInt8) (flag : Bool) (headerLen : Nat)

theorem acknowledge_octet (i : Nat) (apart : i < 38 ∨ 46 ≤ i) : acknowledge m octets i = m i := by
  simp (disch := first | (simp; done) | (simp; omega)) [acknowledge]

theorem handle_ack_frame (live : (table id).connectionStatus ≠ 0) :
    (handleAck m octets table id headerLen).frame = acknowledge m octets := by
  simp only [handleAck, if_neg live]
  split_ifs <;> rfl

theorem handle_fin_ack_frame : (handleFinAck m offset table id false).frame = acknowledgeFin m offset := by
  simp only [handleFinAck, Bool.false_eq_true, if_false]
  split <;> rfl

theorem handle_tcp_payload_octet (i : Nat) (apart : i < 16 ∨ 18 ≤ i ∧ i < 34 ∨ 48 ≤ i) :
    (handleTcpPayload m octets offset table id draws bits flag headerLen).frame i = m i := by
  rw [handle_tcp_payload_kind]
  cases kindOf bits with
  | syn => simp (disch := first | (simp; done) | (simp; omega)) [handleSyn]
  | ack =>
      have same := acknowledge_octet m octets i (by omega)
      simp only [handleAck]
      split_ifs <;> simp [same]
  | pshAck =>
      have same := acknowledge_octet m octets i (by omega)
      simp (disch := first | (simp; done) | (simp; omega)) [handlePshAck, same]
  | finAck =>
      cases flag with
      | true => simp (disch := first | (simp; done) | (simp; omega)) [handleFinAck]
      | false => simp (disch := first | (simp; done) | (simp; omega)) [handle_fin_ack_frame, acknowledgeFin]
  | other => rfl

end

theorem finish_tcp_octet (out : TcpOutcome) (segmentLen octets : UInt16) (i : Nat)
    (apart : i < 18 ∨ 20 ≤ i ∧ i < 22 ∨ 23 ≤ i ∧ i < 26 ∨ 34 ≤ i ∧ i < 50 ∨ 52 ≤ i) :
    finishTcp out segmentLen octets false i = out.frame i := by
  simp (disch := first | (simp; done) | (simp; omega)) [finishTcp, readdress]

theorem finish_tcp_again_octet (out : TcpOutcome) (segmentLen octets : UInt16) (i : Nat)
    (apart : i < 18 ∨ 20 ≤ i ∧ i < 50 ∨ 52 ≤ i) : finishTcp out segmentLen octets true i = out.frame i := by
  simp (disch := first | (simp; done) | (simp; omega)) [finishTcp, readdress]

theorem seal_frame_octet (m : Memory) (len : Nat) (flag : Bool) (i : Nat) (apart : i < 24 ∨ 26 ≤ i)
    (inside : i < (sealFrame m len flag).len - 4) : (sealFrame m len flag).frame i = m i := by
  refine (store_outside _ _ _ _ (Or.inl inside)).trans ?_
  by_cases ttl : i = 22
  · subst ttl
    simp
  · simp (disch := first | (simp; done) | (simp; omega))

theorem seal_frame_len (m : Memory) (len : Nat) (flag : Bool) :
    (sealFrame m len flag).len = if IpHeader.protocol m = 6 ∧ ¬ flag then len + 4 else len := by
  simp [sealFrame]

theorem link_header_octet (cfg : Network) (m : Memory) (destAddr : Option MacAddr) (transmitter : Nat) (flag : Bool)
    (i : Nat) (apart : 12 ≤ i) : linkHeader cfg m destAddr transmitter flag i = m i := by
  unfold linkHeader
  split_ifs
  · rfl
  · simp (disch := first | (simp; done) | (simp; omega))
  · cases destAddr <;> simp (disch := first | (simp; done) | (simp; omega))

theorem encapsulation_octet (cfg : Network) (m : Memory) (len : Nat) (destAddr : Option MacAddr) (icmp : Icmp)
    (transmitter : Nat) (flag : Bool) (i : Nat) (apart : 12 ≤ i ∧ i < 24 ∨ 26 ≤ i)
    (inside : i < (encapsulation cfg m len destAddr icmp false transmitter flag).len - 4) :
    (encapsulation cfg m len destAddr icmp false transmitter flag).frame i = m i := by
  simp only [encapsulation, Bool.false_eq_true, if_false] at inside ⊢
  rw [seal_frame_octet _ len flag i (by omega) inside, link_header_octet cfg m destAddr transmitter flag i (by omega)]

theorem encapsulation_len (cfg : Network) (m : Memory) (len : Nat) (destAddr : Option MacAddr) (icmp : Icmp)
    (transmitter : Nat) (flag : Bool) :
    (encapsulation cfg m len destAddr icmp false transmitter flag).len =
      if IpHeader.protocol m = 6 ∧ ¬ flag then len + 4 else len := by
  simp only [encapsulation, Bool.false_eq_true, if_false, seal_frame_len]
  rw [IpHeader.protocol, link_header_octet cfg m destAddr transmitter flag 23 (by omega)]

theorem handle_icmp_protocol (cfg : Network) (m : Memory) (icmp : Icmp) (transmitter : Nat) :
    IpHeader.protocol (handleIcmp cfg m icmp transmitter) = 1 := by
  simp [handleIcmp, icmpMessage]

theorem handle_icmp_dest_addr (cfg : Network) (m : Memory) (icmp : Icmp) (transmitter : Nat) :
    IpHeader.destAddr (handleIcmp cfg m icmp transmitter) = IpHeader.srcAddr m := by
  simp [handleIcmp, icmpMessage]

def turnedBack (cfg : Network) (m : Memory) (transmitter : Nat) : Memory :=
  FrameFields.setSrcAddr (FrameFields.setDestAddr m (FrameFields.srcAddr m)) (interfaceAt cfg transmitter).macAddr

theorem turned_back_src_addr (cfg : Network) (m : Memory) (transmitter : Nat) :
    IpHeader.srcAddr (turnedBack cfg m transmitter) = IpHeader.srcAddr m := by
  simp [turnedBack]

section
variable (cfg : Network) (m : Memory) (len : Nat) (destAddr : Option MacAddr) (icmp : Icmp) (transmitter : Nat) (flag : Bool)

theorem encapsulation_error_len : (encapsulation cfg m len destAddr icmp true transmitter flag).len = 74 := by
  have protocol := handle_icmp_protocol cfg (turnedBack cfg m transmitter) icmp transmitter
  rw [turnedBack] at protocol
  simp [encapsulation, seal_frame_len, protocol]

theorem encapsulation_error_octet (k : Nat) (apart : k < 24 ∨ 26 ≤ k) (inside : k < 70) :
    (encapsulation cfg m len destAddr icmp true transmitter flag).frame k =
      handleIcmp cfg (turnedBack cfg m transmitter) icmp transmitter k := by
  have size := encapsulation_error_len cfg m len destAddr icmp transmitter flag
  simp only [encapsulation, if_true] at size ⊢
  exact seal_frame_octet _ 74 flag k apart (by omega)

-- A TCP frame is turned back too; its second transmission keeps its addresses.
theorem encapsulation_tcp_octet (tcp : IpHeader.protocol m = 6) (k : Nat) (apart : k < 24 ∨ 26 ≤ k) (inside : k < len) :
    (encapsulation cfg m len destAddr icmp false transmitter false).frame k = turnedBack cfg m transmitter k := by
  have size := encapsulation_len cfg m len destAddr icmp transmitter false
  rw [if_pos ⟨tcp, by simp⟩] at size
  simp only [encapsulation, Bool.false_eq_true, if_false] at size ⊢
  rw [seal_frame_octet _ len false k apart (by omega)]
  simp [linkHeader, tcp, turnedBack]

theorem encapsulation_again_octet (k : Nat) (apart : k < 24 ∨ 26 ≤ k) (inside : k < len - 4) :
    (encapsulation cfg m len destAddr icmp false transmitter true).frame k = m k := by
  have size := encapsulation_len cfg m len destAddr icmp transmitter true
  rw [if_neg (by simp)] at size
  simp only [encapsulation, Bool.false_eq_true, if_false] at size ⊢
  rw [seal_frame_octet _ len true k apart (by omega)]
  simp [linkHeader]

theorem encapsulation_error :
    IpHeader.protocol (encapsulation cfg m len destAddr icmp true transmitter flag).frame = 1 ∧
      (encapsulation cfg m len destAddr icmp true transmitter flag).len = 74 := by
  refine ⟨?_, encapsulation_error_len cfg m len destAddr icmp transmitter flag⟩
  rw [IpHeader.protocol, encapsulation_error_octet cfg m len destAddr icmp transmitter flag 23 (by omega) (by omega)]
  exact handle_icmp_protocol cfg _ icmp transmitter

end

theorem refusal_none (m : Memory) : refusal m = none ↔ IpHeader.destAddr m = tcpIp ∧ ntohs (Tcp.destPort m) = hostTcpPort := by
  unfold refusal
  by_cases addr : IpHeader.destAddr m = tcpIp
  · by_cases port : ntohs (Tcp.destPort m) = hostTcpPort <;> simp [addr, port]
  · simp [addr]

def addressee (m : Memory) : Peer := (IpHeader.destAddr m, ntohs (Tcp.destPort m))

theorem addressee_congr (m m' : Memory) (same : ∀ i, 30 ≤ i → i < 38 → m i = m' i) : addressee m = addressee m' := by
  have addr : IpHeader.destAddr m = IpHeader.destAddr m' :=
    load_octets_congr m m' 30 4 fun i low high => same i low (by omega)
  have port : Tcp.destPort m = Tcp.destPort m' := load16_congr m m' 36 fun i low high => same i (by omega) (by omega)
  rw [addressee, addressee, addr, port]

section
variable (draws : List UInt32) (len : Nat) (m : Memory) (table : Table)

theorem handle_tcp_refused (notice : Notice) (refused : refusal m = some notice) :
    handleTcp draws len m table false = ⟨tcpNone, m, table, [], [notice]⟩ := by
  simp [handleTcp, refused]

theorem handle_tcp_full (heard : refusal m = none)
    (full : slotFor table (hear m len).peer = none) :
    handleTcp draws len m table false = ⟨tcpNone, m, table, [], checksumNotices m len ++ [.connectionLimit]⟩ := by
  rw [← tcp_slot_refines] at full
  simp only [hear_peer] at full
  simp [handleTcp, heard, full]

def firstPayload (i : Fin tcpConnectionLimit) : TcpOutcome :=
  handleTcpPayload m (hear m len).octets (dataOffset m) table i draws (controlBits m) false (tcpHeaderLen m).toNat

theorem handle_tcp_heard (i : Fin tcpConnectionLimit) (heard : refusal m = none)
    (chosen : slotFor table (hear m len).peer = some i) :
    handleTcp draws len m table false =
      { firstPayload draws len m table i with
        frame := finishTcp (firstPayload draws len m table i) (tcpSegmentLen m len) (dataOctets m len) false
        notices := checksumNotices m len ++ (firstPayload draws len m table i).notices } := by
  rw [← tcp_slot_refines] at chosen
  simp only [hear_peer] at chosen
  simp only [handleTcp, heard, chosen, Bool.false_eq_true, if_false]
  rfl

theorem first_payload_refines (i : Fin tcpConnectionLimit) :
    (firstPayload draws len m table i).table = Function.update table i ((hear m len).apply (table i)) ∧
      (firstPayload draws len m table i).status = (hear m len).status (table i) :=
  handle_tcp_payload_refines m len (dataOffset m) table i draws (tcpHeaderLen m).toNat

theorem second_pass_table : (handleTcp draws len m table true).table = closeAt table (addressee m) := by
  rw [closeAt, ← tcp_slot_refines]
  simp only [handleTcp, addressee, if_true]
  cases tcpSlot table (IpHeader.destAddr m) (ntohs (Tcp.destPort m)) with
  | none => rfl
  | some j => rfl

end

theorem finish_tcp_addressee (out : TcpOutcome) (segmentLen octets : UInt16) :
    addressee (finishTcp out segmentLen octets false) = (IpHeader.srcAddr out.frame, ntohs (Tcp.destPort out.frame)) := by
  simp [finishTcp, readdress, addressee]

theorem payload_dest_port (m : Memory) (octets : Int8) (offset : UInt8) (table : Table) (id : Fin tcpConnectionLimit)
    (draws : List UInt32) (bits : UInt8) (headerLen : Nat)
    (answers : kindOf bits = .syn ∨ kindOf bits = .pshAck ∨ kindOf bits = .finAck) :
    Tcp.destPort (handleTcpPayload m octets offset table id draws bits false headerLen).frame = Tcp.srcPort m := by
  rw [handle_tcp_payload_kind]
  rcases answers with kind | kind | kind
  · simp [kind, handleSyn]
  · simp [kind, handlePshAck, acknowledge]
  · simp [kind, handle_fin_ack_frame, acknowledgeFin]

theorem payload_src_addr (m : Memory) (octets : Int8) (offset : UInt8) (table : Table) (id : Fin tcpConnectionLimit)
    (draws : List UInt32) (bits : UInt8) (flag : Bool) (headerLen : Nat) :
    IpHeader.srcAddr (handleTcpPayload m octets offset table id draws bits flag headerLen).frame = IpHeader.srcAddr m := by
  apply load_octets_congr
  intro i low high
  exact handle_tcp_payload_octet m octets offset table id draws bits flag headerLen i (by omega)

theorem first_pass_addressee (draws : List UInt32) (len : Nat) (m : Memory) (table : Table) (i : Fin tcpConnectionLimit)
    (heard : refusal m = none) (chosen : slotFor table (hear m len).peer = some i)
    (answers : (hear m len).kind = .syn ∨ (hear m len).kind = .pshAck ∨ (hear m len).kind = .finAck) :
    addressee (handleTcp draws len m table false).frame = (hear m len).peer := by
  rw [handle_tcp_heard draws len m table i heard chosen]
  simp only [finish_tcp_addressee, firstPayload, payload_src_addr, hear_peer]
  rw [payload_dest_port _ _ _ _ _ _ _ _ answers]

end OsiStack
