import OsiStack.Transition

set_option autoImplicit false

namespace OsiStack

open Octets

section
variable (n : Nat) (m m' : Memory) (same : Agree n m m') (header : 48 ≤ n)
include same header

theorem data_offset_agree : dataOffset m = dataOffset m' := by
  rw [dataOffset, dataOffset, Tcp.flag, Tcp.flag, agree_load16 n m m' same 46 (by omega)]

theorem control_bits_agree : controlBits m = controlBits m' := by
  rw [controlBits, controlBits, Tcp.flag, Tcp.flag, agree_load16 n m m' same 46 (by omega)]

theorem refusal_agree : refusal m = refusal m' := by
  rw [refusal, refusal, IpHeader.destAddr, IpHeader.destAddr, Tcp.destPort, Tcp.destPort,
    agree_load_octets n m m' same 30 4 (by omega), agree_load16 n m m' same 36 (by omega)]

theorem hear_agree (len len' : Nat) : hear m' len' = { hear m len with octets := (hear m' len').octets } := by
  simp only [hear, data_offset_agree n m m' same header, control_bits_agree n m m' same header, IpHeader.srcAddr,
    Tcp.srcPort, FrameFields.srcAddr, Tcp.seqNumber, Tcp.ackNumber, IpHeader.totalLength,
    agree_load_octets n m m' same 26 4 (by omega), agree_load16 n m m' same 34 (by omega),
    agree_load_octets n m m' same 6 6 (by omega), agree_load32 n m m' same 38 (by omega),
    agree_load32 n m m' same 42 (by omega), agree_load16 n m m' same 16 (by omega)]

theorem acknowledge_agree (octets : Int8) : Agree n (acknowledge m octets) (acknowledge m' octets) := by
  have seq := agree_load32 n m m' same 38 (by omega)
  have ack := agree_load32 n m m' same 42 (by omega)
  simp only [acknowledge, Tcp.seqNumber, Tcp.ackNumber, seq, ack]
  repeat apply agree_store
  exact same

theorem acknowledge_fin_agree (offset : UInt8) : Agree n (acknowledgeFin m offset) (acknowledgeFin m' offset) := by
  have seq := agree_load32 n m m' same 38 (by omega)
  have ack := agree_load32 n m m' same 42 (by omega)
  have port := agree_load16 n m m' same 34 (by omega)
  simp [acknowledgeFin, seq, ack, port]
  repeat apply agree_store
  exact same

theorem handle_syn_agree (offset : UInt8) (table : Table) (id : Fin tcpConnectionLimit) (draws : List UInt32) :
    Agree n (handleSyn m offset table id draws).frame (handleSyn m' offset table id draws).frame := by
  have seq := agree_load32 n m m' same 38 (by omega)
  have port := agree_load16 n m m' same 34 (by omega)
  simp [handleSyn, seq, port]
  repeat apply agree_store
  exact same

variable (octets : Int8) (offset : UInt8) (table : Table) (id : Fin tcpConnectionLimit) (headerLen : Nat)

theorem handle_ack_agree : Agree n (handleAck m octets table id headerLen).frame
    (handleAck m' octets table id headerLen).frame := by
  by_cases dead : (table id).connectionStatus = 0
  · simpa [handleAck, dead] using same
  · rw [handle_ack_frame m octets table id headerLen dead, handle_ack_frame m' octets table id headerLen dead]
    exact acknowledge_agree n m m' same header octets

theorem handle_psh_ack_agree : Agree n (handlePshAck m octets offset table id headerLen).frame
    (handlePshAck m' octets offset table id headerLen).frame := by
  have acknowledged := acknowledge_agree n m m' same header octets
  have ports := agree_load16 n _ _ acknowledged 34 (by omega)
  have totals := agree_load16 n _ _ acknowledged 16 (by omega)
  simp [handlePshAck, ports, totals]
  generalize acknowledge m octets = after, acknowledge m' octets = after' at acknowledged ⊢
  repeat apply agree_store
  exact acknowledged

theorem handle_tcp_payload_agree (draws : List UInt32) (bits : UInt8) :
    Agree n (handleTcpPayload m octets offset table id draws bits false headerLen).frame
      (handleTcpPayload m' octets offset table id draws bits false headerLen).frame := by
  rw [handle_tcp_payload_kind, handle_tcp_payload_kind]
  cases kindOf bits with
  | syn => exact handle_syn_agree n m m' same header offset table id draws
  | ack => exact handle_ack_agree n m m' same header octets table id headerLen
  | pshAck => exact handle_psh_ack_agree n m m' same header octets offset table id headerLen
  | finAck =>
      simp only [handle_fin_ack_frame]
      exact acknowledge_fin_agree n m m' same header offset
  | other => exact same

theorem first_payload_agree (draws : List UInt32) (len len' : Nat) (i : Fin tcpConnectionLimit)
    (alike : (hear m' len').octets = (hear m len).octets ∨ (hear m len).kind = .finAck) :
    Agree n (firstPayload draws len m table i).frame (firstPayload draws len' m' table i).frame := by
  rw [firstPayload, firstPayload, tcpHeaderLen, tcpHeaderLen, ← data_offset_agree n m m' same header,
    ← control_bits_agree n m m' same header]
  rcases alike with octets | fin
  · rw [octets]
    exact handle_tcp_payload_agree n m m' same header _ _ table i _ draws _
  · have kind : kindOf (controlBits m) = .finAck := fin
    simp only [handle_tcp_payload_kind, kind, handle_fin_ack_frame]
    exact acknowledge_fin_agree n m m' same header _

end

theorem readdress_agree (n : Nat) (m m' : Memory) (same : Agree n m m') (header : 48 ≤ n) (flag : Bool) :
    Agree n (readdress m flag) (readdress m' flag) := by
  have src := agree_load_octets n m m' same 26 4 (by omega)
  simp only [readdress, IpHeader.srcAddr, src]
  split
  · repeat apply agree_store
    exact same
  · repeat apply agree_store
    exact same

theorem finish_tcp_agree (out out' : TcpOutcome) (same : Agree 48 out.frame out'.frame)
    (segmentLen segmentLen' octets octets' : UInt16) (flag : Bool) :
    Agree 48 (finishTcp out segmentLen octets flag) (finishTcp out' segmentLen' octets' flag) := by
  have before := readdress_agree 48 _ _ same (by omega) flag
  intro k inside
  have kept (m : Memory) (v : UInt16) : Tcp.setChecksum m v k = m k := store_outside m 50 k _ (by omega)
  simp only [finishTcp, kept]
  exact before k inside

theorem icmp_message_agree (cfg : Network) (m m' : Memory) (same : Agree 48 m m') (icmp : Icmp) (transmitter : Nat) :
    Agree 70 (icmpMessage cfg m icmp transmitter) (icmpMessage cfg m' icmp transmitter) := by
  have quoted : Agree 70 (store m 42 (fetch m 14 28)) (store m' 42 (fetch m' 14 28)) := by
    rw [agree_fetch 48 m m' same 14 28 (by omega)]
    exact agree_mono _ _ _ (agree_extend 48 m m' same 42 (fetch m' 14 28) (by omega)) 70 (by simp)
  have src := agree_load_octets 48 m m' same 26 4 (by omega)
  simp [icmpMessage, src]
  repeat apply agree_store
  exact quoted

theorem handle_icmp_agree (cfg : Network) (m m' : Memory) (same : Agree 48 m m') (icmp : Icmp) (transmitter : Nat) :
    Agree 70 (handleIcmp cfg m icmp transmitter) (handleIcmp cfg m' icmp transmitter) := by
  have message := icmp_message_agree cfg m m' same icmp transmitter
  simp only [handleIcmp, agree_fetch 70 _ _ message 34 36 (by omega)]
  exact agree_store _ _ _ (agree_store _ _ _ message _ _) _ _

theorem turned_back_agree (cfg : Network) (m m' : Memory) (same : Agree 48 m m') (transmitter : Nat) :
    Agree 48 (turnedBack cfg m transmitter) (turnedBack cfg m' transmitter) := by
  have src := agree_load_octets 48 m m' same 6 6 (by omega)
  simp only [turnedBack, FrameFields.srcAddr, src]
  repeat apply agree_store
  exact same

-- So the second pass after an ICMP error finds the same addressee in both.
theorem encapsulation_error_agree (cfg : Config) (m m' : Memory) (same : Agree 48 m m') (icmp : Icmp) (len len' : Nat)
    (destAddr destAddr' : Option MacAddr) (transmitter : Nat) (flag : Bool) :
    addressee (encapsulation cfg m len destAddr icmp true transmitter flag).frame =
      addressee (encapsulation cfg m' len' destAddr' icmp true transmitter flag).frame := by
  have message := handle_icmp_agree cfg _ _ (turned_back_agree cfg m m' same transmitter) icmp transmitter
  apply addressee_congr
  intro k low high
  rw [encapsulation_error_octet cfg m len destAddr icmp transmitter flag k (by omega) (by omega),
    encapsulation_error_octet cfg m' len' destAddr' icmp transmitter flag k (by omega) (by omega)]
  exact message k (by omega)

theorem first_sent_agree (cfg : Config) (draws : List UInt32) (len len' : Nat) (m m' : Memory) (same : Agree 48 m m')
    (icmp icmp' : Icmp) (receiver : Nat) (table : Table) (i : Fin tcpConnectionLimit) (heard : refusal m = none)
    (chosen : slotFor table (hear m len).peer = some i) (expired : IpHeader.ttl m = 1)
    (alike : (hear m' len').octets = (hear m len).octets ∨ (hear m len).kind = .finAck) :
    addressee (firstSent cfg draws len (localRouting m icmp receiver) table len).frame =
      addressee (firstSent cfg draws len' (localRouting m' icmp' receiver) table len').frame := by
  have heard' : refusal m' = none := (refusal_agree 48 m m' same (by omega)).symm.trans heard
  have expired' : IpHeader.ttl m' = 1 := (same 22 (by omega)).symm.trans expired
  have peer : (hear m' len').peer = (hear m len).peer := by rw [hear_agree 48 m m' same (by omega) len len']
  have payload := first_payload_agree 48 m m' same (by omega) table draws len len' i alike
  simp only [firstSent, localRouting, expired, expired', decide_true, if_true,
    handle_tcp_heard draws len m table i heard chosen,
    handle_tcp_heard draws len' m' table i heard' (by rw [peer]; exact chosen)]
  exact encapsulation_error_agree cfg _ _ (finish_tcp_agree _ _ payload _ _ _ _ false) _ len len' _ _ receiver false

theorem eth_cmp_agree (cfg : Network) (m m' : Memory) (same : Agree 64 m m') : ethCmp cfg m = ethCmp cfg m' := by
  rw [ethCmp, ethCmp, FrameFields.destAddr, FrameFields.destAddr, agree_load_octets 64 m m' same 0 6 (by omega)]

theorem accepted_agree (cfg : Config) (r r' : Reception) (same : Agree 64 r.buffer r'.buffer) (long : 64 ≤ r'.len)
    (accepted : Accepted cfg r) : Accepted cfg r' := by
  have type := agree_load16 64 _ _ same 12 (by omega)
  have total := agree_load16 64 _ _ same 16 (by omega)
  have dest := agree_load_octets 64 _ _ same 0 6 (by omega)
  exact
    { long := long
      unicast := fun broadcast => accepted.unicast (dest.trans broadcast)
      forMe := by rw [← eth_cmp_agree cfg _ _ same]; exact accepted.forMe
      ipv4 := by rw [FrameFields.type, ← type]; exact accepted.ipv4
      filled := by rw [IpHeader.totalLength, ← total]; exact accepted.filled
      alive := fun dead => accepted.alive ((same 22 (by omega)).trans dead)
      tcp := (same 23 (by omega)).symm.trans accepted.tcp
      heard := by rw [← refusal_agree 64 _ _ same (by omega)]; exact accepted.heard }

end OsiStack
