import OsiStack.Agreement
import OsiStack.Console
import OsiStack.TcpChecksum
import OsiStack.ErrorReport

set_option autoImplicit false

namespace OsiStack

open Octets

def Reception.octets (r : Reception) : List UInt8 := fetch r.buffer 0 r.len

structure SameOutcome (n : Nat) (out out' : TcpOutcome) : Prop where
  status : out.status = out'.status
  frame : Agree n out.frame out'.frame
  table : out.table = out'.table
  console : out.console = out'.console
  notices : out.notices = out'.notices

theorem agree_checksum (n : Nat) (m m' : Memory) (same : Agree n m m') (tcpLen : UInt16) (inside : 34 + tcpLen.toNat ≤ n) :
    calculateTcpChecksum m tcpLen = calculateTcpChecksum m' tcpLen :=
  tcp_checksum_congr m m' tcpLen fun i _ high => same i (by omega)

theorem segment_len_toNat (m : Memory) (len : Nat) (long : 34 ≤ len) (short : len < 65536) :
    (tcpSegmentLen m len).toNat = len - 34 := by
  rw [tcp_segment_len m len long]
  exact UInt16.toNat_ofNat_of_lt' (Nat.lt_of_le_of_lt (Nat.sub_le len 34) short)

theorem positive_octets (m : Memory) (len : Nat) (positive : 1 ≤ (hear m len).octets.toInt) :
    34 + 4 * (dataOffset m).toNat + (hear m len).octets.toInt.toNat ≤ len := by
  have four := data_offset_lt m
  have count := octets_toInt m len
  rw [Int.bmod_def] at count
  split at count <;> omega

theorem bare_len (m : Memory) (len : Nat) : tcpSegmentLen m len - dataOctets m len = (tcpHeaderLen m).toUInt16 := by
  rw [tcpSegmentLen, UInt16.add_sub_cancel]

section
variable (draws : List UInt32) (len : Nat) (m : Memory) (table : Table) (i : Fin tcpConnectionLimit)

theorem first_payload_console_frame : (firstPayload draws len m table i).console =
    fetch (firstPayload draws len m table i).frame (34 + (tcpHeaderLen m).toNat) ((hear m len).printed (table i)) := by
  have kindEq : (hear m len).kind = kindOf (controlBits m) := rfl
  rw [firstPayload, handle_tcp_payload_kind, Heard.printed, kindEq]
  cases kindOf (controlBits m) with
  | syn => rfl
  | ack =>
      simp only [handleAck, recordNumbers, writeOut]
      by_cases dead : (table i).connectionStatus = 0
      · simp [dead]
      · by_cases up : (table i).connectionStatus = 1
        · by_cases data : 0 < (hear m len).octets.toInt
          · simp [up, data]
          · have nothing : (hear m len).octets.toInt.toNat = 0 := by omega
            simp [up, data, nothing]
        · by_cases half : (table i).connectionStatus = 2 <;> simp [dead, up, half]
  | pshAck => exact (fetch_store_outside _ _ _ 16 _ (by simp; omega)).symm
  | finAck =>
      simp only [handleFinAck, Bool.false_eq_true, if_false]
      split <;> rfl
  | other => rfl

theorem printed_inside (conn : TcpConnection) : (hear m len).printed conn = 0 ∨
    34 + (tcpHeaderLen m).toNat + (hear m len).printed conn ≤ len := by
  have header := tcp_header_len_toNat m
  by_cases positive : 1 ≤ (hear m len).octets.toInt
  · have inside := positive_octets m len positive
    unfold Heard.printed
    cases (hear m len).kind with
    | ack =>
        dsimp only
        split <;> omega
    | pshAck => exact Or.inr (by dsimp only; omega)
    | syn => exact Or.inl rfl
    | finAck => exact Or.inl rfl
    | other => exact Or.inl rfl
  · have nothing : (hear m len).octets.toInt.toNat = 0 := by omega
    unfold Heard.printed
    cases (hear m len).kind with
    | ack => exact Or.inl (by simp [nothing])
    | pshAck => exact Or.inl nothing
    | syn => exact Or.inl rfl
    | finAck => exact Or.inl rfl
    | other => exact Or.inl rfl

theorem first_payload_notices : (firstPayload draws len m table i).notices =
    if kindOf (controlBits m) = .other ∧ controlBits m ≠ 18 then [.unsupportedFlag (controlBits m)] else [] := by
  rw [firstPayload, handle_tcp_payload_kind]
  cases kindOf (controlBits m) with
  | ack =>
      simp only [handleAck]
      split_ifs <;> simp_all
  | finAck =>
      simp only [handleFinAck, Bool.false_eq_true, if_false]
      split <;> simp
  | other => by_cases both : controlBits m = 18 <;> simp [both]
  | syn => simp [handleSyn]
  | pshAck => simp [handlePshAck]

variable (n : Nat) (m' : Memory) (same : Agree n m m') (header : 48 ≤ n) (whole : len ≤ n)
include same header whole

omit whole in
theorem hear_same : hear m' len = hear m len := by
  have octets : (hear m' len).octets = (hear m len).octets := by
    simp only [hear, dataOctets, tcpHeaderLen, data_offset_agree n m m' same header]
  have heard := hear_agree n m m' same header len len
  rw [octets] at heard
  exact heard

theorem first_payload_same : SameOutcome n (firstPayload draws len m table i) (firstPayload draws len m' table i) := by
  have heard := hear_same len m n m' same header
  obtain ⟨rewritten, status⟩ := first_payload_refines draws len m table i
  obtain ⟨rewritten', status'⟩ := first_payload_refines draws len m' table i
  have offset := data_offset_agree n m m' same header
  have bits := control_bits_agree n m m' same header
  have frame := first_payload_agree n m m' same header table draws len len i (Or.inl (congrArg Heard.octets heard))
  refine ⟨?_, frame, ?_, ?_, ?_⟩
  · rw [status, status', heard]
  · rw [rewritten, rewritten', heard]
  · rw [first_payload_console_frame, first_payload_console_frame, heard, tcpHeaderLen, tcpHeaderLen, ← offset]
    rcases printed_inside len m (table i) with nothing | inside
    · rw [nothing, fetch_zero, fetch_zero]
    · exact agree_fetch n _ _ frame _ _ (by rw [tcpHeaderLen] at inside; omega)
  · rw [first_payload_notices, first_payload_notices, ← bits]

end

theorem finish_tcp_same (n : Nat) (header : 48 ≤ n) (out out' : TcpOutcome) (same : Agree n out.frame out'.frame)
    (status : out.status = out'.status) (segmentLen octets : UInt16) (flag : Bool) (whole : 34 + segmentLen.toNat ≤ n)
    (bare : 1 ≤ out.status → 34 + (segmentLen - octets).toNat ≤ n) :
    Agree n (finishTcp out segmentLen octets flag) (finishTcp out' segmentLen octets flag) := by
  have before := readdress_agree n _ _ same header flag
  simp only [finishTcp, ← status]
  by_cases payload : 1 ≤ out.status
  · rw [if_pos payload, agree_checksum n _ _ before _ (bare payload)]
    exact agree_store n _ _ before 50 _
  · rw [if_neg payload, agree_checksum n _ _ before _ whole]
    exact agree_store n _ _ before 50 _

theorem payload_status (h : Heard) (conn : TcpConnection) (payload : 1 ≤ h.status conn) : h.octets.toInt = h.status conn := by
  unfold Heard.status at payload ⊢
  cases kind : h.kind with
  | pshAck => rfl
  | syn => simp [kind, tcpReg] at payload
  | ack =>
      simp only [kind, tcpReg, tcpNone] at payload
      split at payload <;> omega
  | finAck =>
      simp only [kind, tcpFinAck] at payload
      split at payload <;> omega
  | other => simp [kind, tcpNone] at payload

theorem bare_inside (m : Memory) (len : Nat) (conn : TcpConnection) (payload : 1 ≤ (hear m len).status conn) :
    34 + (tcpSegmentLen m len - dataOctets m len).toNat ≤ len := by
  have count := payload_status (hear m len) conn payload
  have inside := positive_octets m len (by omega)
  have header := tcp_header_len_toNat m
  rw [bare_len, UInt8.toNat_toUInt16]
  omega

section
variable (draws : List UInt32) (len n : Nat) (m m' : Memory) (table : Table) (same : Agree n m m') (header : 48 ≤ n)
variable (long : 34 ≤ len) (short : len < 65536) (whole : len ≤ n)
include same header long short whole

theorem lengths_same : dataOctets m' len = dataOctets m len ∧ tcpSegmentLen m' len = tcpSegmentLen m len ∧
    checksumNotices m' len = checksumNotices m len := by
  have offset := data_offset_agree n m m' same header
  have segment := segment_len_toNat m len long short
  have octets : dataOctets m' len = dataOctets m len := by
    rw [dataOctets, dataOctets, tcpHeaderLen, tcpHeaderLen, offset]
  have segments : tcpSegmentLen m' len = tcpSegmentLen m len := by
    rw [tcpSegmentLen, tcpSegmentLen, octets, tcpHeaderLen, tcpHeaderLen, offset]
  refine ⟨octets, segments, ?_⟩
  rw [checksumNotices, checksumNotices, segments, agree_checksum n m m' same _ (by omega)]

theorem handle_tcp_first_same :
    SameOutcome n (handleTcp draws len m table false) (handleTcp draws len m' table false) := by
  have heard := hear_same len m n m' same header
  have segment := segment_len_toNat m len long short
  obtain ⟨octets, segments, verdict⟩ := lengths_same len n m m' same header long short whole
  have refused := refusal_agree n m m' same header
  cases outcome : refusal m with
  | some notice =>
      rw [outcome] at refused
      rw [handle_tcp_refused draws len m table notice outcome, handle_tcp_refused draws len m' table notice refused.symm]
      exact ⟨rfl, same, rfl, rfl, rfl⟩
  | none =>
      rw [outcome] at refused
      cases chosen : slotFor table (hear m len).peer with
      | none =>
          have chosen' : slotFor table (hear m' len).peer = none := by rw [heard]; exact chosen
          rw [handle_tcp_full draws len m table outcome chosen, handle_tcp_full draws len m' table refused.symm chosen',
            verdict]
          exact ⟨rfl, same, rfl, rfl, rfl⟩
      | some i =>
          have chosen' : slotFor table (hear m' len).peer = some i := by rw [heard]; exact chosen
          have payload := first_payload_same draws len m table i n m' same header whole
          have status := (first_payload_refines draws len m table i).2
          rw [handle_tcp_heard draws len m table i outcome chosen, handle_tcp_heard draws len m' table i refused.symm chosen',
            verdict, octets, segments]
          refine ⟨payload.status, ?_, payload.table, payload.console, ?_⟩
          · refine finish_tcp_same n header _ _ payload.frame payload.status _ _ false (by omega) fun positive => ?_
            rw [status] at positive
            have bare := bare_inside m len (table i) positive
            omega
          · exact congrArg (checksumNotices m len ++ ·) payload.notices

theorem handle_tcp_again_same :
    SameOutcome n (handleTcp draws len m table true) (handleTcp draws len m' table true) := by
  have offset := data_offset_agree n m m' same header
  have segment := segment_len_toNat m len long short
  obtain ⟨octets, segments, -⟩ := lengths_same len n m m' same header long short whole
  have addr : IpHeader.destAddr m' = IpHeader.destAddr m := (agree_load_octets n m m' same 30 4 (by omega)).symm
  have port : Tcp.destPort m' = Tcp.destPort m := (agree_load16 n m m' same 36 (by omega)).symm
  simp only [handleTcp, if_true, addr, port, octets, segments, ← offset]
  cases tcpSlot table (IpHeader.destAddr m) (ntohs (Tcp.destPort m)) with
  | none => exact ⟨rfl, same, rfl, rfl, rfl⟩
  | some j =>
      have closes (m : Memory) (octets : Int8) (offset : UInt8) (headerLen : Nat) :
          handleTcpPayload m octets offset table j draws 17 true headerLen = handleFinAck m offset table j true := by
        rw [handle_tcp_payload_kind]
        rfl
      simp only [closes]
      generalize dataOffset m = offset
      have frame : Agree n (handleFinAck m offset table j true).frame (handleFinAck m' offset table j true).frame :=
        agree_store n m m' same 46 _
      have status : (handleFinAck m offset table j true).status = tcpReg := rfl
      refine ⟨rfl, ?_, rfl, rfl, rfl⟩
      refine finish_tcp_same n header _ _ frame rfl _ _ true (by omega) fun positive => ?_
      rw [status] at positive
      exact absurd positive (by decide)

end

structure SameEncapsulated (n : Nat) (out out' : Encapsulated) : Prop where
  len : out.len = out'.len
  kept : Agree n out.frame out'.frame
  sent : Agree out.len out.frame out'.frame

def headerSummed (m : Memory) : Memory :=
  let m1 := store (IpHeader.setTtl m (IpHeader.ttl m)) 24 [0, 0]
  store16 m1 24 (htons (ipChecksum (fetch m1 14 20)))

theorem seal_frame_summed (m : Memory) (len : Nat) (flag : Bool) : (sealFrame m len flag).frame =
    store32 (headerSummed m) ((sealFrame m len flag).len - 4)
      (crc32 0 (fetch (headerSummed m) 0 ((sealFrame m len flag).len - 4))) := rfl

theorem header_summed_same (n : Nat) (m m' : Memory) (same : Agree n m m') (header : 34 ≤ n) :
    Agree n (headerSummed m) (headerSummed m') := by
  have ttl : IpHeader.ttl m = IpHeader.ttl m' := same 22 (by omega)
  have blank : Agree n (store (IpHeader.setTtl m (IpHeader.ttl m)) 24 [0, 0])
      (store (IpHeader.setTtl m' (IpHeader.ttl m')) 24 [0, 0]) := by
    rw [ttl]
    exact agree_store n _ _ (agree_store n m m' same 22 _) 24 _
  have sum := agree_fetch n _ _ blank 14 20 (by omega)
  simp only [headerSummed, sum]
  exact agree_store n _ _ blank 24 _

theorem seal_frame_same (n : Nat) (m m' : Memory) (same : Agree n m m') (header : 34 ≤ n) (len : Nat) (flag : Bool)
    (inside : (sealFrame m len flag).len ≤ n + 4) : SameEncapsulated n (sealFrame m len flag) (sealFrame m' len flag) := by
  have protocol : IpHeader.protocol m = IpHeader.protocol m' := same 23 (by omega)
  have size : (sealFrame m len flag).len = (sealFrame m' len flag).len := by
    rw [seal_frame_len, seal_frame_len, protocol]
  have summed := header_summed_same n m m' same header
  have covered := agree_fetch n _ _ summed 0 ((sealFrame m len flag).len - 4) (by omega)
  refine ⟨size, ?_, ?_⟩
  · rw [seal_frame_summed, seal_frame_summed, ← size, covered]
    exact agree_store n _ _ summed _ _
  · rw [seal_frame_summed m' len flag, seal_frame_summed m len flag, ← size, covered]
    have before := agree_mono n _ _ summed ((sealFrame m len flag).len - 4) (by omega)
    have behind := agree_extend _ _ _ before ((sealFrame m len flag).len - 4)
      (bytes32 (crc32 0 (fetch (headerSummed m') 0 ((sealFrame m len flag).len - 4)))) (Nat.le_refl _)
    exact agree_mono _ _ _ behind _ (by rw [bytes32_length]; omega)

theorem link_header_same (cfg : Network) (n : Nat) (m m' : Memory) (same : Agree n m m') (header : 34 ≤ n)
    (destAddr : Option MacAddr) (transmitter : Nat) (flag : Bool) :
    Agree n (linkHeader cfg m destAddr transmitter flag) (linkHeader cfg m' destAddr transmitter flag) := by
  have protocol : IpHeader.protocol m = IpHeader.protocol m' := same 23 (by omega)
  have src : FrameFields.srcAddr m = FrameFields.srcAddr m' := agree_load_octets n m m' same 6 6 (by omega)
  simp only [linkHeader, protocol, src]
  split
  · exact same
  · split
    · repeat apply agree_store
      exact same
    · cases destAddr with
      | none => exact agree_store n m m' same 6 _
      | some mac =>
          repeat apply agree_store
          exact same

theorem handle_icmp_behind (cfg : Network) (m : Memory) (icmp : Icmp) (transmitter k : Nat) (behind : 70 ≤ k) :
    handleIcmp cfg m icmp transmitter k = m k := by
  simp (disch := first | (simp; done) | (simp; omega)) [handleIcmp, icmpMessage]

-- Only an ICMP error reads the ICMP type and code, and it quotes no more than the
-- first 42 octets.
theorem encapsulation_same (cfg : Network) (n : Nat) (m m' : Memory) (same : Agree n m m') (header : 48 ≤ n) (len : Nat)
    (destAddr : Option MacAddr) (icmp icmp' : Icmp) (error : Bool) (set : error = true → icmp = icmp') (transmitter : Nat)
    (flag : Bool) (inside : error = false → (encapsulation cfg m len destAddr icmp error transmitter flag).len ≤ n + 4) :
    SameEncapsulated n (encapsulation cfg m len destAddr icmp error transmitter flag)
      (encapsulation cfg m' len destAddr icmp' error transmitter flag) := by
  cases error with
  | true =>
      have size := encapsulation_error_len cfg m len destAddr icmp transmitter flag
      obtain rfl := set rfl
      have turned : Agree n (turnedBack cfg m transmitter) (turnedBack cfg m' transmitter) := by
        have src := agree_load_octets n m m' same 6 6 (by omega)
        simp only [turnedBack, FrameFields.srcAddr, src]
        repeat apply agree_store
        exact same
      have quoted := handle_icmp_agree cfg _ _ (agree_mono n _ _ turned 48 header) icmp transmitter
      have message : Agree (max n 70) (handleIcmp cfg (turnedBack cfg m transmitter) icmp transmitter)
          (handleIcmp cfg (turnedBack cfg m' transmitter) icmp transmitter) := by
        intro k bound
        by_cases quote : k < 70
        · exact quoted k quote
        · rw [handle_icmp_behind cfg _ icmp transmitter k (by omega), handle_icmp_behind cfg _ icmp transmitter k (by omega)]
          exact turned k (by omega)
      simp only [encapsulation, if_true] at size ⊢
      obtain ⟨len', kept, sent⟩ := seal_frame_same (max n 70) _ _ message (by omega) 74 flag (by
        rw [turnedBack, size]
        omega)
      exact ⟨len', agree_mono _ _ _ kept n (by omega), sent⟩
  | false =>
      simp only [encapsulation, Bool.false_eq_true, if_false] at inside ⊢
      exact seal_frame_same n _ _ (link_header_same cfg n m m' same (by omega) destAddr transmitter flag) (by omega) len flag
        (inside trivial)

theorem send_same (n interface : Nat) (out out' : Encapsulated) (same : SameEncapsulated n out out') :
    sendEthernetFrame interface out.frame out.len = sendEthernetFrame interface out'.frame out'.len := by
  rw [sendEthernetFrame, sendEthernetFrame, ← same.len]
  exact congrArg _ (agree_fetch _ _ _ same.sent 0 _ (by rw [Nat.zero_add]; exact Nat.mod_le _ _))

structure SameRouting (n : Nat) (r r' : Routing) : Prop where
  frame : Agree n r.frame r'.frame
  error : r.error = r'.error
  icmp : r.error = true → r.icmp = r'.icmp
  transmitter : r.transmitter = r'.transmitter
  finalDestAddr : r.finalDestAddr = r'.finalDestAddr

section
variable (cfg : Network) (draws : List UInt32) (n len : Nat) (r r' : Routing) (table : Table) (same : SameRouting n r r')
variable (header : 48 ≤ n) (long : 34 ≤ len) (short : len < 65000) (whole : len ≤ n)
include same header long short whole

omit long short in
theorem sealed_same (m m' : Memory) (frames : Agree n m m') (currLen : Nat) (flag : Bool)
    (less : r.error = false → currLen ≤ len ∨ currLen ≤ len + 4 ∧ flag = true) :
    SameEncapsulated n (encapsulation cfg m currLen r.finalDestAddr r.icmp r.error r.transmitter flag)
      (encapsulation cfg m' currLen r'.finalDestAddr r'.icmp r'.error r'.transmitter flag) := by
  rw [← same.finalDestAddr, ← same.error, ← same.transmitter]
  refine encapsulation_same cfg n m m' frames header currLen _ _ _ _ same.icmp _ flag fun noError => ?_
  rw [noError, encapsulation_len]
  rcases less noError with less | ⟨less, again⟩
  · split <;> omega
  · rw [if_neg (by simp [again])]
    omega

theorem handle_tcp_packet_same : handleTcpPacket cfg draws len r table = handleTcpPacket cfg draws len r' table := by
  have first := handle_tcp_first_same draws len n r.frame r'.frame table same.frame header long (by omega) whole
  have sealing (currLen : Nat) (less : currLen ≤ len) :=
    sealed_same cfg n len r r' same header whole _ _ first.frame currLen false fun _ => Or.inl less
  have sent (currLen : Nat) (less : currLen ≤ len) := send_same n r.transmitter _ _ (sealing currLen less)
  unfold handleTcpPacket
  simp only [← first.status, ← first.table, ← first.console, ← first.notices]
  by_cases payload : 1 ≤ (handleTcp draws len r.frame table false).status
  · simp only [if_pos payload]
    rw [sent _ (Nat.sub_le _ _), same.transmitter]
  · simp only [if_neg payload]
    by_cases plain : (handleTcp draws len r.frame table false).status = tcpReg ∨
        (handleTcp draws len r.frame table false).status = -2
    · simp only [if_pos plain]
      rw [sent len (Nat.le_refl len), same.transmitter]
    · simp only [if_neg plain]
      by_cases twice : (handleTcp draws len r.frame table false).status = tcpFinAck
      · have one := sealing len (Nat.le_refl len)
        have again := handle_tcp_again_same draws len n _ _ (handleTcp draws len r.frame table false).table
          one.kept header long (by omega) whole
        have two := send_same n r.transmitter _ _ (sealed_same cfg n len r r' same header whole _ _ again.frame
          (encapsulation cfg (handleTcp draws len r.frame table false).frame len r.finalDestAddr r.icmp r.error
            r.transmitter false).len
          true fun noError => Or.inr ⟨by rw [noError, encapsulation_len]; split <;> omega, rfl⟩)
        simp only [if_pos twice, ← again.table, ← again.console, ← again.notices]
        rw [two, sent len (Nat.le_refl len), one.len, same.transmitter]
      · simp only [if_neg twice]

end

section
variable (cfg : Network) (draws : List UInt32) (n len : Nat) (m m' : Memory) (same : Agree n m m') (header : 48 ≤ n)
variable (icmp icmp' : Icmp) (receiver : Nat)
include same header

theorem route_packet_same : SameRouting n (routePacket cfg m icmp receiver) (routePacket cfg m' icmp' receiver) := by
  have dest : IpHeader.destAddr m = IpHeader.destAddr m' := agree_load_octets n m m' same 30 4 (by omega)
  obtain ⟨error, set, transmitter, hop⟩ := route_packet_congr cfg m m' icmp icmp' receiver dest
  refine ⟨?_, error, set, transmitter, hop⟩
  have ttl : IpHeader.ttl m = IpHeader.ttl m' := same 22 (by omega)
  rcases route_packet_cases cfg m icmp receiver with ⟨bad, kept⟩ | ⟨good, one, -⟩
  · rcases route_packet_cases cfg m' icmp' receiver with ⟨-, kept'⟩ | ⟨good', -⟩
    · rw [kept, kept']
      exact same
    · rw [bad, good'] at error
      cases error
  · rcases route_packet_cases cfg m' icmp' receiver with ⟨bad', -⟩ | ⟨-, one', -⟩
    · rw [good, bad'] at error
      cases error
    · rw [one, one', ttl]
      exact agree_store n m m' same 22 _

theorem packet_routing_same : SameRouting n (packetRouting cfg m icmp receiver) (packetRouting cfg m' icmp' receiver) := by
  have dest : IpHeader.destAddr m = IpHeader.destAddr m' := agree_load_octets n m m' same 30 4 (by omega)
  have src : FrameFields.srcAddr m = FrameFields.srcAddr m' := agree_load_octets n m m' same 6 6 (by omega)
  have ttl : IpHeader.ttl m = IpHeader.ttl m' := same 22 (by omega)
  simp only [packetRouting, dest, src, ttl]
  by_cases expired : IpHeader.ttl m' = 1
  · simp only [expired, decide_true, if_true]
    split
    · exact ⟨same, rfl, fun _ => rfl, rfl, rfl⟩
    · exact ⟨same, rfl, fun _ => rfl, rfl, rfl⟩
  · simp only [expired, decide_false, Bool.false_eq_true, if_false]
    split
    · exact ⟨same, rfl, fun set => Bool.noConfusion set, rfl, rfl⟩
    · exact route_packet_same cfg n m m' same header icmp icmp' receiver

theorem handle_packet_same (table : Table) (long : 34 ≤ len) (short : len < 65000) (whole : len ≤ n) :
    handlePacket cfg draws len m icmp receiver table = handlePacket cfg draws len m' icmp' receiver table := by
  have total : IpHeader.totalLength m = IpHeader.totalLength m' := agree_load16 n m m' same 16 (by omega)
  have dest : IpHeader.destAddr m = IpHeader.destAddr m' := agree_load_octets n m m' same 30 4 (by omega)
  have ttl : IpHeader.ttl m = IpHeader.ttl m' := same 22 (by omega)
  have protocol : IpHeader.protocol m = IpHeader.protocol m' := same 23 (by omega)
  have routing := packet_routing_same cfg n m m' same header icmp icmp' receiver
  simp only [handlePacket, total, ttl, dest, protocol]
  generalize packetRouting cfg m icmp receiver = r, packetRouting cfg m' icmp' receiver = r' at routing
  have carried : IpHeader.protocol r.frame = IpHeader.protocol r'.frame := routing.frame 23 (by omega)
  have segment := handle_tcp_packet_same cfg draws n len r r' table routing header long short whole
  have datagram := send_same n r.transmitter _ _ (sealed_same cfg n len r r' routing header whole _ _ routing.frame len false
    fun _ => Or.inl (Nat.le_refl len))
  rw [carried, segment, datagram, routing.transmitter]

theorem handle_arp_same (long : 64 ≤ len) (whole : len ≤ n) : handleArp cfg m len = handleArp cfg m' len := by
  have opcode : Arp.opcode m = Arp.opcode m' := agree_load16 n m m' same 20 (by omega)
  have target : Arp.targetIp m = Arp.targetIp m' := agree_load_octets n m m' same 38 4 (by omega)
  have sender : Arp.senderIp m = Arp.senderIp m' := agree_load_octets n m m' same 28 4 (by omega)
  have src : FrameFields.srcAddr m = FrameFields.srcAddr m' := agree_load_octets n m m' same 6 6 (by omega)
  simp (disch := first | (simp; done) | (simp; omega)) only [handleArp, opcode, target, src, load_octets_store_octets,
    load_octets_store_outside, sender]
  split
  · cases isInterface cfg (Arp.targetIp m') with
    | none => rfl
    | some idx =>
        have send (f f' : Memory) (rewritten : Agree n f f') :
            sendEthernetFrame idx (store32 f (len - 4) (crc32 0 (fetch f 0 (len - 4)))) len =
              sendEthernetFrame idx (store32 f' (len - 4) (crc32 0 (fetch f' 0 (len - 4)))) len := by
          have less := Nat.mod_le len 65536
          rw [agree_fetch n f f' rewritten 0 (len - 4) (by omega), sendEthernetFrame, sendEthernetFrame]
          exact congrArg _ (agree_fetch n _ _ (agree_store n f f' rewritten (len - 4) _) 0 _ (by omega))
        refine congrArg (fun s => [s]) (send _ _ ?_)
        repeat apply agree_store
        exact same
  · rfl

end

theorem interface_receiver_same (cfg : Network) (draws : List UInt32) (len : Nat) (m m' : Memory) (same : Agree len m m')
    (icmpCode icmpCode' : Nat) (short : len < 65000) (table : Table) :
    interfaceReceiver cfg len m icmpCode draws table = interfaceReceiver cfg len m' icmpCode' draws table := by
  by_cases long : 64 ≤ len
  · have dest : FrameFields.destAddr m = FrameFields.destAddr m' := agree_load_octets len m m' same 0 6 (by omega)
    have type : FrameFields.type m = FrameFields.type m' := agree_load16 len m m' same 12 (by omega)
    have mine := eth_cmp_agree cfg m m' (agree_mono len m m' same 64 long)
    have arp := handle_arp_same cfg len len m m' same (by omega) long (Nat.le_refl len)
    have packet (receiver : Nat) := handle_packet_same cfg draws len len m m' same (by omega) ⟨1, icmpCode⟩ ⟨1, icmpCode'⟩
      receiver table (by omega) short (Nat.le_refl len)
    simp only [interfaceReceiver, handleFrame, decide_eq_true_eq, dest, type, mine, arp, packet]
  · have invalid : (len : Int) - 14 - 4 < 46 := by omega
    simp [interfaceReceiver, handleFrame, invalid]

theorem receive_octets (cfg : Network) (table : Table) (r : Reception) :
    receive cfg table r = interfaceReceiver cfg r.octets.length (ofList r.octets) 0 r.draws table := by
  have size : r.octets.length = r.len := fetch_length r.buffer 0 r.len
  have high := r.lenHigh
  have same : Agree r.len r.buffer (ofList r.octets) := fun k inside => (of_list_fetch r.buffer r.len k inside).symm
  rw [receive, size]
  exact interface_receiver_same cfg r.draws r.len r.buffer (ofList r.octets) same r.icmpCode 0 (by omega) table

theorem read_octets_decide (cfg : Network) (table : Table) (r r' : Reception) (octets : r.octets = r'.octets)
    (draws : r.draws = r'.draws) : receive cfg table r = receive cfg table r' := by
  rw [receive_octets cfg table r, receive_octets cfg table r', octets, draws]

theorem shortest_low : 4 ≤ 64 := by omega

theorem shortest_high : 64 ≤ 1596 := by omega

def cleanRead : Reception := ⟨0, 64, relayed 1, 0, [], shortest_low, shortest_high⟩

def usedRead : Reception := { cleanRead with buffer := store (relayed 1) 64 (List.replicate 200 170), icmpCode := 7 }

theorem read_octets_decide_used : receive relayConfig zeroTable cleanRead = receive relayConfig zeroTable usedRead :=
  read_octets_decide relayConfig zeroTable cleanRead usedRead
    (fetch_store_outside (relayed 1) 0 64 64 (List.replicate 200 170) (by omega)).symm rfl

end OsiStack
