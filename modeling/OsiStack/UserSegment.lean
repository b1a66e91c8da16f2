import OsiStack.InternetChecksum
import OsiStack.Sealing
import OsiStack.Transition

set_option autoImplicit false

namespace OsiStack

open Octets

section
variable (buffer : List UInt8) (table : Table) {mac : MacAddr} {ip : IpAddr} (i : Fin tcpConnectionLimit) (finFlag : Bool)

theorem create_tcp_segment_size :
    (createTcpSegment buffer table mac ip i finFlag).frameSize = 58 + if finFlag then 0 else buffer.length := by
  simp only [createTcpSegment]
  omega

theorem segment_header_read (conn : TcpConnection) (trueLen : Nat) :
    readHeader (segmentHeader conn mac ip trueLen finFlag) =
      ⟨ip, conn.hostIpAddr, hostTcpPort, conn.port, conn.currSeq, conn.nextSeq, 5, if finFlag then 0x11 else 0x18,
        UInt16.ofNat (40 + trueLen)⟩ := by
  cases finFlag with
  | true =>
      have offset := flag_word_offset 5 0x11 (by decide) (by decide)
      have bits := flag_word_bits 5 0x11 (by decide) (by decide)
      simp [readHeader, segmentHeader, dataOffset, controlBits] at offset bits ⊢
      exact ⟨offset, bits⟩
  | false =>
      have offset := flag_word_offset 5 0x18 (by decide) (by decide)
      have bits := flag_word_bits 5 0x18 (by decide) (by decide)
      simp [readHeader, segmentHeader, dataOffset, controlBits] at offset bits ⊢
      exact ⟨offset, bits⟩

theorem create_tcp_segment_octet (k : Nat) (inside : k < 24 ∨ 26 ≤ k ∧ k < 50) :
    (createTcpSegment buffer table mac ip i finFlag).frame k =
      segmentHeader (table i) mac ip (if finFlag then 0 else buffer.length) finFlag k := by
  simp (disch := first | (simp; done) | (simp; omega)) [createTcpSegment]

-- The frame as it is sent: whatever the slot holds at that moment is in it.
theorem send_segment_header (fits : buffer.length ≤ 1023) :
    readHeader (ofList (sendSegment 0 (createTcpSegment buffer table tcpMac tcpIp i finFlag)).frame) =
      ⟨tcpIp, (table i).hostIpAddr, hostTcpPort, (table i).port, (table i).currSeq, (table i).nextSeq, 5,
        if finFlag then 0x11 else 0x18, UInt16.ofNat (40 + if finFlag then 0 else buffer.length)⟩ := by
  have size : (createTcpSegment buffer table tcpMac tcpIp i finFlag).frameSize = _ :=
    create_tcp_segment_size buffer table i finFlag
  have short : (if finFlag then 0 else buffer.length) ≤ 1023 := by split <;> omega
  rw [← segment_header_read finFlag (table i)]
  apply read_header_congr
  intro k inside
  rw [sendSegment, sent_octet _ _ _ k (by omega) (by omega)]
  exact create_tcp_segment_octet buffer table i finFlag k (by omega)

end

structure Encodes (conn : TcpConnection) (mac : MacAddr) (ip : IpAddr) (payload : List UInt8) (bits : UInt8)
    (frame : Memory) (frameSize : Nat) : Prop where
  size : frameSize = 58 + payload.length
  type : ntohs (FrameFields.type frame) = 2048
  destMac : FrameFields.destAddr frame = conn.hostMac
  srcMac : FrameFields.srcAddr frame = mac
  protocol : IpHeader.protocol frame = 6
  header : readHeader frame =
    ⟨ip, conn.hostIpAddr, hostTcpPort, conn.port, conn.currSeq, conn.nextSeq, 5, bits, UInt16.ofNat (40 + payload.length)⟩
  ipVerifies : ipChecksum (fetch frame 14 20) = 0
  tcpVerifies : calculateTcpChecksum frame (UInt16.ofNat (20 + payload.length)) = 0
  checkSequence : load32 frame (54 + payload.length) = crc32 0 (fetch frame 0 (54 + payload.length))
  payload : fetch frame 54 payload.length = payload

def carried (buffer : List UInt8) (finFlag : Bool) : List UInt8 := if finFlag then [] else buffer

def sealSegment (m : Memory) (size : Nat) : Memory :=
  let h1 := IpHeader.setHeaderChecksum m 0
  let h2 := IpHeader.setHeaderChecksum h1 (htons (ipChecksum (fetch h1 14 20)))
  store32 h2 size (crc32 0 (fetch h2 0 size))

section
variable (m : Memory) (size : Nat)

theorem seal_segment_octet (k : Nat) (before : k < size) (apart : k < 24 ∨ 26 ≤ k) : sealSegment m size k = m k := by
  simp (disch := first | (simp; done) | (simp; omega)) [sealSegment]

theorem seal_segment_header (room : 34 ≤ size) : ipChecksum (fetch (sealSegment m size) 14 20) = 0 := by
  have blank : fetch (IpHeader.setHeaderChecksum m 0) (14 + 10) 2 = [0, 0] := fetch_store_same m 24 2 (bytes16 0) rfl
  rw [← ip_checksum_store (IpHeader.setHeaderChecksum m 0) 14 20 10 (by omega) blank (by omega)]
  congr 1
  exact fetch_store_outside _ 14 20 size _ (by omega)

theorem seal_segment_check_sequence : load32 (sealSegment m size) size = crc32 0 (fetch (sealSegment m size) 0 size) := by
  rw [sealSegment, load32_store32, fetch_store_outside _ 0 size size _ (by omega)]

end

section
variable (buffer : List UInt8) (table : Table) (mac : MacAddr) (ip : IpAddr) (i : Fin tcpConnectionLimit) (finFlag : Bool)

def segmentBody : Memory :=
  store (segmentHeader (table i) mac ip (carried buffer finFlag).length finFlag) 54 (carried buffer finFlag)

theorem create_tcp_segment_frame : (createTcpSegment buffer table mac ip i finFlag).frame =
    sealSegment (fillTcpChecksum (segmentBody buffer table mac ip i finFlag)
      (UInt16.ofNat (20 + (carried buffer finFlag).length))) (54 + (carried buffer finFlag).length) := by
  cases finFlag with
  | true => rfl
  | false =>
      have whole : buffer.take buffer.length = buffer := List.take_length
      simp only [createTcpSegment, segmentBody, sealSegment, fillTcpChecksum, carried, Bool.false_eq_true, if_false, whole]
      have sizes : 14 + 20 + 20 + buffer.length + 4 - 4 = 54 + buffer.length := by omega
      rw [sizes]

theorem create_tcp_segment_outside (k : Nat) (inside : k < 54 + (carried buffer finFlag).length)
    (apart : (k < 24 ∨ 26 ≤ k) ∧ (k < 50 ∨ 52 ≤ k)) : (createTcpSegment buffer table mac ip i finFlag).frame k =
      segmentBody buffer table mac ip i finFlag k := by
  rw [create_tcp_segment_frame, seal_segment_octet _ _ k inside apart.1]
  simp (disch := first | (simp; done) | (simp; omega)) [fillTcpChecksum]

theorem create_tcp_segment_tcp_verifies (fits : (carried buffer finFlag).length ≤ 1023) :
    calculateTcpChecksum (createTcpSegment buffer table mac ip i finFlag).frame
      (UInt16.ofNat (20 + (carried buffer finFlag).length)) = 0 := by
  have value : (UInt16.ofNat (20 + (carried buffer finFlag).length)).toNat = 20 + (carried buffer finFlag).length := by
    rw [UInt16.toNat_ofNat']
    omega
  rw [← stored_tcp_checksum_verifies (segmentBody buffer table mac ip i finFlag) _ (by rw [value]; omega),
    create_tcp_segment_frame]
  apply tcp_checksum_congr
  intro k low high
  exact seal_segment_octet _ _ k (by omega) (by omega)

theorem create_tcp_segment_payload : fetch (createTcpSegment buffer table mac ip i finFlag).frame 54
    (carried buffer finFlag).length = carried buffer finFlag := by
  have kept : fetch (segmentBody buffer table mac ip i finFlag) 54 (carried buffer finFlag).length =
      carried buffer finFlag := fetch_store_same _ 54 _ _ rfl
  conv_rhs => rw [← kept]
  apply fetch_congr
  intro k low high
  exact create_tcp_segment_outside buffer table mac ip i finFlag k high (by omega)

theorem create_tcp_segment_encodes (fits : (carried buffer finFlag).length ≤ 1023) :
    Encodes (table i) mac ip (carried buffer finFlag) (if finFlag then 0x11 else 0x18)
      (createTcpSegment buffer table mac ip i finFlag).frame (createTcpSegment buffer table mac ip i finFlag).frameSize := by
  have header (k : Nat) (inside : k < 24 ∨ 26 ≤ k ∧ k < 50) : (createTcpSegment buffer table mac ip i finFlag).frame k = _ :=
    create_tcp_segment_octet buffer table i finFlag k inside
  constructor
  · rw [create_tcp_segment_size]
    cases finFlag <;> rfl
  · rw [FrameFields.type, load16_congr _ _ 12 fun k low high => header k (by omega)]
    simp [segmentHeader]
  · rw [FrameFields.destAddr, load_octets_congr _ _ 0 6 fun k low high => header k (by omega)]
    simp [segmentHeader]
  · rw [FrameFields.srcAddr, load_octets_congr _ _ 6 6 fun k low high => header k (by omega)]
    simp [segmentHeader]
  · rw [IpHeader.protocol, header 23 (by omega)]
    simp [segmentHeader]
  · have lengths : (carried buffer finFlag).length = if finFlag then 0 else buffer.length := by cases finFlag <;> rfl
    rw [lengths, ← segment_header_read finFlag (table i)]
    exact read_header_congr _ _ fun k inside => header k (by omega)
  · rw [create_tcp_segment_frame]
    exact seal_segment_header _ _ (by omega)
  · exact create_tcp_segment_tcp_verifies buffer table mac ip i finFlag fits
  · rw [create_tcp_segment_frame]
    exact seal_segment_check_sequence _ _
  · exact create_tcp_segment_payload buffer table mac ip i finFlag

theorem create_tcp_segment_advance (sends : finFlag = true ∨ 0 < buffer.length) :
    (createTcpSegment buffer table mac ip i finFlag).table = Function.update table i { table i with
      currSeq := (table i).currSeq + UInt32.ofNat (if finFlag then 1 else buffer.length)
      connectionStatus := if finFlag then 0 else (table i).connectionStatus } := by
  cases finFlag with
  | true => rfl
  | false =>
      have filled : 0 < buffer.length := by simpa using sends
      simp [createTcpSegment, Nat.ne_of_gt filled]

theorem create_tcp_segment_decodes (sends : finFlag = true ∨ 1 ≤ buffer.length ∧ buffer.length ≤ 1023) :
    let segment := createTcpSegment buffer table mac ip i finFlag
    Encodes (table i) mac ip (carried buffer finFlag) (if finFlag then 0x11 else 0x18) segment.frame segment.frameSize ∧
    segment.table = Function.update table i { table i with
      currSeq := (table i).currSeq + UInt32.ofNat (if finFlag then 1 else buffer.length)
      connectionStatus := if finFlag then 0 else (table i).connectionStatus } := by
  have fits : (carried buffer finFlag).length ≤ 1023 := by
    rcases sends with fin | filled
    · simp [carried, fin]
    · cases finFlag <;> simp [carried, filled.2]
  exact ⟨create_tcp_segment_encodes buffer table mac ip i finFlag fits,
    create_tcp_segment_advance buffer table mac ip i finFlag (sends.imp_right fun filled => filled.1)⟩

end

theorem create_tcp_segment_decodes_hi :
    let segment := createTcpSegment [104, 105] zeroTable tcpMac tcpIp 3 false
    Encodes (zeroTable 3) tcpMac tcpIp (carried [104, 105] false) (if false then 0x11 else 0x18) segment.frame
      segment.frameSize ∧
    segment.table = Function.update zeroTable 3 { zeroTable 3 with
      currSeq := (zeroTable 3).currSeq + UInt32.ofNat (if false then 1 else [(104 : UInt8), 105].length)
      connectionStatus := if false then 0 else (zeroTable 3).connectionStatus } :=
  create_tcp_segment_decodes [104, 105] zeroTable tcpMac tcpIp 3 false (by decide)

end OsiStack
