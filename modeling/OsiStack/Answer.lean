import OsiStack.TableEffect

set_option autoImplicit false

namespace OsiStack

open Octets

structure Header where
  srcAddr : IpAddr
  destAddr : IpAddr
  srcPort : UInt16
  destPort : UInt16
  seq : UInt32
  ack : UInt32
  offset : UInt8
  bits : UInt8
  totalLength : UInt16
deriving DecidableEq

def readHeader (m : Memory) : Header where
  srcAddr := IpHeader.srcAddr m
  destAddr := IpHeader.destAddr m
  srcPort := ntohs (Tcp.srcPort m)
  destPort := ntohs (Tcp.destPort m)
  seq := ntohl (Tcp.seqNumber m)
  ack := ntohl (Tcp.ackNumber m)
  offset := dataOffset m
  bits := controlBits m
  totalLength := ntohs (IpHeader.totalLength m)

theorem read_header_congr (m m' : Memory) (same : ∀ i, 16 ≤ i ∧ i < 18 ∨ 26 ≤ i ∧ i < 48 → m i = m' i) :
    readHeader m = readHeader m' := by
  have word (off : Nat) (inside : off = 16 ∨ 26 ≤ off ∧ off + 2 ≤ 48) : load16 m off = load16 m' off :=
    load16_congr m m' off fun i low high => same i (by omega)
  have long (off : Nat) (inside : 26 ≤ off ∧ off + 4 ≤ 48) : load32 m off = load32 m' off :=
    load32_congr m m' off fun i low high => same i (by omega)
  have addr (off : Nat) (inside : 26 ≤ off ∧ off + 4 ≤ 48) : loadOctets m off 4 = loadOctets m' off 4 :=
    load_octets_congr m m' off 4 fun i low high => same i (by omega)
  simp only [readHeader, dataOffset, controlBits, word 16 (by omega), word 34 (by omega), word 36 (by omega),
    word 46 (by omega), long 38 (by omega), long 42 (by omega), addr 26 (by omega), addr 30 (by omega)]

theorem flag_word_toNat (offset : UInt8) (bits : UInt16) (four : offset.toNat < 16) (low : bits.toNat < 4096) :
    (flagWord offset bits).toNat = offset.toNat * 4096 + bits.toNat := by
  have shifted : (offset.toUInt16 <<< 12).toNat = offset.toNat <<< 12 := by
    have shift : (12 : UInt16).toNat % 16 = 12 := rfl
    rw [UInt16.toNat_shiftLeft, UInt8.toNat_toUInt16, shift, Nat.shiftLeft_eq]
    omega
  rw [flagWord, UInt16.toNat_or, shifted, ← Nat.shiftLeft_add_eq_or_of_lt low, Nat.shiftLeft_eq]

theorem flag_word_bits (offset : UInt8) (bits : UInt16) (four : offset.toNat < 16) (low : bits.toNat < 64) :
    (flagWord offset bits &&& 0x3F).toUInt8 = bits.toUInt8 := by
  apply UInt8.toNat_inj.mp
  have mask : (flagWord offset bits).toNat &&& 63 = (flagWord offset bits).toNat % 64 :=
    Nat.and_two_pow_sub_one_eq_mod _ 6
  have sixtyThree : (0x3F : UInt16).toNat = 63 := rfl
  rw [UInt16.toNat_toUInt8, UInt16.toNat_and, sixtyThree, mask, flag_word_toNat offset bits four (by omega),
    UInt16.toNat_toUInt8]
  omega

theorem flag_word_offset (offset : UInt8) (bits : UInt16) (four : offset.toNat < 16) (low : bits.toNat < 64) :
    ((flagWord offset bits >>> 12) &&& 0xF).toUInt8 = offset := by
  apply UInt8.toNat_inj.mp
  have mask : (flagWord offset bits >>> 12).toNat &&& 15 = (flagWord offset bits >>> 12).toNat % 16 :=
    Nat.and_two_pow_sub_one_eq_mod _ 4
  have fifteen : (0xF : UInt16).toNat = 15 := rfl
  have shift : (12 : UInt16).toNat % 16 = 12 := rfl
  rw [UInt16.toNat_toUInt8, UInt16.toNat_and, fifteen, mask, UInt16.toNat_shiftRight, shift,
    Nat.shiftRight_eq_div_pow, flag_word_toNat offset bits four (by omega)]
  omega

theorem data_offset_lt (m : Memory) : (dataOffset m).toNat < 16 := by
  have mask : (ntohs (Tcp.flag m) >>> 12).toNat &&& 15 = (ntohs (Tcp.flag m) >>> 12).toNat % 16 :=
    Nat.and_two_pow_sub_one_eq_mod _ 4
  have fifteen : (0xF : UInt16).toNat = 15 := rfl
  rw [dataOffset, UInt16.toNat_toUInt8, UInt16.toNat_and, fifteen, mask]
  omega

theorem tcp_header_len_toNat (m : Memory) : (tcpHeaderLen m).toNat = 4 * (dataOffset m).toNat := by
  have four := data_offset_lt m
  have width : (4 : UInt8).toNat = 4 := rfl
  rw [tcpHeaderLen, UInt8.toNat_mul, width]
  omega

theorem data_octets_toNat (m : Memory) (len : Nat) :
    (dataOctets m len).toNat = (len + 65502 - 4 * (dataOffset m).toNat) % 65536 := by
  have four := data_offset_lt m
  have header := tcp_header_len_toNat m
  have fourteen : (14 : UInt16).toNat = 14 := rfl
  have twenty : (20 : UInt16).toNat = 20 := rfl
  rw [dataOctets, UInt16.toNat_sub, UInt16.toNat_sub, UInt16.toNat_sub, UInt16.toNat_ofNat', UInt8.toNat_toUInt16,
    fourteen, twenty, header]
  omega

theorem to_int8_toInt (x : UInt16) : x.toUInt8.toInt8.toInt = (x.toNat : Int).bmod 256 := by
  have word : x.toUInt8.toInt8.toInt = (x.toUInt8.toNat : Int).bmod 256 := BitVec.toInt_eq_toNat_bmod x.toUInt8.toBitVec
  rw [word, UInt16.toNat_toUInt8, Int.bmod_def, Int.bmod_def]
  split <;> split <;> omega

theorem octets_toInt (m : Memory) (len : Nat) :
    (hear m len).octets.toInt = ((len : Int) - 34 - 4 * (dataOffset m).toNat).bmod 256 := by
  have four := data_offset_lt m
  have narrow : (hear m len).octets.toInt = ((dataOctets m len).toNat : Int).bmod 256 := to_int8_toInt _
  rw [narrow, data_octets_toNat, Int.bmod_def, Int.bmod_def]
  split <;> split <;> omega

namespace Heard

def reply (h : Heard) (draws : List UInt32) : Header where
  srcAddr := tcpIp
  destAddr := h.peer.1
  srcPort := if h.kind = .ack then h.peer.2 else hostTcpPort
  destPort := if h.kind = .ack then hostTcpPort else h.peer.2
  seq := if h.kind = .syn then ntohl (tcpSeqGenerator draws h.seq) else h.ack
  ack := h.nextSeq
  offset := h.offset
  bits := if h.kind = .syn then 0x12 else 0x10
  totalLength := if h.kind = .pshAck then h.totalLength - UInt16.ofInt h.octets.toInt else h.totalLength

def flags (h : Heard) (conn : TcpConnection) : List UInt8 :=
  match h.kind with
  | .syn => [0x12]
  | .ack => if conn.connectionStatus = 1 ∧ 0 < h.octets.toInt then [0x10] else []
  | .pshAck =>
      if h.octets = -3 then [0x10, 0x11] else if 0 ≤ h.octets.toInt ∨ h.octets = -2 then [0x10] else []
  | .finAck => if conn.connectionStatus = 0 then [0x10] else [0x10, 0x11]
  | .other => []

def removed (h : Heard) : Nat := if h.kind = .pshAck then h.octets.toInt.toNat else 0

end Heard

theorem removed_status (h : Heard) (conn : TcpConnection) : h.removed = (h.status conn).toNat := by
  unfold Heard.removed Heard.status
  cases h.kind with
  | syn => rfl
  | ack =>
      rw [if_neg (by decide)]
      dsimp only
      split <;> rfl
  | pshAck => rfl
  | finAck =>
      rw [if_neg (by decide)]
      dsimp only
      split <;> rfl
  | other => rfl

theorem flags_status (h : Heard) (conn : TcpConnection) (draws : List UInt32) : h.flags conn =
    if 1 ≤ h.status conn ∨ h.status conn = tcpReg ∨ h.status conn = -2 then [(h.reply draws).bits]
    else if h.status conn = tcpFinAck then [(h.reply draws).bits, 0x11] else [] := by
  have code : h.octets.toInt = -3 ↔ h.octets = -3 := by
    rw [← Int8.toInt_inj]
    rfl
  have two : h.octets.toInt = -2 ↔ h.octets = -2 := by
    rw [← Int8.toInt_inj]
    rfl
  unfold Heard.flags Heard.status Heard.reply
  cases h.kind with
  | syn => simp [tcpReg]
  | ack => by_cases data : conn.connectionStatus = 1 ∧ 0 < h.octets.toInt <;> simp [data, tcpReg, tcpNone, tcpFinAck]
  | pshAck =>
      by_cases fin : h.octets = -3
      · simp [fin, tcpReg, tcpFinAck]
      · have answers : (1 ≤ h.octets.toInt ∨ h.octets.toInt = tcpReg ∨ h.octets.toInt = -2) ↔
            (0 ≤ h.octets.toInt ∨ h.octets = -2) := by
          rw [← two, tcpReg]
          omega
        simp [answers, fin, tcpFinAck, code]
  | finAck => by_cases dead : conn.connectionStatus = 0 <;> simp [dead, tcpReg, tcpFinAck]
  | other => simp [tcpReg, tcpNone, tcpFinAck]

theorem flags_closing (h : Heard) (conn : TcpConnection) (fin : 0x11 ∈ h.flags conn) : h.status conn = tcpFinAck := by
  have bits : (h.reply []).bits ≠ 0x11 := by
    unfold Heard.reply
    dsimp only
    split <;> decide
  rw [flags_status h conn []] at fin
  split at fin
  · rw [List.mem_singleton] at fin
    exact absurd fin.symm bits
  · split at fin
    · assumption
    · simp at fin

theorem finish_tcp_header (out : TcpOutcome) (segmentLen octets : UInt16) :
    readHeader (finishTcp out segmentLen octets false) =
      { readHeader out.frame with srcAddr := tcpIp, destAddr := IpHeader.srcAddr out.frame } := by
  simp [finishTcp, readdress, readHeader, dataOffset, controlBits]

theorem finish_tcp_again_header (out : TcpOutcome) (segmentLen octets : UInt16) :
    readHeader (finishTcp out segmentLen octets true) = readHeader out.frame := by
  simp [finishTcp, readdress, readHeader, dataOffset, controlBits]

section
variable (m : Memory)

@[simp] theorem set_src_port_header (v : UInt16) : readHeader (Tcp.setSrcPort m v) =
    { readHeader m with srcPort := ntohs v } := by
  simp [readHeader, dataOffset, controlBits]

@[simp] theorem set_dest_port_header (v : UInt16) :
    readHeader (Tcp.setDestPort m v) = { readHeader m with destPort := ntohs v } := by
  simp [readHeader, dataOffset, controlBits]

@[simp] theorem set_seq_header (v : UInt32) : readHeader (Tcp.setSeqNumber m v) = { readHeader m with seq := ntohl v } := by
  simp [readHeader, dataOffset, controlBits]

@[simp] theorem set_ack_header (v : UInt32) : readHeader (Tcp.setAckNumber m v) = { readHeader m with ack := ntohl v } := by
  simp [readHeader, dataOffset, controlBits]

@[simp] theorem set_total_length_header (v : UInt16) :
    readHeader (IpHeader.setTotalLength m v) = { readHeader m with totalLength := ntohs v } := by
  simp [readHeader, dataOffset, controlBits]

theorem set_flag_header (offset : UInt8) (bits : UInt16) (four : offset.toNat < 16) (low : bits.toNat < 64) :
    readHeader (Tcp.setFlag m (htons (flagWord offset bits))) =
      { readHeader m with offset := offset, bits := bits.toUInt8 } := by
  rw [readHeader, dataOffset, controlBits]
  simp only [load16_store16, ntohs_ntohs, flag_word_bits offset bits four low, flag_word_offset offset bits four low]
  simp [readHeader]

end

theorem first_payload_header (draws : List UInt32) (len : Nat) (m : Memory) (table : Table) (i : Fin tcpConnectionLimit)
    (heard : refusal m = none) (answered : (hear m len).flags (table i) ≠ []) :
    readHeader (firstPayload draws len m table i).frame =
      { (hear m len).reply draws with srcAddr := IpHeader.srcAddr m, destAddr := IpHeader.destAddr m } := by
  have four := data_offset_lt m
  have low (bits : UInt16) (listed : bits = 0x12 ∨ bits = 0x10) : bits.toNat < 64 := by
    rcases listed with rfl | rfl <;> decide
  have port := ((refusal_none m).mp heard).2
  have kindEq : (hear m len).kind = kindOf (controlBits m) := rfl
  rw [firstPayload, handle_tcp_payload_kind]
  cases kind : kindOf (controlBits m) with
  | syn =>
      have syn := kindEq.trans kind
      simp only [handleSyn, set_src_port_header, set_dest_port_header, set_flag_header _ _ _ four (low _ (Or.inl rfl)),
        set_seq_header, set_ack_header]
      simp [readHeader, Heard.reply, Heard.nextSeq, syn]
  | ack =>
      have ack := kindEq.trans kind
      have sixteen := (kind_of_ack (controlBits m)).mp kind
      have up : (table i).connectionStatus = 1 := by
        by_contra down
        simp [Heard.flags, ack, down] at answered
      have acknowledged : readHeader (acknowledge m (hear m len).octets) =
          { (hear m len).reply draws with srcAddr := IpHeader.srcAddr m, destAddr := IpHeader.destAddr m } := by
        simp only [acknowledge, set_seq_header, set_ack_header]
        simp [readHeader, Heard.reply, Heard.nextSeq, ack, sixteen, port]
      dsimp only
      rw [handle_ack_frame m _ table i _ (by rw [up]; decide)]
      exact acknowledged
  | pshAck =>
      have psh := kindEq.trans kind
      simp only [handlePshAck, acknowledge, set_total_length_header, set_src_port_header, set_dest_port_header,
        set_flag_header _ _ _ four (low _ (Or.inr rfl)), set_seq_header, set_ack_header]
      simp [readHeader, Heard.reply, Heard.nextSeq, psh]
  | finAck =>
      have fin := kindEq.trans kind
      simp only [handle_fin_ack_frame, acknowledgeFin, set_src_port_header, set_dest_port_header,
        set_flag_header _ _ _ four (low _ (Or.inr rfl)), set_seq_header, set_ack_header]
      simp [readHeader, Heard.reply, Heard.nextSeq, fin]
  | other =>
      simp [Heard.flags, kindEq.trans kind] at answered

theorem removed_le (m : Memory) (len : Nat) (long : 34 ≤ len) : (hear m len).removed ≤ len - 34 := by
  have four := data_offset_lt m
  have count := octets_toInt m len
  rw [Int.bmod_def] at count
  unfold Heard.removed
  split
  · split at count <;> omega
  · omega

section
variable (cfg : Network) (draws : List UInt32) (len : Nat) (r : Routing) (table : Table) (i : Fin tcpConnectionLimit)
variable (heard : refusal r.frame = none) (chosen : slotFor table (hear r.frame len).peer = some i)
include heard chosen

theorem first_header (answered : (hear r.frame len).flags (table i) ≠ []) :
    readHeader (handleTcp draws len r.frame table false).frame = (hear r.frame len).reply draws := by
  have same : IpHeader.srcAddr (firstPayload draws len r.frame table i).frame = IpHeader.srcAddr r.frame :=
    payload_src_addr _ _ _ _ _ _ _ _ _
  rw [handle_tcp_heard draws len r.frame table i heard chosen]
  simp only [finish_tcp_header, first_payload_header draws len r.frame table i heard answered, same]
  rfl

theorem first_octet (k : Nat) (apart : k < 16 ∨ k = 23) : (handleTcp draws len r.frame table false).frame k = r.frame k := by
  rw [handle_tcp_heard draws len r.frame table i heard chosen]
  simp only [finish_tcp_octet _ _ _ k (by omega), firstPayload]
  exact handle_tcp_payload_octet _ _ _ _ _ _ _ _ _ k (by omega)

variable (tcp : IpHeader.protocol r.frame = 6) (noError : r.error = false)
include tcp noError

theorem first_sent_len (currLen : Nat) : (firstSent cfg draws len r table currLen).len = currLen + 4 := by
  have protocol : IpHeader.protocol (handleTcp draws len r.frame table false).frame = 6 :=
    (first_octet draws len r table i heard chosen 23 (by omega)).trans tcp
  rw [firstSent, noError, encapsulation_len, if_pos ⟨protocol, by simp⟩]

theorem first_sent_octet (currLen k : Nat) (apart : 12 ≤ k ∧ k < 24 ∨ 26 ≤ k) (inside : k < currLen) :
    (firstSent cfg draws len r table currLen).frame k = (handleTcp draws len r.frame table false).frame k := by
  have size := first_sent_len cfg draws len r table i heard chosen tcp noError currLen
  rw [firstSent, noError] at size ⊢
  exact encapsulation_octet cfg _ currLen _ _ _ false k apart (by omega)

theorem first_sent_link (currLen : Nat) (room : 12 ≤ currLen) :
    FrameFields.destAddr (firstSent cfg draws len r table currLen).frame = FrameFields.srcAddr r.frame ∧
      FrameFields.srcAddr (firstSent cfg draws len r table currLen).frame = (interfaceAt cfg r.transmitter).macAddr := by
  have octets := first_octet draws len r table i heard chosen
  have source : FrameFields.srcAddr (handleTcp draws len r.frame table false).frame = FrameFields.srcAddr r.frame :=
    load_octets_congr _ _ 6 6 fun k _ high => octets k (by omega)
  have linked (off : Nat) (inside : off + 6 ≤ 12) : loadOctets (firstSent cfg draws len r table currLen).frame off 6 =
      loadOctets (turnedBack cfg (handleTcp draws len r.frame table false).frame r.transmitter) off 6 := by
    rw [firstSent, noError]
    exact load_octets_congr _ _ off 6 fun k _ high =>
      encapsulation_tcp_octet cfg _ currLen _ r.icmp r.transmitter ((octets 23 (by omega)).trans tcp) k (by omega) (by omega)
  constructor
  · rw [FrameFields.destAddr, linked 0 (by omega), ← source]
    simp [turnedBack]
  · rw [FrameFields.srcAddr, linked 6 (by omega)]
    simp [turnedBack]

theorem first_sent_header (currLen : Nat) (whole : 48 ≤ currLen) (answered : (hear r.frame len).flags (table i) ≠ []) :
    readHeader (firstSent cfg draws len r table currLen).frame = (hear r.frame len).reply draws := by
  rw [← first_header draws len r table i heard chosen answered]
  apply read_header_congr
  intro k inside
  exact first_sent_octet cfg draws len r table i heard chosen tcp noError currLen k (by omega) (by omega)

end

theorem handle_tcp_again (draws : List UInt32) (len : Nat) (m : Memory) (table : Table) (j : Fin tcpConnectionLimit)
    (chosen : slotFor table (addressee m) = some j) : (handleTcp draws len m table true).frame =
      finishTcp (handleFinAck m (dataOffset m) table j true) (tcpSegmentLen m len) (dataOctets m len) true := by
  rw [← tcp_slot_refines] at chosen
  simp only [addressee] at chosen
  simp only [handleTcp, if_true, chosen]
  rfl

theorem again_header (draws : List UInt32) (len : Nat) (m : Memory) (table : Table) (j : Fin tcpConnectionLimit)
    (chosen : slotFor table (addressee m) = some j) :
    readHeader (handleTcp draws len m table true).frame = { readHeader m with bits := 0x11 } := by
  rw [handle_tcp_again draws len m table j chosen, finish_tcp_again_header]
  simp only [handleFinAck, if_true]
  rw [set_flag_header m (dataOffset m) 0x11 (data_offset_lt m) (by decide)]
  rfl

theorem again_octet (draws : List UInt32) (len : Nat) (m : Memory) (table : Table) (j : Fin tcpConnectionLimit)
    (chosen : slotFor table (addressee m) = some j) (k : Nat) (apart : k < 18 ∨ 20 ≤ k ∧ k < 46 ∨ 48 ≤ k ∧ k < 50 ∨ 52 ≤ k) :
    (handleTcp draws len m table true).frame k = m k := by
  rw [handle_tcp_again draws len m table j chosen, finish_tcp_again_octet _ _ _ k (by omega)]
  simp only [handleFinAck, if_true]
  exact store_outside _ _ _ _ (by simp; omega)

section
variable (cfg : Network) (draws : List UInt32) (len : Nat) (r : Routing) (table : Table)

def secondSent : Encapsulated :=
  let first := firstSent cfg draws len r table len
  encapsulation cfg (handleTcp draws len first.frame (handleTcp draws len r.frame table false).table true).frame first.len
    r.finalDestAddr r.icmp r.error r.transmitter true

def emit (e : Encapsulated) : Sent := sendEthernetFrame r.transmitter e.frame e.len

theorem handle_tcp_packet_sent (status : Int) (same : (handleTcp draws len r.frame table false).status = status) :
    (handleTcpPacket cfg draws len r table).sent =
      if 1 ≤ status ∨ status = tcpReg ∨ status = -2 then [emit r (firstSent cfg draws len r table (len - status.toNat))]
      else if status = tcpFinAck then
        [emit r (firstSent cfg draws len r table len), emit r (secondSent cfg draws len r table)]
      else [] := by
  simp only [handleTcpPacket, same]
  by_cases payload : 1 ≤ status
  · rw [if_pos payload, if_pos (Or.inl payload)]
    rfl
  · have nothing : status.toNat = 0 := by omega
    by_cases plain : status = tcpReg ∨ status = -2
    · rw [if_neg payload, if_pos plain, if_pos (Or.inr plain), nothing]
      rfl
    · by_cases twice : status = tcpFinAck
      · rw [if_neg payload, if_neg plain, if_pos twice, if_neg (by tauto), if_pos twice]
        rfl
      · rw [if_neg payload, if_neg plain, if_neg twice, if_neg (by tauto), if_neg twice]

theorem segment_sent_cases (status : Int) (same : (handleTcp draws len r.frame table false).status = status) (s : Sent)
    (member : s ∈ (handleTcpPacket cfg draws len r table).sent) :
    s = emit r (firstSent cfg draws len r table (len - status.toNat)) ∨ s = emit r (secondSent cfg draws len r table) := by
  rw [handle_tcp_packet_sent cfg draws len r table status same] at member
  split at member
  · exact Or.inl (List.mem_singleton.mp member)
  · split at member
    · rename_i twice
      have nothing : status.toNat = 0 := by rw [twice]; rfl
      simpa [nothing] using member
    · simp at member

end

theorem related_of_mem {α β : Type} (R : α → β → Prop) (left : List α) (right : List β) (related : List.Forall₂ R left right)
    (x : α) (member : x ∈ left) : ∃ y ∈ right, R x y := by
  induction related with
  | nil => simp at member
  | cons here _ ih =>
      rcases List.mem_cons.mp member with rfl | later
      · exact ⟨_, List.mem_cons_self, here⟩
      · obtain ⟨y, place, there⟩ := ih later
        exact ⟨y, List.mem_cons_of_mem _ place, there⟩

structure Answers (h : Heard) (draws : List UInt32) (len : Nat) (r : Routing) (s : Sent) (bits : UInt8) : Prop where
  interface : s.interface = r.transmitter
  size : s.frame.length = len - h.removed + 4
  header : 52 ≤ s.frame.length → readHeader (ofList s.frame) = { h.reply draws with bits := bits }
  link : ∀ k, 12 ≤ k ∧ k < 16 ∨ k = 23 → ofList s.frame k = r.frame k

theorem sent_octet (interface : Nat) (m : Memory) (len i : Nat) (inside : i < len) (short : len < 65536) :
    ofList (sendEthernetFrame interface m len).frame i = m i := by
  rw [sendEthernetFrame, Nat.mod_eq_of_lt short]
  exact of_list_fetch m len i inside

theorem sent_length (interface : Nat) (m : Memory) (len : Nat) (short : len < 65536) :
    (sendEthernetFrame interface m len).frame.length = len := by
  rw [sendEthernetFrame, Nat.mod_eq_of_lt short, fetch_length]

theorem sent_header (interface : Nat) (m : Memory) (len : Nat) (whole : 48 ≤ len) (short : len < 65536) :
    readHeader (ofList (sendEthernetFrame interface m len).frame) = readHeader m :=
  read_header_congr _ _ fun k _ => sent_octet interface m len k (by omega) short

section
variable (cfg : Network) (draws : List UInt32) (len : Nat) (r : Routing) (table : Table) (i : Fin tcpConnectionLimit)
variable (heard : refusal r.frame = none) (chosen : slotFor table (hear r.frame len).peer = some i)
variable (tcp : IpHeader.protocol r.frame = 6) (noError : r.error = false) (long : 54 ≤ len) (short : len < 65000)
include heard chosen tcp noError long short

theorem first_sent_answers (answered : (hear r.frame len).flags (table i) ≠ []) :
    Answers (hear r.frame len) draws len r
      (emit r (firstSent cfg draws len r table (len - (hear r.frame len).removed)))
      ((hear r.frame len).reply draws).bits := by
  have room := removed_le r.frame len (by omega)
  generalize removedEq : (hear r.frame len).removed = removed at room
  have size := first_sent_len cfg draws len r table i heard chosen tcp noError (len - removed)
  refine ⟨rfl, ?_, ?_, ?_⟩
  · rw [emit, sent_length _ _ _ (by omega), size, removedEq]
  · intro whole
    rw [emit, sent_length _ _ _ (by omega)] at whole
    rw [emit, sent_header _ _ _ (by omega) (by omega),
      first_sent_header cfg draws len r table i heard chosen tcp noError _ (by omega) answered]
  · intro k inside
    rw [emit, sent_octet _ _ _ k (by omega) (by omega),
      first_sent_octet cfg draws len r table i heard chosen tcp noError _ k (by omega) (by omega)]
    exact first_octet draws len r table i heard chosen k (by omega)

omit long short in
theorem second_sent_len : (secondSent cfg draws len r table).len = len + 4 := by
  simp only [secondSent, noError, encapsulation_len, first_sent_len cfg draws len r table i heard chosen tcp noError len]
  simp

omit long short in
theorem second_sent_octet (k : Nat) (apart : k < 24 ∨ 26 ≤ k) (inside : k < len) : (secondSent cfg draws len r table).frame k =
    (handleTcp draws len (firstSent cfg draws len r table len).frame (handleTcp draws len r.frame table false).table
      true).frame k := by
  have size := first_sent_len cfg draws len r table i heard chosen tcp noError len
  simp only [secondSent, noError]
  exact encapsulation_again_octet cfg _ _ _ r.icmp r.transmitter k apart (by omega)

omit tcp in
-- The second pass finds the same slot, so it answers the same peer.
theorem second_pass_slot (closing : (hear r.frame len).status (table i) = tcpFinAck) :
    slotFor (handleTcp draws len r.frame table false).table (addressee (firstSent cfg draws len r table len).frame) =
      some i := by
  rw [first_sent_addressee cfg draws len r table noError (by omega) i heard chosen closing,
    handle_tcp_first_table draws len r.frame table heard, first_table_some _ _ i chosen]
  exact second_slot _ table i chosen (closing_later _ _ closing)

theorem second_sent_answers (closing : (hear r.frame len).status (table i) = tcpFinAck) :
    Answers (hear r.frame len) draws len r (emit r (secondSent cfg draws len r table)) 0x11 := by
  have nothing : (hear r.frame len).removed = 0 := by rw [removed_status _ (table i), closing]; rfl
  have answered : (hear r.frame len).flags (table i) ≠ [] := by
    rw [flags_status _ _ draws, closing]
    simp [tcpFinAck, tcpReg]
  have same := second_pass_slot cfg draws len r table i heard chosen noError long short closing
  have size := first_sent_len cfg draws len r table i heard chosen tcp noError len
  have firstHeader := first_sent_header cfg draws len r table i heard chosen tcp noError len (by omega) answered
  have firstOctet (k : Nat) (inside : 12 ≤ k ∧ k < 16 ∨ k = 23) :
      (firstSent cfg draws len r table len).frame k = r.frame k :=
    (first_sent_octet cfg draws len r table i heard chosen tcp noError len k (by omega) (by omega)).trans
      (first_octet draws len r table i heard chosen k (by omega))
  generalize again : handleTcp draws len (firstSent cfg draws len r table len).frame
    (handleTcp draws len r.frame table false).table true = second
  have header := again_header draws len _ _ i same
  have octet := again_octet draws len _ _ i same
  have secondSize := second_sent_len cfg draws len r table i heard chosen tcp noError
  have secondOctet := second_sent_octet cfg draws len r table i heard chosen tcp noError
  rw [again] at header octet secondOctet
  refine ⟨rfl, ?_, ?_, ?_⟩
  · rw [emit, sent_length _ _ _ (by omega), secondSize, nothing, Nat.sub_zero]
  · intro whole
    rw [emit, sent_header _ _ _ (by omega) (by omega), ← firstHeader, ← header]
    apply read_header_congr
    intro k inside
    exact secondOctet k (by omega) (by omega)
  · intro k inside
    rw [emit, sent_octet _ _ _ k (by omega) (by omega), secondOctet k (by omega) (by omega), octet k (by omega)]
    exact firstOctet k inside

theorem handle_tcp_packet_answers : List.Forall₂ (Answers (hear r.frame len) draws len r)
    (handleTcpPacket cfg draws len r table).sent ((hear r.frame len).flags (table i)) := by
  have status := handle_tcp_first_status draws len r.frame table i heard chosen
  have flags := flags_status (hear r.frame len) (table i) draws
  have removed := removed_status (hear r.frame len) (table i)
  rw [handle_tcp_packet_sent cfg draws len r table _ status, flags]
  split
  · rename_i once
    rw [← removed]
    refine .cons (first_sent_answers cfg draws len r table i heard chosen tcp noError long short ?_) .nil
    rw [flags, if_pos once]
    simp
  · rename_i notOnce
    split
    · rename_i closing
      have first := first_sent_answers cfg draws len r table i heard chosen tcp noError long short
        (by rw [flags, if_neg notOnce, if_pos closing]; simp)
      have nothing : (hear r.frame len).removed = 0 := by rw [removed, closing]; rfl
      rw [nothing, Nat.sub_zero] at first
      exact .cons first (.cons (second_sent_answers cfg draws len r table i heard chosen tcp noError long short closing) .nil)
    · exact .nil

end

theorem handle_tcp_packet_error (cfg : Network) (draws : List UInt32) (len : Nat) (r : Routing) (table : Table)
    (error : r.error = true) (s : Sent) (member : s ∈ (handleTcpPacket cfg draws len r table).sent) :
    IpHeader.protocol (ofList s.frame) = 1 := by
  have icmp (m : Memory) (currLen : Nat) (flag : Bool) : IpHeader.protocol (ofList
      (emit r (encapsulation cfg m currLen r.finalDestAddr r.icmp r.error r.transmitter flag)).frame) = 1 := by
    obtain ⟨one, size⟩ := encapsulation_error cfg m currLen r.finalDestAddr r.icmp r.transmitter flag
    rw [error, emit, IpHeader.protocol, sent_octet _ _ _ 23 (by omega) (by omega)]
    exact one
  rcases segment_sent_cases cfg draws len r table _ rfl s member with rfl | rfl
  · exact icmp _ _ false
  · exact icmp _ _ true

end OsiStack
