import OsiStack.Agreement
import OsiStack.PeerSegment
import OsiStack.TcpChecksum

set_option autoImplicit false

namespace OsiStack

open Octets OnesComplement PeerSegment

structure SameEffects (e e' : Effects) : Prop where
  table : e'.table = e.table
  console : e'.console = e.console
  verdict : Notice.incorrectChecksum ∈ e'.notices ↔ Notice.incorrectChecksum ∈ e.notices
  replies : tcpReplies e' = tcpReplies e

structure Trailing (r r' : Reception) (t : List UInt8) : Prop where
  long : 64 ≤ r.len
  datagram : 14 + (ntohs (IpHeader.totalLength r.buffer)).toNat ≤ r.len
  segment : 5 ≤ (dataOffset r.buffer).toNat
  longer : r'.len = r.len + t.length
  short : r'.len ≤ 1514
  frame : fetch r'.buffer 0 r'.len = fetch r.buffer 0 r.len ++ t
  draws : r'.draws = r.draws

def CountsPayload (table : Table) (h : Heard) : Prop :=
  ∃ i, slotFor table h.peer = some i ∧ (h.kind = .ack ∧ (table i).connectionStatus ≠ 0 ∨ h.kind = .pshAck)

-- The trailing octets leave the narrowed count alone where it is used, and the
-- sum of the segment a multiple of 65535, or not one, as it was.
structure Unnoticed (table : Table) (r : Reception) (t : List UInt8) : Prop where
  count : CountsPayload table r.heard → t.length % 256 = 0
  sum : segmentSum r.buffer (UInt16.ofNat (r.len - 34)) % 65535 = 0 ↔
    (segmentSum r.buffer (UInt16.ofNat (r.len - 34)) + t.length + wordSum (if r.len % 2 = 0 then t else 0 :: t)) % 65535 = 0

theorem segment_sum_extend (m m' : Memory) (n : Nat) (t : List UInt8) (same : Agree (34 + n) m m')
    (tail : fetch m' (34 + n) t.length = t) (short : n + t.length < 65536) :
    segmentSum m' (UInt16.ofNat (n + t.length)) =
      segmentSum m (UInt16.ofNat n) + t.length + wordSum (if n % 2 = 0 then t else 0 :: t) := by
  have src : IpHeader.srcAddr m' = IpHeader.srcAddr m := (agree_load_octets _ m m' same 26 4 (by omega)).symm
  have dest : IpHeader.destAddr m' = IpHeader.destAddr m := (agree_load_octets _ m m' same 30 4 (by omega)).symm
  have segment : fetch m' 34 n = fetch m 34 n := (agree_fetch _ m m' same 34 n (by omega)).symm
  have joined : wordSum (fetch m 34 n ++ t) = wordSum (fetch m 34 n) + wordSum (if n % 2 = 0 then t else 0 :: t) := by
    by_cases even : n % 2 = 0
    · rw [if_pos even, word_sum_append _ _ (by simpa using even)]
    · rw [if_neg even, word_sum_append_odd _ _ (by rw [fetch_length]; omega)]
  have whole : (UInt16.ofNat (n + t.length)).toNat = n + t.length := UInt16.toNat_ofNat_of_lt' short
  have part : (UInt16.ofNat n).toNat = n := UInt16.toNat_ofNat_of_lt' (Nat.lt_of_le_of_lt (Nat.le_add_right n t.length) short)
  rw [segmentSum, segmentSum, word_sum_append _ _ (by simp [pseudo_header_length]),
    word_sum_append _ _ (by simp [pseudo_header_length]), pseudo_header_sum, pseudo_header_sum, whole, part, src, dest,
    fetch_add, segment, tail, joined]
  omega

section
variable (draws : List UInt32) (len : Nat) (m : Memory) (table : Table)

theorem payload_verdict (octets : Int8) (offset : UInt8) (id : Fin tcpConnectionLimit) (bits : UInt8) (flag : Bool)
    (headerLen : Nat) : Notice.incorrectChecksum ∉
      (handleTcpPayload m octets offset table id draws bits flag headerLen).notices := by
  rw [handle_tcp_payload_kind]
  cases kindOf bits with
  | syn => simp [handleSyn]
  | ack =>
      simp only [handleAck]
      split_ifs <;> simp
  | pshAck => simp [handlePshAck]
  | finAck =>
      simp only [handleFinAck]
      split_ifs <;> simp
  | other =>
      dsimp only
      split <;> simp

theorem handle_tcp_verdict (heard : refusal m = none) :
    Notice.incorrectChecksum ∈ (handleTcp draws len m table false).notices ↔
      calculateTcpChecksum m (tcpSegmentLen m len) ≠ 0 := by
  have announced : Notice.incorrectChecksum ∈ checksumNotices m len ↔ calculateTcpChecksum m (tcpSegmentLen m len) ≠ 0 := by
    unfold checksumNotices
    split <;> simp_all
  rw [← announced]
  cases chosen : slotFor table (hear m len).peer with
  | none => simp [handle_tcp_full draws len m table heard chosen]
  | some i =>
      have payload := payload_verdict draws m table (hear m len).octets (dataOffset m) i (controlBits m) false
        (tcpHeaderLen m).toNat
      simp [handle_tcp_heard draws len m table i heard chosen, firstPayload, payload]

theorem handle_tcp_again_verdict : Notice.incorrectChecksum ∉ (handleTcp draws len m table true).notices := by
  simp only [handleTcp, if_true]
  cases tcpSlot table (IpHeader.destAddr m) (ntohs (Tcp.destPort m)) with
  | none => simp
  | some j => simpa using payload_verdict draws m table _ (dataOffset m) j 17 true (tcpHeaderLen m).toNat

theorem handle_tcp_packet_verdict (cfg : Config) (r : Routing) :
    Notice.incorrectChecksum ∈ (handleTcpPacket cfg draws len r table).notices ↔
      Notice.incorrectChecksum ∈ (handleTcp draws len r.frame table false).notices := by
  have again := handle_tcp_again_verdict draws len
    (encapsulation cfg (handleTcp draws len r.frame table false).frame len r.finalDestAddr r.icmp r.error r.transmitter
      false).frame (handleTcp draws len r.frame table false).table
  simp only [handleTcpPacket]
  repeat' split
  all_goals simp [again]

end

theorem receive_verdict (cfg : Config) (table : Table) (r : Reception) (accepted : Accepted cfg r) :
    Notice.incorrectChecksum ∈ (receive cfg table r).notices ↔
      segmentSum r.buffer (UInt16.ofNat (r.len - 34)) % 65535 ≠ 0 := by
  have long := accepted.long
  obtain ⟨receiver, -, same⟩ := receive_accepted cfg table r accepted
  rw [same, handle_tcp_packet_verdict]
  simp only [localRouting]
  rw [handle_tcp_verdict r.draws r.len r.buffer table accepted.heard, ne_eq, tcp_checksum_zero,
    tcp_segment_len r.buffer r.len (by omega)]

namespace Trailing

section
variable {r r' : Reception} {t : List UInt8} (tr : Trailing r r' t)
include tr

theorem parts : fetch r'.buffer 0 r.len = fetch r.buffer 0 r.len ∧ fetch r'.buffer r.len t.length = t := by
  have frame := tr.frame
  rw [tr.longer, fetch_add, Nat.zero_add] at frame
  exact List.append_inj frame (by simp)

theorem agree : Agree r.len r.buffer r'.buffer := by
  intro i inside
  have octet := congrArg (fun octets => octets.getD i 0) tr.parts.1
  simp only [fetch_getD _ 0 r.len i inside, Nat.zero_add] at octet
  exact octet.symm

theorem sum : segmentSum r'.buffer (UInt16.ofNat (r'.len - 34)) = segmentSum r.buffer (UInt16.ofNat (r.len - 34)) +
    t.length + wordSum (if r.len % 2 = 0 then t else 0 :: t) := by
  have long := tr.long
  have short := tr.short
  have longer := tr.longer
  have start : 34 + (r.len - 34) = r.len := by omega
  have parity : (r.len - 34) % 2 = r.len % 2 := by omega
  have extended := segment_sum_extend r.buffer r'.buffer (r.len - 34) t (by rw [start]; exact tr.agree)
    (by rw [start]; exact tr.parts.2) (by omega)
  rw [parity] at extended
  rw [← extended]
  congr 2
  omega

theorem heard : r'.heard = { r.heard with octets := r'.heard.octets } :=
  hear_agree r.len r.buffer r'.buffer tr.agree (Nat.le_trans (by omega) tr.long) r.len r'.len

theorem octets_iff : r'.heard.octets = r.heard.octets ↔ t.length % 256 = 0 := by
  have longer := tr.longer
  have offset := data_offset_agree r.len r.buffer r'.buffer tr.agree (Nat.le_trans (by omega) tr.long)
  have four := data_offset_lt r.buffer
  rw [← Int8.toInt_inj, octets_toInt, octets_toInt, ← offset, Int.bmod_def, Int.bmod_def]
  split <;> split <;> omega

theorem accepted_iff (cfg : Config) : Accepted cfg r' ↔ Accepted cfg r := by
  have same := agree_mono r.len _ _ tr.agree 64 tr.long
  have long : 64 ≤ r'.len := by rw [tr.longer]; exact Nat.le_trans tr.long (Nat.le_add_right _ _)
  exact ⟨accepted_agree cfg r' r (fun i inside => (same i inside).symm) tr.long, accepted_agree cfg r r' same long⟩

end

end Trailing

structure Alike (h h' : Heard) (conn : TcpConnection) : Prop where
  apply : h'.apply conn = h.apply conn
  status : h'.status conn = h.status conn
  flags : h'.flags conn = h.flags conn
  printed : h'.printed conn = h.printed conn
  reply : h.flags conn ≠ [] → ∀ draws, h'.reply draws = h.reply draws

theorem alike_octets (h : Heard) (octets : Int8) (conn : TcpConnection)
    (unread : octets = h.octets ∨ ¬ (h.kind = .ack ∧ conn.connectionStatus ≠ 0 ∨ h.kind = .pshAck)) :
    Alike h { h with octets := octets } conn := by
  rcases unread with same | unread
  · subst same
    exact ⟨rfl, rfl, rfl, rfl, fun _ _ => rfl⟩
  · cases kind : h.kind with
    | syn => constructor <;> simp [Heard.apply, Heard.status, Heard.flags, Heard.printed, Heard.reply, Heard.nextSeq, kind]
    | ack =>
        have dead : conn.connectionStatus = 0 := by
          by_contra live
          exact unread (Or.inl ⟨kind, live⟩)
        constructor <;> simp [Heard.apply, Heard.status, Heard.flags, Heard.printed, kind, dead]
    | pshAck => exact absurd (Or.inr kind) unread
    | finAck =>
        constructor <;> simp [Heard.apply, Heard.status, Heard.flags, Heard.printed, Heard.reply, Heard.nextSeq, kind]
    | other => constructor <;> simp [Heard.apply, Heard.status, Heard.flags, Heard.printed, kind]

theorem octets_le (r : Reception) (long : 64 ≤ r.len) :
    r.heard.octets.toInt.toNat ≤ r.len - 34 - 4 * (dataOffset r.buffer).toNat := by
  have four := data_offset_lt r.buffer
  have count : r.heard.octets.toInt = _ := octets_toInt r.buffer r.len
  rw [Int.bmod_def] at count
  split at count <;> omega

theorem printed_le (h : Heard) (conn : TcpConnection) : h.printed conn ≤ h.octets.toInt.toNat := by
  unfold Heard.printed
  split
  · split <;> omega
  · exact Nat.le_refl _
  · omega

theorem removed_le_octets (h : Heard) : h.removed ≤ h.octets.toInt.toNat := by
  unfold Heard.removed
  split <;> omega

section
variable (cfg : Config) (table : Table) {r r' : Reception} {t : List UInt8} (tr : Trailing r r' t)
variable (accepted : Accepted cfg r) (i : Fin tcpConnectionLimit) (chosen : slotFor table r.heard.peer = some i)
include tr accepted chosen

theorem trailing_stray (expired : IpHeader.ttl r.buffer = 1) (closing : r.heard.status (table i) = tcpFinAck)
    (alike : Alike r.heard r'.heard (table i))
    (octets : r'.heard.octets = r.heard.octets ∨ r.heard.kind = .finAck) :
    (receive cfg table r').table = (receive cfg table r).table := by
  have accepted' := (tr.accepted_iff cfg).mpr accepted
  have same := agree_mono r.len _ _ tr.agree 64 tr.long
  have chosen' : slotFor table r'.heard.peer = some i := by rw [tr.heard]; exact chosen
  have closing' := alike.status.trans closing
  obtain ⟨receiver, mine, received⟩ := receive_accepted cfg table r accepted
  obtain ⟨receiver', mine', received'⟩ := receive_accepted cfg table r' accepted'
  rw [← eth_cmp_agree cfg _ _ same, mine, Option.some.injEq] at mine'
  subst mine'
  have addressed := first_sent_agree cfg r.draws r.len r'.len r.buffer r'.buffer (agree_mono 64 _ _ same 48 (by omega))
    ⟨1, r.icmpCode⟩ ⟨1, r'.icmpCode⟩ receiver table i accepted.heard chosen expired octets
  have first := handle_tcp_first_table r.draws r.len r.buffer table accepted.heard
  have first' := handle_tcp_first_table r.draws r'.len r'.buffer table accepted'.heard
  rw [first_table_some _ _ i chosen] at first
  rw [first_table_some _ _ i chosen', alike.apply, ← first] at first'
  rw [received, received', tr.draws,
    handle_tcp_packet_twice cfg r.draws r.len (localRouting r.buffer _ receiver) table
      ((handle_tcp_first_status r.draws r.len r.buffer table i accepted.heard chosen).trans closing),
    handle_tcp_packet_twice cfg r.draws r'.len (localRouting r'.buffer _ receiver) table
      ((handle_tcp_first_status r.draws r'.len r'.buffer table i accepted'.heard chosen').trans closing'), ← addressed]
  exact congrArg (closeAt · _) first'

theorem trailing_table (alike : Alike r.heard r'.heard (table i))
    (octets : r'.heard.octets = r.heard.octets ∨ r.heard.kind ≠ .pshAck) :
    (receive cfg table r').table = (receive cfg table r).table := by
  have accepted' := (tr.accepted_iff cfg).mpr accepted
  have chosen' : slotFor table r'.heard.peer = some i := by rw [tr.heard]; exact chosen
  have ttl : IpHeader.ttl r'.buffer = IpHeader.ttl r.buffer := (tr.agree 22 (Nat.lt_of_lt_of_le (by omega) tr.long)).symm
  by_cases regular : IpHeader.ttl r.buffer ≠ 1 ∨ r.heard.status (table i) ≠ tcpFinAck
  · rw [receive_heard cfg table r accepted i chosen regular,
      receive_heard cfg table r' accepted' i chosen' (by rw [ttl, alike.status]; exact regular), Heard.outcome, Heard.outcome,
      alike.status, alike.apply]
  · push Not at regular
    refine trailing_stray cfg table tr accepted i chosen regular.1 regular.2 alike (octets.imp_right fun other => ?_)
    exact ((Heard.closing_iff _ _).mp regular.2).elim And.left fun psh => absurd psh.1 other

theorem trailing_console (alike : Alike r.heard r'.heard (table i)) :
    (receive cfg table r').console = (receive cfg table r).console := by
  have accepted' := (tr.accepted_iff cfg).mpr accepted
  have chosen' : slotFor table r'.heard.peer = some i := by rw [tr.heard]; exact chosen
  have segment : 5 ≤ r.heard.offset.toNat := tr.segment
  have offset : r'.heard.offset = r.heard.offset := by rw [tr.heard]
  rw [receive_console cfg table r accepted i chosen (by omega),
    receive_console cfg table r' accepted' i chosen' (by rw [offset]; omega), offset, alike.printed]
  by_cases silent : r.heard.printed (table i) = 0
  · rw [silent, fetch_zero, fetch_zero]
  · have inside : 34 + 4 * r.heard.offset.toNat + r.heard.printed (table i) ≤ r.len := by
      have count := octets_le r tr.long
      have few := printed_le r.heard (table i)
      rw [hear_offset]
      omega
    exact (agree_fetch r.len _ _ tr.agree _ _ inside).symm

theorem trailing_replies (alike : Alike r.heard r'.heard (table i)) :
    tcpReplies (receive cfg table r') = tcpReplies (receive cfg table r) := by
  have accepted' := (tr.accepted_iff cfg).mpr accepted
  have chosen' : slotFor table r'.heard.peer = some i := by rw [tr.heard]; exact chosen
  have ttl : IpHeader.ttl r'.buffer = IpHeader.ttl r.buffer := (tr.agree 22 (Nat.lt_of_lt_of_le (by omega) tr.long)).symm
  by_cases expired : IpHeader.ttl r.buffer = 1
  · rw [receive_expired_replies cfg table r accepted expired,
      receive_expired_replies cfg table r' accepted' (ttl.trans expired)]
  · obtain ⟨receiver, -, answers⟩ := receive_answers cfg table r accepted i chosen expired
    obtain ⟨receiver', -, answers'⟩ := receive_answers cfg table r' accepted' i chosen' (by rw [ttl]; exact expired)
    have room (q : Reception) (long : 64 ≤ q.len) (segment : 5 ≤ (dataOffset q.buffer).toNat) :
        50 ≤ q.len - q.heard.removed := by
      have count := octets_le q long
      have few := removed_le_octets q.heard
      omega
    have segment' : 5 ≤ (dataOffset r'.buffer).toNat := by
      rw [← data_offset_agree r.len _ _ tr.agree (Nat.le_trans (by omega) tr.long)]
      exact tr.segment
    rw [tcp_replies_answers _ _ _ _ _ _ answers (room r tr.long tr.segment) accepted.ipv4 accepted.tcp,
      tcp_replies_answers _ _ _ _ _ _ answers' (room r' accepted'.long segment') accepted'.ipv4 accepted'.tcp, tr.draws,
      alike.flags]
    by_cases answered : r.heard.flags (table i) = []
    · rw [answered, List.map_nil, List.map_nil]
    · rw [alike.reply answered]

end

theorem of_int32_inj (a b : Int8) (same : UInt32.ofInt a.toInt = UInt32.ofInt b.toInt) : a = b := by
  have lowA := a.le_toInt
  have highA := a.toInt_lt
  have lowB := b.le_toInt
  have highB := b.toInt_lt
  rw [← UInt32.toNat_inj, of_int32_toNat, of_int32_toNat] at same
  rw [← Int8.toInt_inj]
  omega

theorem full_replies (cfg : Config) (table : Table) (r : Reception) (accepted : Accepted cfg r)
    (full : slotFor table r.heard.peer = none) : tcpReplies (receive cfg table r) = [] := by
  refine tcp_replies_none _ ?_
  rw [receive_full cfg table r accepted full]
  exact fun s member => absurd member List.not_mem_nil

section
variable (cfg : Config) (table : Table) (r r' : Reception) (t : List UInt8) (tr : Trailing r r' t)
include tr

theorem verdict_iff (accepted : Accepted cfg r) :
    (Notice.incorrectChecksum ∈ (receive cfg table r').notices ↔ Notice.incorrectChecksum ∈ (receive cfg table r).notices) ↔
      (segmentSum r.buffer (UInt16.ofNat (r.len - 34)) % 65535 = 0 ↔
        (segmentSum r.buffer (UInt16.ofNat (r.len - 34)) + t.length + wordSum (if r.len % 2 = 0 then t else 0 :: t))
          % 65535 = 0) := by
  rw [receive_verdict cfg table r accepted, receive_verdict cfg table r' ((tr.accepted_iff cfg).mpr accepted), tr.sum,
    ne_eq, ne_eq, not_iff_not]
  exact Iff.comm

theorem count_of_table (accepted : Accepted cfg r) (same : (receive cfg table r').table = (receive cfg table r).table)
    (counts : CountsPayload table r.heard) : t.length % 256 = 0 := by
  obtain ⟨i, chosen, takes⟩ := counts
  have accepted' := (tr.accepted_iff cfg).mpr accepted
  have chosen' : slotFor table r'.heard.peer = some i := by rw [tr.heard]; exact chosen
  have takes' : r'.heard.kind = .ack ∧ (table i).connectionStatus ≠ 0 ∨ r'.heard.kind = .pshAck := by
    rw [tr.heard]
    exact takes
  have seq : r'.heard.seq = r.heard.seq := by rw [tr.heard]
  have next := (receive_numbers cfg table r accepted i chosen).1
  have next' := (receive_numbers cfg table r' accepted' i chosen').1
  rw [(apply_numbers _ _ takes).1] at next
  rw [same, next, (apply_numbers _ _ takes').1, seq, UInt32.add_right_inj] at next'
  exact tr.octets_iff.mp (of_int32_inj _ _ next').symm

theorem same_effects_ignored (ignored : ¬ Accepted cfg r) : SameEffects (receive cfg table r) (receive cfg table r') := by
  have quiet := receive_ignored cfg table r ignored
  have quiet' := receive_ignored cfg table r' (fun accepted => ignored ((tr.accepted_iff cfg).mp accepted))
  exact
    { table := quiet'.table.trans quiet.table.symm
      console := quiet'.console.trans quiet.console.symm
      verdict := iff_of_false quiet'.notices quiet.notices
      replies := (tcp_replies_none _ quiet'.sent).trans (tcp_replies_none _ quiet.sent).symm }

theorem same_effects_unnoticed (accepted : Accepted cfg r) (unnoticed : Unnoticed table r t) :
    SameEffects (receive cfg table r) (receive cfg table r') := by
  have accepted' := (tr.accepted_iff cfg).mpr accepted
  have verdict := (verdict_iff cfg table r r' t tr accepted).mpr unnoticed.sum
  cases chosen : slotFor table r.heard.peer with
  | none =>
      have without : slotFor table r'.heard.peer = none := by
        rw [tr.heard]
        exact chosen
      have full := receive_full cfg table r accepted chosen
      have full' := receive_full cfg table r' accepted' without
      exact
        { table := by rw [full, full']
          console := by rw [full, full']
          verdict := verdict
          replies := (full_replies cfg table r' accepted' without).trans (full_replies cfg table r accepted chosen).symm }
  | some i =>
      have unread : r'.heard.octets = r.heard.octets ∨
          ¬ (r.heard.kind = .ack ∧ (table i).connectionStatus ≠ 0 ∨ r.heard.kind = .pshAck) := by
        by_cases takes : r.heard.kind = .ack ∧ (table i).connectionStatus ≠ 0 ∨ r.heard.kind = .pshAck
        · exact Or.inl (tr.octets_iff.mpr (unnoticed.count ⟨i, chosen, takes⟩))
        · exact Or.inr takes
      have alike : Alike r.heard r'.heard (table i) := by
        rw [tr.heard]
        exact alike_octets r.heard r'.heard.octets (table i) unread
      exact
        { table := trailing_table cfg table tr accepted i chosen alike (unread.imp_right fun unread psh => unread (Or.inr psh))
          console := trailing_console cfg table tr accepted i chosen alike
          verdict := verdict
          replies := trailing_replies cfg table tr accepted i chosen alike }

end

theorem same_effects_iff_unnoticed (cfg : Config) (table : Table) (r r' : Reception) (t : List UInt8)
    (tr : Trailing r r' t) :
    SameEffects (receive cfg table r) (receive cfg table r') ↔ ¬ Accepted cfg r ∨ Unnoticed table r t := by
  by_cases accepted : Accepted cfg r
  · constructor
    · intro same
      exact Or.inr ⟨count_of_table cfg table r r' t tr accepted same.table,
        (verdict_iff cfg table r r' t tr accepted).mp same.verdict⟩
    · rintro (ignored | unnoticed)
      · exact absurd accepted ignored
      · exact same_effects_unnoticed cfg table r r' t tr accepted unnoticed
  · exact ⟨fun _ => Or.inl accepted, fun _ => same_effects_ignored cfg table r r' t tr accepted⟩

def lengthened (r : Reception) (more : Nat) (room : r.len + more ≤ 1596) : Reception :=
  { r with
    len := r.len + more
    lenLow := Nat.le_trans r.lenLow (Nat.le_add_right _ _)
    lenHigh := room }

theorem lengthened_trailing (r : Reception) (more : Nat) (room : r.len + more ≤ 1596) (long : 64 ≤ r.len)
    (datagram : 14 + (ntohs (IpHeader.totalLength r.buffer)).toNat ≤ r.len) (segment : 5 ≤ (dataOffset r.buffer).toNat)
    (short : r.len + more ≤ 1514) : Trailing r (lengthened r more room) (fetch r.buffer r.len more) where
  long := long
  datagram := datagram
  segment := segment
  longer := by rw [fetch_length]; rfl
  short := short
  frame := by rw [lengthened, fetch_add, Nat.zero_add]
  draws := rfl

def paddedSyn : Reception := (visitor 100 0 2 []).arrival [htonl 777]

theorem padded_syn_trailing : Trailing paddedSyn (lengthened paddedSyn 4 (by decide)) (fetch paddedSyn.buffer 64 4) :=
  lengthened_trailing paddedSyn 4 (by decide) (by decide) (by decide +kernel) (by decide +kernel) (by decide)

theorem padded_syn_sum : segmentSum paddedSyn.buffer 30 % 65535 = 10 := by
  have valid := (tcp_checksum_zero paddedSyn.buffer 20).mp (buffer_verifies (visitor 100 0 2 []))
  have padding := segment_sum_extend paddedSyn.buffer paddedSyn.buffer 20 (List.replicate 10 0) (fun _ _ => rfl)
    (by decide +kernel) (by decide)
  have sum : segmentSum paddedSyn.buffer 30 = segmentSum paddedSyn.buffer 20 + 10 := padding
  rw [sum]
  omega

theorem same_effects_padded_syn :
    SameEffects (receive soloConfig visited paddedSyn) (receive soloConfig visited (lengthened paddedSyn 4 (by decide))) := by
  have sum := padded_syn_sum
  refine (same_effects_iff_unnoticed soloConfig visited paddedSyn _ _ padded_syn_trailing).mpr (Or.inr ⟨?_, ?_⟩)
  · rintro ⟨_, -, ⟨ack, -⟩ | psh⟩
    · exact absurd ack (by decide +kernel)
    · exact absurd psh (by decide +kernel)
  · have zeros : fetch paddedSyn.buffer 64 4 = [0, 0, 0, 0] := by decide +kernel
    have more : ([0, 0, 0, 0] : List UInt8).length + wordSum [0, 0, 0, 0] = 4 := by decide
    have same : UInt16.ofNat (paddedSyn.len - 34) = 30 := by decide
    rw [zeros, same, if_pos (by decide), Nat.add_assoc, more]
    omega

theorem check_sequence_counted : Reachable soloConfig visited ∧
    Trailing (visitorText 24) (lengthened (visitorText 24) 4 (by decide)) (fetch (visitorText 24).buffer 64 4) ∧
    ¬ SameEffects (receive soloConfig visited (visitorText 24))
      (receive soloConfig visited (lengthened (visitorText 24) 4 (by decide))) := by
  have tr := lengthened_trailing (visitorText 24) 4 (by decide) (by decide) (by decide +kernel) (by decide +kernel) (by decide)
  refine ⟨visited_reachable, tr, ?_⟩
  intro same
  have counts : CountsPayload visited (visitorText 24).heard := ⟨0, by decide +kernel, Or.inr (by decide +kernel)⟩
  have accepted : Accepted soloConfig (visitorText 24) := arrival_accepted _ _ (show (64 : UInt8) ≠ 0 by decide)
  have zero := count_of_table soloConfig visited _ _ _ tr accepted same.table counts
  rw [fetch_length] at zero
  exact absurd zero (by decide)

end OsiStack
