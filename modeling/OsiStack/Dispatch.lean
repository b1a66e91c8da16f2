import OsiStack.Answer
import OsiStack.Receiver

set_option autoImplicit false

namespace OsiStack

open Octets

structure Accepted (cfg : Network) (r : Reception) : Prop where
  long : 64 ≤ r.len
  unicast : FrameFields.destAddr r.buffer ≠ broadcastAddr
  forMe : (ethCmp cfg r.buffer).isSome
  ipv4 : ntohs (FrameFields.type r.buffer) = 2048
  filled : 20 < (ntohs (IpHeader.totalLength r.buffer)).toNat
  alive : IpHeader.ttl r.buffer ≠ 0
  tcp : IpHeader.protocol r.buffer = 6
  heard : refusal r.buffer = none

instance (cfg : Network) (r : Reception) : Decidable (Accepted cfg r) :=
  decidable_of_iff (64 ≤ r.len ∧ FrameFields.destAddr r.buffer ≠ broadcastAddr ∧ (ethCmp cfg r.buffer).isSome ∧
      ntohs (FrameFields.type r.buffer) = 2048 ∧ 20 < (ntohs (IpHeader.totalLength r.buffer)).toNat ∧
      IpHeader.ttl r.buffer ≠ 0 ∧ IpHeader.protocol r.buffer = 6 ∧ refusal r.buffer = none)
    ⟨fun ⟨long, unicast, forMe, ipv4, filled, alive, tcp, heard⟩ => ⟨long, unicast, forMe, ipv4, filled, alive, tcp, heard⟩,
      fun a => ⟨a.long, a.unicast, a.forMe, a.ipv4, a.filled, a.alive, a.tcp, a.heard⟩⟩

-- Routing of a packet for a local address: only a TTL of 1 makes an error of it.
def localRouting (m : Memory) (icmp : Icmp) (receiver : Nat) : Routing where
  frame := m
  error := decide (IpHeader.ttl m = 1)
  icmp := if IpHeader.ttl m = 1 then ⟨11, 0⟩ else icmp
  transmitter := receiver
  finalDestAddr := some (FrameFields.srcAddr m)

theorem tcp_ip_interface (cfg : Config) : (isInterface cfg tcpIp).isSome := by
  obtain ⟨iface, member, addr⟩ := cfg.tcpIpLocal
  rw [isInterface, List.findIdx?_isSome, List.any_eq_true]
  exact ⟨iface, member, by simpa using addr⟩

theorem refusal_verdict (m : Memory) (notice : Notice) (refused : refusal m = some notice) :
    Notice.incorrectChecksum ≠ notice := by
  unfold refusal at refused
  split at refused
  · cases refused
    decide
  · split at refused
    · cases refused
      decide
    · cases refused

section
variable (cfg : Config) (draws : List UInt32) (len : Nat) (m : Memory) (icmp : Icmp) (receiver : Nat) (table : Table)

theorem handle_packet_tcp (filled : 20 < (ntohs (IpHeader.totalLength m)).toNat) (alive : IpHeader.ttl m ≠ 0)
    (tcp : IpHeader.protocol m = 6) (addressed : IpHeader.destAddr m = tcpIp) :
    handlePacket cfg draws len m icmp receiver table =
      handleTcpPacket cfg draws len (localRouting m icmp receiver) table := by
  have here := tcp_ip_interface cfg
  simp [handlePacket, packetRouting, filled, alive, tcp, addressed, here, localRouting]

end

def TcpFrame (frame : List UInt8) : Prop :=
  54 ≤ frame.length ∧ ntohs (FrameFields.type (ofList frame)) = 2048 ∧ IpHeader.protocol (ofList frame) = 6

theorem answers_tcp (h : Heard) (draws : List UInt32) (len : Nat) (r : Routing) (s : Sent) (bits : UInt8)
    (answers : Answers h draws len r s bits) (whole : 54 ≤ s.frame.length)
    (ipv4 : ntohs (FrameFields.type r.frame) = 2048) (tcp : IpHeader.protocol r.frame = 6) : TcpFrame s.frame := by
  have same : FrameFields.type (ofList s.frame) = FrameFields.type r.frame :=
    load16_congr _ _ 12 fun k low high => answers.link k (by omega)
  exact ⟨whole, by rw [same]; exact ipv4, (answers.link 23 (by omega)).trans tcp⟩

instance (frame : List UInt8) : Decidable (TcpFrame frame) := inferInstanceAs (Decidable (_ ∧ _ ∧ _))

def tcpReplies (e : Effects) : List (UInt16 × UInt32 × UInt32) :=
  (e.sent.filter fun s => decide (TcpFrame s.frame)).map fun s =>
    let header := readHeader (ofList s.frame)
    (header.totalLength, header.ack, header.seq)

theorem tcp_replies_answers (e : Effects) (h : Heard) (draws : List UInt32) (len : Nat) (route : Routing) (flags : List UInt8)
    (answers : List.Forall₂ (Answers h draws len route) e.sent flags) (whole : 50 ≤ len - h.removed)
    (ipv4 : ntohs (FrameFields.type route.frame) = 2048) (tcp : IpHeader.protocol route.frame = 6) :
    tcpReplies e = flags.map fun _ => ((h.reply draws).totalLength, (h.reply draws).ack, (h.reply draws).seq) := by
  unfold tcpReplies
  generalize e.sent = sent at answers
  induction answers with
  | nil => rfl
  | @cons s bits sent flags here _ ih =>
      have size := here.size
      have frame := answers_tcp h draws len route s bits here (by omega) ipv4 tcp
      rw [List.filter_cons_of_pos (by simpa using frame), List.map_cons, ih, List.map_cons, here.header (by omega)]

theorem tcp_replies_none (e : Effects) (otherwise : ∀ s ∈ e.sent, ¬ TcpFrame s.frame) : tcpReplies e = [] := by
  rw [tcpReplies, List.map_eq_nil_iff, List.filter_eq_nil_iff]
  simpa using otherwise

structure Quiet (table : Table) (e : Effects) : Prop where
  table : e.table = table
  console : e.console = []
  sent : ∀ s ∈ e.sent, ¬ TcpFrame s.frame
  notices : Notice.incorrectChecksum ∉ e.notices

theorem quiet_none (table : Table) : Quiet table (noEffect table) :=
  ⟨rfl, rfl, by simp [noEffect], by simp [noEffect]⟩

-- A segment that is not for the stack's own address is refused by handle_tcp,
-- whatever route was found for it.
theorem handle_packet_foreign (cfg : Network) (draws : List UInt32) (len : Nat) (m : Memory) (icmp : Icmp) (receiver : Nat)
    (table : Table) (tcp : IpHeader.protocol m = 6) (foreign : IpHeader.destAddr m ≠ tcpIp) :
    (handlePacket cfg draws len m icmp receiver table).table = table ∧
      (handlePacket cfg draws len m icmp receiver table).sent = [] ∧
      (handlePacket cfg draws len m icmp receiver table).console = [] ∧
      Notice.incorrectChecksum ∉ (handlePacket cfg draws len m icmp receiver table).notices := by
  have dest : IpHeader.destAddr (packetRouting cfg m icmp receiver).frame = IpHeader.destAddr m := by
    apply load_octets_congr
    intro i low high
    exact packet_routing_octet cfg m icmp receiver i (by omega)
  have protocol : IpHeader.protocol (packetRouting cfg m icmp receiver).frame = 6 := by
    rw [← tcp]
    exact packet_routing_octet cfg m icmp receiver 23 (by omega)
  have refused : refusal (packetRouting cfg m icmp receiver).frame = some .unknownAddress := by
    rw [refusal, dest, if_pos foreign]
  unfold handlePacket
  split
  · exact ⟨rfl, rfl, rfl, by simp [noEffect]⟩
  · split
    · exact ⟨rfl, rfl, rfl, by simp [noEffect]⟩
    · split
      · exact ⟨rfl, rfl, rfl, by simp [noEffect]⟩
      · dsimp only
        rw [if_pos protocol, handle_tcp_packet_refused cfg draws len _ table _ refused]
        exact ⟨rfl, rfl, rfl, by simp⟩

theorem sent_type (interface : Nat) (m : Memory) (len : Nat) (long : 14 ≤ len) (short : len < 65536) :
    FrameFields.type (ofList (sendEthernetFrame interface m len).frame) = FrameFields.type m :=
  load16_congr _ _ 12 fun i _ high => sent_octet interface m len i (by omega) short

theorem handle_packet_other (cfg : Network) (draws : List UInt32) (len : Nat) (m : Memory) (icmp : Icmp) (receiver : Nat)
    (table : Table) (long : 64 ≤ len) (short : len < 60000) (other : IpHeader.protocol m ≠ 6) :
    Quiet table (handlePacket cfg draws len m icmp receiver table) := by
  have protocol : IpHeader.protocol (packetRouting cfg m icmp receiver).frame = IpHeader.protocol m :=
    packet_routing_octet cfg m icmp receiver 23 (by omega)
  unfold handlePacket
  split
  · exact quiet_none table
  · split
    · exact quiet_none table
    · split
      · exact quiet_none table
      · dsimp only
        rw [protocol, if_neg other]
        refine ⟨rfl, rfl, ?_, by simp⟩
        intro s member tcp
        rw [List.mem_singleton] at member
        subst member
        have sealed := tcp.2.2
        generalize packetRouting cfg m icmp receiver = r at sealed protocol
        cases error : r.error with
        | true =>
            obtain ⟨one, size⟩ := encapsulation_error cfg r.frame len r.finalDestAddr r.icmp r.transmitter false
            rw [error, IpHeader.protocol, sent_octet _ _ _ 23 (by omega) (by omega)] at sealed
            exact absurd (sealed.symm.trans one) (by decide)
        | false =>
            have size := encapsulation_len cfg r.frame len r.finalDestAddr r.icmp r.transmitter false
            rw [protocol, if_neg (by simp [other])] at size
            rw [error, IpHeader.protocol, sent_octet _ _ _ 23 (by omega) (by omega),
              encapsulation_octet _ _ _ _ _ _ _ 23 (by omega) (by omega)] at sealed
            exact other (protocol.symm.trans sealed)

theorem handle_arp_member (cfg : Network) (m : Memory) (len : Nat) (s : Sent) (member : s ∈ handleArp cfg m len) :
    ntohs (Arp.opcode m) = 1 ∧ ∃ idx reply, isInterface cfg (Arp.targetIp m) = some idx ∧
      FrameFields.type reply = FrameFields.type m ∧
      s = sendEthernetFrame idx (store32 reply (len - 4) (crc32 0 (fetch reply 0 (len - 4)))) len := by
  unfold handleArp at member
  split at member
  · rename_i request
    split at member
    · simp at member
    · rename_i idx found
      refine ⟨request, idx, _, found, ?_, List.mem_singleton.mp member⟩
      simp (disch := first | (simp; done) | (simp; omega))
  · simp at member

theorem handle_arp_type (cfg : Network) (m : Memory) (len : Nat) (long : 64 ≤ len) (short : len < 65536) (s : Sent)
    (member : s ∈ handleArp cfg m len) : FrameFields.type (ofList s.frame) = FrameFields.type m := by
  obtain ⟨-, idx, reply, -, type, sent⟩ := handle_arp_member cfg m len s member
  rw [sent, sent_type _ _ len (by omega) short, ← type]
  simp (disch := first | (simp; done) | (simp; omega))

theorem interface_receiver_packet (cfg : Network) (len : Nat) (m : Memory) (icmpCode : Nat) (draws : List UInt32)
    (table : Table) (receiver : Nat) (long : 64 ≤ len) (unicast : FrameFields.destAddr m ≠ broadcastAddr)
    (mine : ethCmp cfg m = some receiver) (ipv4 : ntohs (FrameFields.type m) = 2048) :
    interfaceReceiver cfg len m icmpCode draws table = handlePacket cfg draws len m ⟨1, icmpCode⟩ receiver table := by
  have nonempty : len ≠ 0 := by omega
  have valid : ¬ (len : Int) - 14 - 4 < 46 := by omega
  rw [interfaceReceiver, if_neg nonempty]
  simp only [handleFrame, valid, unicast, ipv4, mine, not_false_eq_true, decide_true, decide_false, not_true_eq_false,
    Bool.false_eq_true, if_false, if_true]

inductive FrameFate (cfg : Network) (len : Nat) (m : Memory) (icmpCode : Nat) (draws : List UInt32) (table : Table) :
    Effects → Prop
  | ignored : FrameFate cfg len m icmpCode draws table (noEffect table)
  | arp (long : 64 ≤ len) (broadcast : FrameFields.destAddr m = broadcastAddr)
      (type : ntohs (FrameFields.type m) = 2054) :
      FrameFate cfg len m icmpCode draws table ⟨table, handleArp cfg m len, [], []⟩
  | packet (receiver : Nat) (long : 64 ≤ len) (unicast : FrameFields.destAddr m ≠ broadcastAddr)
      (mine : ethCmp cfg m = some receiver) (ipv4 : ntohs (FrameFields.type m) = 2048) :
      FrameFate cfg len m icmpCode draws table (handlePacket cfg draws len m ⟨1, icmpCode⟩ receiver table)

theorem interface_receiver_arp (cfg : Network) (len : Nat) (m : Memory) (icmpCode : Nat) (draws : List UInt32) (table : Table)
    (long : 64 ≤ len) (broadcast : FrameFields.destAddr m = broadcastAddr) (arp : ntohs (FrameFields.type m) = 2054) :
    interfaceReceiver cfg len m icmpCode draws table = ⟨table, handleArp cfg m len, [], []⟩ := by
  have nonempty : len ≠ 0 := by omega
  have valid : ¬ (len : Int) - 14 - 4 < 46 := by omega
  simp [interfaceReceiver, handleFrame, valid, nonempty, broadcast, arp]

theorem interface_receiver_fate (cfg : Network) (len : Nat) (m : Memory) (icmpCode : Nat) (draws : List UInt32)
    (table : Table) : FrameFate cfg len m icmpCode draws table (interfaceReceiver cfg len m icmpCode draws table) := by
  by_cases short : (len : Int) - 14 - 4 < 46
  · have nothing : interfaceReceiver cfg len m icmpCode draws table = noEffect table := by
      simp [interfaceReceiver, handleFrame, short]
    rw [nothing]
    exact .ignored
  · have long : 64 ≤ len := by omega
    by_cases broadcast : FrameFields.destAddr m = broadcastAddr
    · by_cases arp : ntohs (FrameFields.type m) = 2054
      · rw [interface_receiver_arp cfg len m icmpCode draws table long broadcast arp]
        exact .arp long broadcast arp
      · have nothing : interfaceReceiver cfg len m icmpCode draws table = noEffect table := by
          simp [interfaceReceiver, handleFrame, broadcast, arp]
        rw [nothing]
        exact .ignored
    · by_cases ipv4 : ntohs (FrameFields.type m) = 2048
      · cases mine : ethCmp cfg m with
        | some receiver =>
            rw [interface_receiver_packet cfg len m icmpCode draws table receiver long broadcast mine ipv4]
            exact .packet receiver long broadcast mine ipv4
        | none =>
            have nothing : interfaceReceiver cfg len m icmpCode draws table = noEffect table := by
              simp [interfaceReceiver, handleFrame, broadcast, mine]
            rw [nothing]
            exact .ignored
      · have nothing : interfaceReceiver cfg len m icmpCode draws table = noEffect table := by
          simp only [interfaceReceiver, handleFrame, broadcast, ipv4]
          cases ethCmp cfg m <;> simp
        rw [nothing]
        exact .ignored

section
variable (cfg : Config) (table : Table) (r : Reception)

theorem receive_accepted (accepted : Accepted cfg r) : ∃ receiver, ethCmp cfg r.buffer = some receiver ∧
    receive cfg table r =
      handleTcpPacket cfg r.draws r.len (localRouting r.buffer ⟨1, r.icmpCode⟩ receiver) table := by
  obtain ⟨receiver, mine⟩ := Option.isSome_iff_exists.mp accepted.forMe
  refine ⟨receiver, mine, ?_⟩
  rw [receive, interface_receiver_packet cfg r.len r.buffer r.icmpCode r.draws table receiver accepted.long accepted.unicast
    mine accepted.ipv4]
  exact handle_packet_tcp cfg r.draws r.len r.buffer _ receiver table accepted.filled accepted.alive accepted.tcp
    ((refusal_none r.buffer).mp accepted.heard).1

theorem handle_packet_ignored (receiver : Nat) (long : 64 ≤ r.len) (mine : ethCmp cfg r.buffer = some receiver)
    (unicast : FrameFields.destAddr r.buffer ≠ broadcastAddr) (ipv4 : ntohs (FrameFields.type r.buffer) = 2048)
    (ignored : ¬ Accepted cfg r) :
    Quiet table (handlePacket cfg r.draws r.len r.buffer ⟨1, r.icmpCode⟩ receiver table) := by
  have high := r.lenHigh
  by_cases filled : 20 < (ntohs (IpHeader.totalLength r.buffer)).toNat
  · by_cases alive : IpHeader.ttl r.buffer = 0
    · rw [handlePacket, if_neg (by simpa using filled), if_pos alive]
      exact quiet_none table
    · by_cases tcp : IpHeader.protocol r.buffer = 6
      · cases heard : refusal r.buffer with
        | none => exact absurd ⟨long, unicast, by simp [mine], ipv4, filled, alive, tcp, heard⟩ ignored
        | some notice =>
            by_cases addressed : IpHeader.destAddr r.buffer = tcpIp
            · rw [handle_packet_tcp cfg r.draws r.len r.buffer _ receiver table filled alive tcp addressed,
                handle_tcp_packet_refused cfg r.draws r.len _ table notice heard]
              exact ⟨rfl, rfl, by simp, by simp [refusal_verdict r.buffer notice heard]⟩
            · obtain ⟨same, silent, quiet, verdict⟩ :=
                handle_packet_foreign cfg r.draws r.len r.buffer ⟨1, r.icmpCode⟩ receiver table tcp addressed
              exact ⟨same, quiet, by simp [silent], verdict⟩
      · exact handle_packet_other cfg r.draws r.len r.buffer _ receiver table long (by omega) tcp
  · rw [handlePacket, if_pos filled]
    exact quiet_none table

theorem receive_ignored (ignored : ¬ Accepted cfg r) : Quiet table (receive cfg table r) := by
  have high := r.lenHigh
  have fate := interface_receiver_fate cfg r.len r.buffer r.icmpCode r.draws table
  rw [receive]
  generalize interfaceReceiver cfg r.len r.buffer r.icmpCode r.draws table = e at fate ⊢
  cases fate with
  | ignored => exact quiet_none table
  | arp long _ type =>
      refine ⟨rfl, rfl, ?_, by simp⟩
      intro s member tcp
      rw [TcpFrame, handle_arp_type cfg r.buffer r.len long (by omega) s member, type] at tcp
      exact absurd tcp.2.1 (by decide)
  | packet receiver long unicast mine ipv4 =>
      exact handle_packet_ignored cfg table r receiver long mine unicast ipv4 ignored

end

end OsiStack
