import OsiStack.Arrival
import OsiStack.Console

set_option autoImplicit false

namespace OsiStack

open Octets

structure NoTrace (table : Table) (e : Effects) : Prop where
  sent : e.sent = []
  console : e.console = []
  table : e.table = table

def Recorded (m : Memory) (len : Nat) (conn : TcpConnection) : Prop :=
  conn.nextSeq = ntohl (Tcp.seqNumber m) + UInt32.ofInt (payloadCount m len) ∧ conn.currSeq = ntohl (Tcp.ackNumber m)

-- The segments that the slot swallows: control bits that are not handled, an ACK
-- on a closed slot, and an ACK or PSH/ACK that is neither answered nor news.
structure Swallows (m : Memory) (len : Nat) (conn : TcpConnection) : Prop where
  syn : controlBits m ≠ 2
  finAck : controlBits m ≠ 17
  ack : controlBits m = 16 → conn.connectionStatus ≠ 0 → conn.connectionStatus ≠ 2 ∧
    (conn.connectionStatus = 1 → payloadCount m len ≤ 0) ∧ Recorded m len conn
  pshAck : controlBits m = 24 → (payloadCount m len < -3 ∨ payloadCount m len = -1) ∧ Recorded m len conn

structure Inert (cfg : Network) (table : Table) (len : Nat) (m : Memory) : Prop where
  unasked : ¬ ArpRequest cfg len m
  stays : ForLocalMac cfg len m → IpHeader.protocol m ≠ 6 → ¬ Remote cfg m
  swallowed : ForTcpPort cfg len m → ∀ j, SenderSlot table (sender m) j → Swallows m len (table j)

theorem recorded_iff (m : Memory) (len : Nat) (conn : TcpConnection)
    (counts : (hear m len).kind = .ack ∨ (hear m len).kind = .pshAck) :
    Recorded m len conn ↔ conn.nextSeq = (hear m len).nextSeq ∧ conn.currSeq = (hear m len).ack := by
  have count : payloadCount m len = (hear m len).octets.toInt := (octets_toInt m len).symm
  rw [Recorded, count]
  rcases counts with ack | psh
  · simp [Heard.nextSeq, ack]
  · simp [Heard.nextSeq, psh]

theorem renumbered_iff (conn : TcpConnection) (next curr : UInt32) :
    { conn with nextSeq := next, currSeq := curr } = conn ↔ conn.nextSeq = next ∧ conn.currSeq = curr := by
  cases conn
  simp [eq_comm]

theorem swallows_iff (m : Memory) (len : Nat) (conn : TcpConnection) :
    Swallows m len conn ↔ ¬ Provokes m len conn ∧ (hear m len).apply conn = conn := by
  have kind : (hear m len).kind = kindOf (controlBits m) := rfl
  constructor
  · intro swallows
    have silent : ¬ Provokes m len conn := by
      rintro (syn | fin | ⟨ack, up, counted⟩ | ⟨psh, least, apart⟩)
      · exact swallows.syn syn
      · exact swallows.finAck fin
      · have rules := (swallows.ack ack (by omega)).2.1 up
        omega
      · have rules := (swallows.pshAck psh).1
        omega
    refine ⟨silent, ?_⟩
    cases heard : (hear m len).kind with
    | syn => exact absurd ((kind_of_syn _).mp heard) swallows.syn
    | finAck => exact absurd ((kind_of_fin_ack _).mp heard) swallows.finAck
    | other => simp [Heard.apply, heard]
    | ack =>
        by_cases dead : conn.connectionStatus = 0
        · exact apply_closed_ack _ _ heard dead
        · obtain ⟨apart, -, recorded⟩ := swallows.ack ((kind_of_ack _).mp heard) dead
          simp only [Heard.apply, heard, if_neg dead, if_neg apart]
          exact (renumbered_iff conn _ _).mpr ((recorded_iff m len conn (Or.inl heard)).mp recorded)
    | pshAck =>
        have recorded := (swallows.pshAck ((kind_of_psh_ack _).mp heard)).2
        simp only [Heard.apply, heard]
        exact (renumbered_iff conn _ _).mpr ((recorded_iff m len conn (Or.inr heard)).mp recorded)
  · rintro ⟨silent, same⟩
    refine ⟨fun syn => silent (Or.inl syn), fun fin => silent (Or.inr (Or.inl fin)), fun ack live => ?_, fun psh => ?_⟩
    · have heard : (hear m len).kind = .ack := kind.trans ((kind_of_ack _).mpr ack)
      simp only [Heard.apply, heard, if_neg live] at same
      have apart : conn.connectionStatus ≠ 2 := by
        intro half
        have status := congrArg TcpConnection.connectionStatus same
        simp [half] at status
      rw [if_neg apart] at same
      refine ⟨apart, fun up => ?_, (recorded_iff m len conn (Or.inl heard)).mpr ((renumbered_iff conn _ _).mp same)⟩
      by_contra counted
      exact silent (Or.inr (Or.inr (Or.inl ⟨ack, up, by omega⟩)))
    · have heard : (hear m len).kind = .pshAck := kind.trans ((kind_of_psh_ack _).mpr psh)
      simp only [Heard.apply, heard] at same
      refine ⟨?_, (recorded_iff m len conn (Or.inr heard)).mpr ((renumbered_iff conn _ _).mp same)⟩
      by_contra least
      exact silent (Or.inr (Or.inr (Or.inr ⟨psh, by omega, by omega⟩)))

theorem printed_answered (h : Heard) (conn : TcpConnection) (silent : h.flags conn = []) : h.printed conn = 0 := by
  unfold Heard.printed
  cases kind : h.kind with
  | syn => rfl
  | finAck => rfl
  | other => rfl
  | ack =>
      simp only [Heard.flags, kind] at silent
      dsimp only
      split
      · rename_i up
        by_contra counted
        rw [if_pos ⟨up, by omega⟩] at silent
        exact absurd silent (by simp)
      · rfl
  | pshAck =>
      simp only [Heard.flags, kind] at silent
      dsimp only
      by_contra counted
      have positive : 0 ≤ h.octets.toInt := by omega
      rw [if_pos (Or.inl positive)] at silent
      split at silent <;> simp at silent

section
variable (cfg : Network) (draws : List UInt32) (len : Nat) (r : Routing) (table : Table)

theorem segment_no_trace (j : Fin tcpConnectionLimit) (heard : refusal r.frame = none)
    (chosen : slotFor table (sender r.frame) = some j) :
    NoTrace table (handleTcpPacket cfg draws len r table) ↔ Swallows r.frame len (table j) := by
  have sent := segment_sent_provoked cfg draws len r table
  have slot := sender_slot table _ j chosen
  have status := handle_tcp_first_status draws len r.frame table j heard chosen
  have unanswered : ¬ Provokes r.frame len (table j) → (hear r.frame len).flags (table j) = [] := fun silent =>
    not_not.mp fun sends => silent ((flags_provoked r.frame len (table j)).mp sends)
  have once (silent : ¬ Provokes r.frame len (table j)) : (handleTcp draws len r.frame table false).status ≠ tcpFinAck := by
    intro closing
    have silenced := unanswered silent
    rw [flags_status _ _ draws, ← status, closing] at silenced
    simp [tcpFinAck, tcpReg] at silenced
  have changed (silent : ¬ Provokes r.frame len (table j)) : (handleTcpPacket cfg draws len r table).table =
      Function.update table j ((hear r.frame len).apply (table j)) := by
    rw [(handle_tcp_packet_once cfg draws len r table (once silent)).1, handle_tcp_first_table draws len r.frame table heard]
    exact first_table_some _ table j chosen
  rw [swallows_iff]
  constructor
  · intro quiet
    have silent : ¬ Provokes r.frame len (table j) := fun provokes =>
      absurd quiet.sent (sent.mpr ⟨heard, j, slot, provokes⟩)
    have same := quiet.table
    rw [changed silent, Function.update_eq_self_iff] at same
    exact ⟨silent, same⟩
  · rintro ⟨silent, same⟩
    refine ⟨?_, ?_, ?_⟩
    · by_contra sends
      obtain ⟨-, k, other, provokes⟩ := sent.mp sends
      rw [sender_slot_chosen table _ k other] at chosen
      cases chosen
      exact silent provokes
    · obtain ⟨m', -, console⟩ := first_payload_console draws len r.frame table j
      rw [(handle_tcp_packet_once cfg draws len r table (once silent)).2,
        handle_tcp_heard draws len r.frame table j heard chosen]
      dsimp only
      rw [console, printed_answered _ _ (unanswered silent), fetch_zero]
    · rw [changed silent, same, Function.update_eq_self]

theorem handle_tcp_packet_no_trace : NoTrace table (handleTcpPacket cfg draws len r table) ↔
    (refusal r.frame = none → ∀ j, SenderSlot table (sender r.frame) j → Swallows r.frame len (table j)) := by
  cases heard : refusal r.frame with
  | some notice =>
      rw [handle_tcp_packet_refused cfg draws len r table notice heard]
      exact iff_of_true ⟨rfl, rfl, rfl⟩ fun same => by cases same
  | none =>
      cases chosen : slotFor table (sender r.frame) with
      | none =>
          rw [handle_tcp_packet_full cfg draws len r table heard chosen]
          refine ⟨fun _ _ j slot => ?_, fun _ => ⟨rfl, rfl, rfl⟩⟩
          rw [sender_slot_chosen table _ j slot] at chosen
          cases chosen
      | some j =>
          rw [segment_no_trace cfg draws len r table j heard chosen]
          constructor
          · intro swallows _ k slot
            rw [sender_slot_chosen table _ k slot] at chosen
            cases chosen
            exact swallows
          · exact fun rules => rules rfl j (sender_slot table _ j chosen)

end

theorem swallows_congr (m m' : Memory) (len : Nat) (conn : TcpConnection) (same : readHeader m' = readHeader m) :
    Swallows m' len conn ↔ Swallows m len conn := by
  have seq : ntohl (Tcp.seqNumber m') = ntohl (Tcp.seqNumber m) := by
    simpa only [readHeader] using congrArg Header.seq same
  have ack : ntohl (Tcp.ackNumber m') = ntohl (Tcp.ackNumber m) := by
    simpa only [readHeader] using congrArg Header.ack same
  have bits : controlBits m' = controlBits m := congrArg Header.bits same
  have offset : dataOffset m' = dataOffset m := congrArg Header.offset same
  have count : payloadCount m' len = payloadCount m len := by rw [payloadCount, payloadCount, offset]
  constructor
  · rintro ⟨syn, fin, acks, pushes⟩
    simp only [Recorded, seq, ack, bits, count] at syn fin acks pushes
    exact ⟨syn, fin, acks, pushes⟩
  · rintro ⟨syn, fin, acks, pushes⟩
    simp only [Recorded, ← seq, ← ack, ← bits, ← count] at syn fin acks pushes
    exact ⟨syn, fin, acks, pushes⟩

section
variable (cfg : Network) (len : Nat) (m : Memory) (icmpCode : Nat) (draws : List UInt32) (table : Table)

theorem packet_no_trace (receiver : Nat) (long : 64 ≤ len) (unicast : FrameFields.destAddr m ≠ broadcastAddr)
    (mine : ethCmp cfg m = some receiver) (ipv4 : ntohs (FrameFields.type m) = 2048) :
    NoTrace table (handlePacket cfg draws len m ⟨1, icmpCode⟩ receiver table) ↔ Inert cfg table len m := by
  have unasked : ¬ ArpRequest cfg len m := fun request => unicast request.broadcast
  by_cases here : ForLocalMac cfg len m
  · have alive := local_mac_alive cfg len m here
    by_cases tcp : IpHeader.protocol m = 6
    · have header := packet_routing_header cfg m ⟨1, icmpCode⟩ receiver
      have refused := packet_routing_refusal cfg m ⟨1, icmpCode⟩ receiver
      have from' := (packet_routing_segment cfg m ⟨1, icmpCode⟩ receiver len).2.1
      rw [handle_packet_segment cfg draws len m _ receiver table here.filled alive tcp, handle_tcp_packet_no_trace, refused,
        from']
      simp only [swallows_congr m _ len _ header]
      constructor
      · intro rules
        exact ⟨unasked, fun _ other => absurd tcp other,
          fun port => rules ((refusal_none m).mpr ⟨port.destAddr, port.destPort⟩)⟩
      · intro inert heard
        obtain ⟨addr, port⟩ := (refusal_none m).mp heard
        exact inert.swallowed ⟨here, tcp, addr, port⟩
    · have elsewhere (port : ForTcpPort cfg len m) : False := tcp port.tcp
      by_cases remote : Remote cfg m
      · rw [handle_packet_routed cfg draws len m _ receiver table ((remote_iff cfg m).mp remote) here.filled alive tcp]
        constructor
        · intro quiet
          exact absurd quiet.sent (by simp)
        · intro inert
          exact absurd remote (inert.stays here tcp)
      · have isLocal : (isInterface cfg (IpHeader.destAddr m)).isSome := by
          rw [remote_iff, ← ne_eq, Option.ne_none_iff_isSome] at remote
          exact remote
        rw [handlePacket, if_neg (by simpa using here.filled), if_neg alive, if_pos ⟨isLocal, tcp⟩]
        exact ⟨fun _ => ⟨unasked, fun _ _ => remote, fun port => absurd port elsewhere⟩, fun _ => ⟨rfl, rfl, rfl⟩⟩
  · have fate := handle_packet_fate cfg draws len m ⟨1, icmpCode⟩ receiver table
    generalize handlePacket cfg draws len m ⟨1, icmpCode⟩ receiver table = e at fate ⊢
    have arrives (filled : 20 < (ntohs (IpHeader.totalLength m)).toNat) (alive : IpHeader.ttl m ≠ 0) : ForLocalMac cfg len m :=
      ⟨long, unicast, eth_cmp_mine cfg m receiver mine, ipv4, filled, octet_one_le _ alive⟩
    cases fate with
    | dropped =>
        exact ⟨fun _ => ⟨unasked, fun local' => absurd local' here, fun port => absurd port.toForLocalMac here⟩,
          fun _ => ⟨rfl, rfl, rfl⟩⟩
    | segment filled alive => exact absurd (arrives filled alive) here
    | routed filled alive => exact absurd (arrives filled alive) here

theorem arp_request_answered (request : ArpRequest cfg len m) :
    (interfaceReceiver cfg len m icmpCode draws table).sent ≠ [] := by
  obtain ⟨iface, target, asked⟩ := request.target
  rw [interface_receiver_arp cfg len m icmpCode draws table request.long request.broadcast request.type]
  cases found : isInterface cfg (Arp.targetIp m) with
  | none =>
      have misses :=
        (ListSearch.find_idx_none (fun iface : Interface => iface.ipAddr = Arp.targetIp m) cfg.interfaceList).mp found
      exact absurd asked (misses iface target)
  | some k => simp [handleArp, request.request, found]

theorem no_trace_iff : NoTrace table (interfaceReceiver cfg len m icmpCode draws table) ↔ Inert cfg table len m := by
  by_cases request : ArpRequest cfg len m
  · exact iff_of_false (fun quiet => arp_request_answered cfg len m icmpCode draws table request quiet.sent)
      fun inert => inert.unasked request
  · by_cases here : ForLocalMac cfg len m
    · obtain ⟨receiver, found⟩ := eth_cmp_some cfg m here.mine
      rw [interface_receiver_packet cfg len m icmpCode draws table receiver here.long here.unicast found here.ipv4]
      exact packet_no_trace cfg len m icmpCode draws table receiver here.long here.unicast found here.ipv4
    · have inert : Inert cfg table len m :=
        ⟨request, fun local' => absurd local' here, fun port => absurd port.toForLocalMac here⟩
      refine iff_of_true ?_ inert
      have fate := interface_receiver_fate cfg len m icmpCode draws table
      generalize interfaceReceiver cfg len m icmpCode draws table = e at fate ⊢
      cases fate with
      | ignored => exact ⟨rfl, rfl, rfl⟩
      | arp long broadcast type =>
          obtain ⟨-, asked⟩ := handle_arp_sent cfg m len
          refine ⟨not_not.mp fun sends => ?_, rfl, rfl⟩
          obtain ⟨asks, target⟩ := asked sends
          exact request ⟨long, broadcast, type, asks, target⟩
      | packet receiver long unicast mine ipv4 =>
          exact (packet_no_trace cfg len m icmpCode draws table receiver long unicast mine ipv4).mpr inert

end

end OsiStack
