import OsiStack.Reply

set_option autoImplicit false

namespace OsiStack

open Octets

theorem apply_key (h : Heard) (conn : TcpConnection) (later : h.kind ≠ .syn) : peerOf (h.apply conn) = peerOf conn := by
  unfold Heard.apply
  cases kind : h.kind with
  | syn => exact absurd kind later
  | ack => dsimp only; split <;> rfl
  | pshAck => rfl
  | finAck => rfl
  | other => rfl

theorem apply_live (h : Heard) (conn : TcpConnection) (later : h.kind ≠ .syn) : isLive (h.apply conn) = isLive conn := by
  unfold Heard.apply
  cases kind : h.kind with
  | syn => exact absurd kind later
  | ack =>
      by_cases dead : conn.connectionStatus = 0
      · simp [dead]
      · by_cases half : conn.connectionStatus = 2 <;> simp [isLive, dead, half]
  | pshAck => rfl
  | finAck => rfl
  | other => rfl

theorem apply_syn_key (h : Heard) (conn : TcpConnection) (syn : h.kind = .syn) : peerOf (h.apply conn) = h.peer := by
  simp [Heard.apply, syn, peerOf]

theorem closing_later (h : Heard) (conn : TcpConnection) (closing : h.status conn = tcpFinAck) : h.kind ≠ .syn := by
  intro syn
  rcases (Heard.closing_iff h conn).mp closing with ⟨kind, -⟩ | ⟨kind, -⟩ <;> rw [syn] at kind <;> cases kind

-- Looking for the same peer again, the second pass finds the same slot.
theorem second_slot (h : Heard) (table : Table) (i : Fin tcpConnectionLimit) (chosen : slotFor table h.peer = some i)
    (later : h.kind ≠ .syn) : slotFor (Function.update table i (h.apply (table i))) h.peer = some i := by
  have sameKey := SlotTable.update_key peerOf table i (h.apply (table i)) (apply_key h (table i) later)
  have sameLive := SlotTable.update_key isLive table i (h.apply (table i)) (apply_live h (table i) later)
  rw [← chosen]
  exact SlotTable.choose_congr peerOf isLive table _ h.peer sameKey sameLive

theorem close_after_first (h : Heard) (table : Table) (i : Fin tcpConnectionLimit)
    (chosen : slotFor table h.peer = some i) (closing : h.status (table i) = tcpFinAck) :
    closeAt (firstTable h table) h.peer = Function.update table i (h.outcome (table i)) := by
  have again := second_slot h table i chosen (closing_later h (table i) closing)
  rw [first_table_some h table i chosen]
  rw [close_at_some _ _ i again, Function.update_self, Function.update_idem, Heard.outcome, if_pos closing]

theorem handle_tcp_first_table (draws : List UInt32) (len : Nat) (m : Memory) (table : Table) (heard : refusal m = none) :
    (handleTcp draws len m table false).table = firstTable (hear m len) table := by
  cases chosen : slotFor table (hear m len).peer with
  | none => rw [handle_tcp_full draws len m table heard chosen, first_table_none _ _ chosen]
  | some i =>
      rw [handle_tcp_heard draws len m table i heard chosen, first_table_some _ _ i chosen]
      exact (first_payload_refines draws len m table i).1

theorem handle_tcp_first_status (draws : List UInt32) (len : Nat) (m : Memory) (table : Table)
    (i : Fin tcpConnectionLimit) (heard : refusal m = none) (chosen : slotFor table (hear m len).peer = some i) :
    (handleTcp draws len m table false).status = (hear m len).status (table i) := by
  rw [handle_tcp_heard draws len m table i heard chosen]
  exact (first_payload_refines draws len m table i).2

section
variable (cfg : Network) (draws : List UInt32) (len : Nat) (r : Routing) (table : Table)

theorem handle_tcp_packet_refused (notice : Notice) (refused : refusal r.frame = some notice) :
    handleTcpPacket cfg draws len r table = ⟨table, [], [], [notice]⟩ := by
  simp [handleTcpPacket, handle_tcp_refused draws len r.frame table notice refused, tcpNone, tcpReg, tcpFinAck]

theorem handle_tcp_packet_full (heard : refusal r.frame = none) (full : slotFor table (hear r.frame len).peer = none) :
    handleTcpPacket cfg draws len r table = ⟨table, [], [], checksumNotices r.frame len ++ [.connectionLimit]⟩ := by
  simp [handleTcpPacket, handle_tcp_full draws len r.frame table heard full, tcpNone, tcpReg, tcpFinAck]

theorem handle_tcp_packet_once (once : (handleTcp draws len r.frame table false).status ≠ tcpFinAck) :
    (handleTcpPacket cfg draws len r table).table = (handleTcp draws len r.frame table false).table ∧
      (handleTcpPacket cfg draws len r table).console = (handleTcp draws len r.frame table false).console := by
  simp only [handleTcpPacket, if_neg once]
  constructor <;> repeat' (split <;> try rfl)

def firstSent (currLen : Nat) : Encapsulated :=
  encapsulation cfg (handleTcp draws len r.frame table false).frame currLen r.finalDestAddr r.icmp r.error r.transmitter
    false

theorem handle_tcp_packet_twice (twice : (handleTcp draws len r.frame table false).status = tcpFinAck) :
    (handleTcpPacket cfg draws len r table).table =
      closeAt (handleTcp draws len r.frame table false).table (addressee (firstSent cfg draws len r table len).frame) := by
  rw [← second_pass_table draws len]
  simp only [handleTcpPacket, twice, firstSent]
  rfl

theorem first_sent_addressee (noError : r.error = false) (long : 42 ≤ len)
    (i : Fin tcpConnectionLimit) (heard : refusal r.frame = none) (chosen : slotFor table (hear r.frame len).peer = some i)
    (closing : (hear r.frame len).status (table i) = tcpFinAck) :
    addressee (firstSent cfg draws len r table len).frame = (hear r.frame len).peer := by
  have answers : (hear r.frame len).kind = .syn ∨ (hear r.frame len).kind = .pshAck ∨ (hear r.frame len).kind = .finAck := by
    rcases (Heard.closing_iff _ _).mp closing with ⟨kind, -⟩ | ⟨kind, -⟩ <;> simp [kind]
  rw [← first_pass_addressee draws len r.frame table i heard chosen answers]
  apply addressee_congr
  intro j low high
  have size : len ≤ (firstSent cfg draws len r table len).len := by
    rw [firstSent, noError, encapsulation_len]
    split <;> omega
  rw [firstSent, noError] at size ⊢
  exact encapsulation_octet cfg _ len _ _ _ false j (by omega) (by omega)

theorem handle_tcp_packet_heard (i : Fin tcpConnectionLimit) (heard : refusal r.frame = none)
    (chosen : slotFor table (hear r.frame len).peer = some i) (long : 42 ≤ len)
    (regular : r.error = false ∨ (hear r.frame len).status (table i) ≠ tcpFinAck) :
    (handleTcpPacket cfg draws len r table).table = Function.update table i ((hear r.frame len).outcome (table i)) := by
  have first := handle_tcp_first_table draws len r.frame table heard
  have status := handle_tcp_first_status draws len r.frame table i heard chosen
  by_cases closing : (hear r.frame len).status (table i) = tcpFinAck
  · have noError : r.error = false := regular.resolve_right (not_not_intro closing)
    rw [handle_tcp_packet_twice cfg draws len r table (status.trans closing), first,
      first_sent_addressee cfg draws len r table noError long i heard chosen closing]
    exact close_after_first _ table i chosen closing
  · rw [(handle_tcp_packet_once cfg draws len r table (by rw [status]; exact closing)).1, first,
      Heard.outcome, if_neg closing]
    exact first_table_some _ table i chosen

end

end OsiStack
