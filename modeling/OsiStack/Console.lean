import OsiStack.Transition

set_option autoImplicit false

namespace OsiStack

open Octets

-- How many octets are written out: an ACK's only on an established connection,
-- a PSH/ACK's on any slot, and none when the narrowed count is negative.
def Heard.printed (h : Heard) (conn : TcpConnection) : Nat :=
  match h.kind with
  | .ack => if conn.connectionStatus = 1 then h.octets.toInt.toNat else 0
  | .pshAck => h.octets.toInt.toNat
  | _ => 0

section
variable (draws : List UInt32) (len : Nat) (m : Memory) (table : Table) (i : Fin tcpConnectionLimit)

theorem first_payload_console : ∃ m' : Memory, (∀ k, 48 ≤ k → m' k = m k) ∧
    (firstPayload draws len m table i).console =
      fetch m' (34 + (tcpHeaderLen m).toNat) ((hear m len).printed (table i)) := by
  have kindEq : (hear m len).kind = kindOf (controlBits m) := rfl
  rw [firstPayload, handle_tcp_payload_kind, Heard.printed, kindEq]
  cases kindOf (controlBits m) with
  | syn => exact ⟨m, fun _ _ => rfl, rfl⟩
  | ack =>
      refine ⟨acknowledge m (hear m len).octets, fun k _ => acknowledge_octet m _ k (by omega), ?_⟩
      simp only [handleAck, recordNumbers, writeOut]
      by_cases dead : (table i).connectionStatus = 0
      · simp [dead]
      · by_cases up : (table i).connectionStatus = 1
        · by_cases data : 0 < (hear m len).octets.toInt
          · simp [up, data]
          · have nothing : (hear m len).octets.toInt.toNat = 0 := by omega
            simp [up, data, nothing]
        · by_cases half : (table i).connectionStatus = 2 <;> simp [dead, up, half]
  | pshAck =>
      refine ⟨Tcp.setSrcPort (Tcp.setDestPort (Tcp.setFlag (acknowledge m (hear m len).octets)
        (htons (flagWord (dataOffset m) 0x10))) (Tcp.srcPort m)) (htons hostTcpPort), ?_, ?_⟩
      · intro k _
        have same := acknowledge_octet m (hear m len).octets k (by omega)
        simp (disch := first | (simp; done) | (simp; omega)) [same]
      · simp [handlePshAck, writeOut, acknowledge]
  | finAck =>
      refine ⟨m, fun _ _ => rfl, ?_⟩
      simp only [handleFinAck, Bool.false_eq_true, if_false]
      split <;> rfl
  | other => exact ⟨m, fun _ _ => rfl, rfl⟩

theorem handle_tcp_again_console : (handleTcp draws len m table true).console = [] := by
  simp only [handleTcp, if_true]
  cases tcpSlot table (IpHeader.destAddr m) (ntohs (Tcp.destPort m)) with
  | none => rfl
  | some j => rfl

end

theorem handle_tcp_packet_console (cfg : Config) (draws : List UInt32) (len : Nat) (r : Routing) (table : Table) :
    (handleTcpPacket cfg draws len r table).console = (handleTcp draws len r.frame table false).console := by
  by_cases twice : (handleTcp draws len r.frame table false).status = tcpFinAck
  · have quiet := handle_tcp_again_console draws len (firstSent cfg draws len r table len).frame
      (handleTcp draws len r.frame table false).table
    simp only [firstSent] at quiet
    simp [handleTcpPacket, twice, tcpFinAck, tcpReg, quiet]
  · exact (handle_tcp_packet_once cfg draws len r table twice).2

section
variable (cfg : Config) (draws : List UInt32) (len : Nat) (r : Routing) (table : Table) (i : Fin tcpConnectionLimit)
variable (heard : refusal r.frame = none) (chosen : slotFor table (hear r.frame len).peer = some i)
include heard chosen

theorem packet_console_from : ∃ m' : Memory, (∀ k, 48 ≤ k → m' k = r.frame k) ∧
    (handleTcpPacket cfg draws len r table).console =
      fetch m' (34 + (tcpHeaderLen r.frame).toNat) ((hear r.frame len).printed (table i)) := by
  rw [handle_tcp_packet_console, handle_tcp_heard draws len r.frame table i heard chosen]
  exact first_payload_console draws len r.frame table i

theorem packet_console (whole : 4 ≤ (dataOffset r.frame).toNat) : (handleTcpPacket cfg draws len r table).console =
    fetch r.frame (34 + 4 * (dataOffset r.frame).toNat) ((hear r.frame len).printed (table i)) := by
  obtain ⟨m', same, console⟩ := packet_console_from cfg draws len r table i heard chosen
  rw [console, tcp_header_len_toNat]
  apply fetch_congr
  intro k low _
  exact same k (by omega)

end

section
variable (cfg : Config) (table : Table) (r : Reception) (accepted : Accepted cfg r)
variable (i : Fin tcpConnectionLimit) (chosen : slotFor table r.heard.peer = some i)
include accepted chosen

theorem receive_console_length : (receive cfg table r).console.length = r.heard.printed (table i) := by
  obtain ⟨receiver, -, same⟩ := receive_accepted cfg table r accepted
  obtain ⟨m', -, console⟩ := packet_console_from cfg r.draws r.len (localRouting r.buffer ⟨1, r.icmpCode⟩ receiver)
    table i accepted.heard chosen
  rw [same, console, fetch_length]
  rfl

theorem receive_console (whole : 4 ≤ r.heard.offset.toNat) : (receive cfg table r).console =
    fetch r.buffer (34 + 4 * r.heard.offset.toNat) (r.heard.printed (table i)) := by
  obtain ⟨receiver, -, same⟩ := receive_accepted cfg table r accepted
  rw [same]
  exact packet_console cfg r.draws r.len (localRouting r.buffer ⟨1, r.icmpCode⟩ receiver) table i accepted.heard chosen whole

end

end OsiStack
