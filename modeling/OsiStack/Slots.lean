import OsiStack.TcpReceive
import OsiStack.SlotTable

set_option autoImplicit false

namespace OsiStack

open Octets

abbrev Peer := IpAddr × UInt16

def peerOf (conn : TcpConnection) : Peer := (conn.hostIpAddr, conn.port)

def isLive (conn : TcpConnection) : Bool := decide (conn.connectionStatus ≠ 0)

theorem is_live_iff (conn : TcpConnection) : isLive conn = true ↔ conn.connectionStatus ≠ 0 := by
  simp [isLive]

theorem is_dead_iff (conn : TcpConnection) : isLive conn = false ↔ conn.connectionStatus = 0 := by
  simp [isLive]

theorem connection_lookup_refines (table : Table) (peer : Peer) :
    connectionLookup table peer.1 peer.2 = SlotTable.lookup peerOf table peer := by
  unfold connectionLookup SlotTable.lookup
  congr 1
  funext i
  rw [Bool.eq_iff_iff, Bool.and_eq_true, decide_eq_true_eq, decide_eq_true_eq, decide_eq_true_eq, Prod.ext_iff]
  exact and_congr_right fun _ => eq_comm

theorem is_space_refines (table : Table) : isSpace table = SlotTable.space isLive table := by
  unfold isSpace SlotTable.space
  congr 1
  funext i
  simp [isLive]

abbrev slotFor (table : Table) (peer : Peer) : Option (Fin tcpConnectionLimit) :=
  SlotTable.choose peerOf isLive table peer

theorem tcp_slot_refines (table : Table) (peer : Peer) : tcpSlot table peer.1 peer.2 = slotFor table peer := by
  rw [tcpSlot, slotFor, SlotTable.choose, connection_lookup_refines, is_space_refines]
  cases SlotTable.lookup peerOf table peer <;> rfl

inductive Kind where
  | syn
  | ack
  | pshAck
  | finAck
  | other
deriving DecidableEq

def kindOf (bits : UInt8) : Kind :=
  if bits = 2 then .syn else if bits = 16 then .ack else if bits = 24 then .pshAck
  else if bits = 17 then .finAck else .other

theorem kind_of_syn (bits : UInt8) : kindOf bits = .syn ↔ bits = 2 := by
  unfold kindOf
  split_ifs <;> simp_all

theorem kind_of_ack (bits : UInt8) : kindOf bits = .ack ↔ bits = 16 := by
  unfold kindOf
  split_ifs <;> simp_all

theorem kind_of_psh_ack (bits : UInt8) : kindOf bits = .pshAck ↔ bits = 24 := by
  unfold kindOf
  split_ifs <;> simp_all

theorem kind_of_fin_ack (bits : UInt8) : kindOf bits = .finAck ↔ bits = 17 := by
  unfold kindOf
  split_ifs <;> simp_all

theorem handle_tcp_payload_kind (m : Memory) (octets : Int8) (offset : UInt8) (table : Table)
    (id : Fin tcpConnectionLimit) (draws : List UInt32) (bits : UInt8) (flag : Bool) (headerLen : Nat) :
    handleTcpPayload m octets offset table id draws bits flag headerLen =
      match kindOf bits with
      | .syn => handleSyn m offset table id draws
      | .ack => handleAck m octets table id headerLen
      | .pshAck => handlePshAck m octets offset table id headerLen
      | .finAck => handleFinAck m offset table id flag
      | .other => ⟨tcpNone, m, table, [], if bits = 18 then [] else [.unsupportedFlag bits]⟩ := by
  unfold handleTcpPayload kindOf
  by_cases syn : bits = 2
  · rw [if_pos syn, if_pos syn]
  · by_cases ack : bits = 16
    · rw [if_neg syn, if_neg syn, if_pos ack, if_pos ack]
    · by_cases psh : bits = 24
      · rw [if_neg syn, if_neg syn, if_neg ack, if_neg ack, if_pos psh, if_pos psh]
      · by_cases fin : bits = 17
        · simp [fin]
        · by_cases both : bits = 18 <;> simp [syn, ack, psh, fin, both, tcpNone]

-- What the first pass of handle_tcp takes from a segment: `octets` is the payload
-- count as handle_tcp_payload receives it, narrowed to an int8_t.
structure Heard where
  peer : Peer
  mac : MacAddr
  seq : UInt32
  ack : UInt32
  kind : Kind
  octets : Int8
  offset : UInt8
  totalLength : UInt16

def hear (m : Memory) (len : Nat) : Heard where
  peer := (IpHeader.srcAddr m, ntohs (Tcp.srcPort m))
  mac := FrameFields.srcAddr m
  seq := ntohl (Tcp.seqNumber m)
  ack := ntohl (Tcp.ackNumber m)
  kind := kindOf (controlBits m)
  octets := (dataOctets m len).toUInt8.toInt8
  offset := dataOffset m
  totalLength := ntohs (IpHeader.totalLength m)

@[simp] theorem hear_peer (m : Memory) (len : Nat) : (hear m len).peer = (IpHeader.srcAddr m, ntohs (Tcp.srcPort m)) := rfl
@[simp] theorem hear_mac (m : Memory) (len : Nat) : (hear m len).mac = FrameFields.srcAddr m := rfl
@[simp] theorem hear_seq (m : Memory) (len : Nat) : (hear m len).seq = ntohl (Tcp.seqNumber m) := rfl
@[simp] theorem hear_offset (m : Memory) (len : Nat) : (hear m len).offset = dataOffset m := rfl
@[simp] theorem hear_total_length (m : Memory) (len : Nat) :
    (hear m len).totalLength = ntohs (IpHeader.totalLength m) := rfl
@[simp] theorem hear_ack (m : Memory) (len : Nat) : (hear m len).ack = ntohl (Tcp.ackNumber m) := rfl

namespace Heard

def nextSeq (h : Heard) : UInt32 :=
  match h.kind with
  | .ack | .pshAck => h.seq + UInt32.ofInt h.octets.toInt
  | _ => h.seq + 1

def apply (h : Heard) (conn : TcpConnection) : TcpConnection :=
  match h.kind with
  | .syn =>
      { conn with
        hostIpAddr := h.peer.1
        port := h.peer.2
        hostMac := h.mac
        nextSeq := h.nextSeq
        connectionStatus := 2 }
  | .ack =>
      if conn.connectionStatus = 0 then conn
      else
        { conn with
          nextSeq := h.nextSeq
          currSeq := h.ack
          connectionStatus := if conn.connectionStatus = 2 then 1 else conn.connectionStatus }
  | .pshAck | .finAck => { conn with nextSeq := h.nextSeq, currSeq := h.ack }
  | .other => conn

def status (h : Heard) (conn : TcpConnection) : Int :=
  match h.kind with
  | .syn => tcpReg
  | .ack => if conn.connectionStatus = 1 ∧ 0 < h.octets.toInt then tcpReg else tcpNone
  | .pshAck => h.octets.toInt
  | .finAck => if conn.connectionStatus = 0 then -2 else tcpFinAck
  | .other => tcpNone

def close (conn : TcpConnection) : TcpConnection := { conn with connectionStatus := 0 }

def outcome (h : Heard) (conn : TcpConnection) : TcpConnection :=
  if h.status conn = tcpFinAck then close (h.apply conn) else h.apply conn

-- A second pass follows a FIN/ACK from a live slot, and also a PSH/ACK whose
-- narrowed payload count happens to be the code of that case.
theorem closing_iff (h : Heard) (conn : TcpConnection) : h.status conn = tcpFinAck ↔
    h.kind = .finAck ∧ conn.connectionStatus ≠ 0 ∨ h.kind = .pshAck ∧ h.octets = -3 := by
  have code : h.octets.toInt = -3 ↔ h.octets = -3 := by
    rw [← Int8.toInt_inj]
    rfl
  unfold status
  cases h.kind with
  | syn => simp [tcpReg, tcpFinAck]
  | ack => simp only [tcpReg, tcpNone, tcpFinAck]; split <;> simp
  | pshAck => simp [tcpFinAck, code]
  | finAck => by_cases dead : conn.connectionStatus = 0 <;> simp [dead, tcpFinAck]
  | other => simp [tcpNone, tcpFinAck]

end Heard

theorem handle_syn_refines (m : Memory) (len : Nat) (offset : UInt8) (table : Table) (id : Fin tcpConnectionLimit)
    (draws : List UInt32) (kind : (hear m len).kind = .syn) :
    (handleSyn m offset table id draws).table = Function.update table id ((hear m len).apply (table id)) ∧
      (handleSyn m offset table id draws).status = (hear m len).status (table id) := by
  simp [Heard.apply, Heard.status, Heard.nextSeq, kind, handleSyn]

theorem acknowledge_ack (m : Memory) (octets : Int8) :
    ntohl (Tcp.ackNumber (acknowledge m octets)) = ntohl (Tcp.seqNumber m) + UInt32.ofInt octets.toInt := by
  simp [acknowledge]

theorem acknowledge_seq (m : Memory) (octets : Int8) : Tcp.seqNumber (acknowledge m octets) = Tcp.ackNumber m := by
  simp [acknowledge]

theorem handle_ack_refines (m : Memory) (len : Nat) (table : Table) (id : Fin tcpConnectionLimit) (headerLen : Nat)
    (kind : (hear m len).kind = .ack) :
    (handleAck m (hear m len).octets table id headerLen).table =
        Function.update table id ((hear m len).apply (table id)) ∧
      (handleAck m (hear m len).octets table id headerLen).status = (hear m len).status (table id) := by
  simp only [Heard.apply, Heard.status, Heard.nextSeq, kind, handleAck, recordNumbers, acknowledge_ack, acknowledge_seq]
  by_cases dead : (table id).connectionStatus = 0
  · simp [dead]
  · by_cases up : (table id).connectionStatus = 1
    · by_cases full : 0 < (hear m len).octets.toInt <;> simp [up, full]
    · by_cases half : (table id).connectionStatus = 2
      · simp [half]
      · simp [dead, up, half]

theorem handle_psh_ack_refines (m : Memory) (len : Nat) (offset : UInt8) (table : Table) (id : Fin tcpConnectionLimit)
    (headerLen : Nat) (kind : (hear m len).kind = .pshAck) :
    (handlePshAck m (hear m len).octets offset table id headerLen).table =
        Function.update table id ((hear m len).apply (table id)) ∧
      (handlePshAck m (hear m len).octets offset table id headerLen).status = (hear m len).status (table id) := by
  simp [Heard.apply, Heard.status, Heard.nextSeq, kind, handlePshAck, recordNumbers, acknowledge_ack, acknowledge_seq]

theorem handle_fin_ack_refines (m : Memory) (len : Nat) (offset : UInt8) (table : Table) (id : Fin tcpConnectionLimit)
    (kind : (hear m len).kind = .finAck) :
    (handleFinAck m offset table id false).table = Function.update table id ((hear m len).apply (table id)) ∧
      (handleFinAck m offset table id false).status = (hear m len).status (table id) := by
  simp only [Heard.apply, Heard.status, Heard.nextSeq, kind, handleFinAck, acknowledgeFin, recordNumbers,
    Bool.false_eq_true, if_false]
  by_cases dead : (table id).connectionStatus = 0 <;> simp [dead]

theorem handle_tcp_payload_refines (m : Memory) (len : Nat) (offset : UInt8) (table : Table)
    (id : Fin tcpConnectionLimit) (draws : List UInt32) (headerLen : Nat) :
    let out := handleTcpPayload m (hear m len).octets offset table id draws (controlBits m) false headerLen
    out.table = Function.update table id ((hear m len).apply (table id)) ∧
      out.status = (hear m len).status (table id) := by
  simp only [handle_tcp_payload_kind]
  have kindEq : (hear m len).kind = kindOf (controlBits m) := rfl
  cases kind : kindOf (controlBits m) with
  | syn => exact handle_syn_refines m len offset table id draws (kindEq.trans kind)
  | ack => exact handle_ack_refines m len table id headerLen (kindEq.trans kind)
  | pshAck => exact handle_psh_ack_refines m len offset table id headerLen (kindEq.trans kind)
  | finAck => exact handle_fin_ack_refines m len offset table id (kindEq.trans kind)
  | other => simp [Heard.apply, Heard.status, kindEq.trans kind]

def firstTable (h : Heard) (table : Table) : Table :=
  match slotFor table h.peer with
  | none => table
  | some i => Function.update table i (h.apply (table i))

def closeAt (table : Table) (peer : Peer) : Table :=
  match slotFor table peer with
  | none => table
  | some j => Function.update table j (Heard.close (table j))

theorem first_table_some (h : Heard) (table : Table) (i : Fin tcpConnectionLimit) (chosen : slotFor table h.peer = some i) :
    firstTable h table = Function.update table i (h.apply (table i)) := by
  rw [firstTable, chosen]

theorem first_table_none (h : Heard) (table : Table) (full : slotFor table h.peer = none) : firstTable h table = table := by
  rw [firstTable, full]

theorem close_at_some (table : Table) (peer : Peer) (j : Fin tcpConnectionLimit) (chosen : slotFor table peer = some j) :
    closeAt table peer = Function.update table j (Heard.close (table j)) := by
  rw [closeAt, chosen]

theorem close_at_other (table : Table) (peer : Peer) (i : Fin tcpConnectionLimit) (live : isLive (table i) = true)
    (other : peerOf (table i) ≠ peer) : closeAt table peer i = table i := by
  unfold closeAt
  cases found : slotFor table peer with
  | none => rfl
  | some j =>
      have apart : i ≠ j := by
        intro here
        subst here
        exact other (SlotTable.choose_live peerOf isLive table peer i found live).1
      exact Function.update_of_ne apart _ _

theorem close_at_io (table : Table) (peer : Peer) (i : Fin tcpConnectionLimit) : (closeAt table peer i).io = (table i).io := by
  unfold closeAt
  cases slotFor table peer with
  | none => rfl
  | some j => exact SlotTable.update_key TcpConnection.io table j (Heard.close (table j)) rfl i

theorem close_at_numbers (table : Table) (peer : Peer) (i : Fin tcpConnectionLimit) :
    (closeAt table peer i).nextSeq = (table i).nextSeq ∧ (closeAt table peer i).currSeq = (table i).currSeq := by
  unfold closeAt
  cases slotFor table peer with
  | none => exact ⟨rfl, rfl⟩
  | some j =>
      exact ⟨SlotTable.update_key TcpConnection.nextSeq table j (Heard.close (table j)) rfl i,
        SlotTable.update_key TcpConnection.currSeq table j (Heard.close (table j)) rfl i⟩

theorem outcome_numbers (h : Heard) (conn : TcpConnection) :
    (h.outcome conn).nextSeq = (h.apply conn).nextSeq ∧ (h.outcome conn).currSeq = (h.apply conn).currSeq := by
  unfold Heard.outcome
  split <;> exact ⟨rfl, rfl⟩

theorem apply_closed_ack (h : Heard) (conn : TcpConnection) (ack : h.kind = .ack) (dead : conn.connectionStatus = 0) :
    h.apply conn = conn := by
  simp [Heard.apply, ack, dead]

theorem apply_numbers (h : Heard) (conn : TcpConnection)
    (takes : h.kind = .ack ∧ conn.connectionStatus ≠ 0 ∨ h.kind = .pshAck) :
    (h.apply conn).nextSeq = h.seq + UInt32.ofInt h.octets.toInt ∧ (h.apply conn).currSeq = h.ack := by
  rcases takes with ⟨ack, live⟩ | psh
  · simp [Heard.apply, Heard.nextSeq, ack, live]
  · simp [Heard.apply, Heard.nextSeq, psh]

end OsiStack
