import OsiStack.PeerSegment
import OsiStack.Segment

set_option autoImplicit false

namespace OsiStack

open Octets PeerSegment

structure Mirrors (m : Memory) (frame : List UInt8) : Prop where
  srcAddr : IpHeader.srcAddr (ofList frame) = IpHeader.destAddr m
  srcPort : ntohs (Tcp.srcPort (ofList frame)) = ntohs (Tcp.destPort m)
  destAddr : IpHeader.destAddr (ofList frame) = IpHeader.srcAddr m
  destPort : ntohs (Tcp.destPort (ofList frame)) = ntohs (Tcp.srcPort m)

def Bare (frame : List UInt8) : Prop :=
  payloadLen (ofList frame) = 0 ∧ frame.length = 14 + (ntohs (IpHeader.totalLength (ofList frame))).toNat + 4

def HasSyn (m : Memory) : Prop := controlBits m &&& 2 ≠ 0

def HasFin (m : Memory) : Prop := controlBits m &&& 1 ≠ 0

def AnswersInMirror (m : Memory) (sent : List Sent) : Prop :=
  ∀ s ∈ sent, TcpFrame s.frame → Mirrors m s.frame ∧ (HasSyn m ∨ HasFin m ∨ Bare s.frame)

def PlainData (m : Memory) (len : Nat) (table : Table) : Prop :=
  controlBits m = 16 ∧ 0 < payloadLen m ∧
    ∃ i, slotFor table (hear m len).peer = some i ∧ (table i).connectionStatus = 1

theorem has_fin_of_kind (m : Memory) (fin : kindOf (controlBits m) = .finAck) : HasFin m := by
  rw [HasFin, (kind_of_fin_ack _).mp fin]
  decide

theorem has_syn_of_kind (m : Memory) (syn : kindOf (controlBits m) = .syn) : HasSyn m := by
  rw [HasSyn, (kind_of_syn _).mp syn]
  decide

section
variable {m : Memory} {len : Nat} (wf : WellFormed m len) (draws : List UInt32) (r : Routing) (s : Sent) (bits : UInt8)
variable (answer : Answers (hear m len) draws len r s bits) (tcp : TcpFrame s.frame)
include wf answer tcp

theorem answer_mirrors (swaps : (hear m len).kind ≠ .ack) : Mirrors m s.frame := by
  have header := answer.header (by have := tcp.1; omega)
  refine ⟨(congrArg Header.srcAddr header).trans wf.destAddr.symm, ?_, congrArg Header.destAddr header, ?_⟩
  · refine (congrArg Header.srcPort header).trans ?_
    rw [wf.destPort]
    simp [Heard.reply, swaps]
  · refine (congrArg Header.destPort header).trans ?_
    simp [Heard.reply, swaps]

theorem answer_bare (psh : (hear m len).kind = .pshAck) (small : payloadLen m ≤ 100) : Bare s.frame := by
  have header := answer.header (by have := tcp.1; omega)
  have count := wf.octets_small (by omega)
  have size := answer.size
  have fits := wf.fits
  have lenEq := wf.len_eq
  have total : (readHeader (ofList s.frame)).totalLength.toNat = 20 + 4 * (dataOffset m).toNat := by
    have bound := (ntohs (IpHeader.totalLength m)).toNat_lt
    rw [header]
    simp only [Heard.reply, psh, if_true, hear_total_length, UInt16.toNat_sub, count, of_int16_toNat]
    rw [payloadLen] at small ⊢
    omega
  have offset : (readHeader (ofList s.frame)).offset = dataOffset m := by rw [header]; rfl
  constructor
  · rw [payload_len_header, total, offset]
    omega
  · change s.frame.length = 14 + (readHeader (ofList s.frame)).totalLength.toNat + 4
    rw [total, size, Heard.removed, if_pos psh, count]
    omega

end

section
variable (cfg : Config) (draws : List UInt32) (len : Nat) (m : Memory) (icmp : Icmp) (receiver : Nat) (table : Table)
variable (wf : WellFormed m len) (small : payloadLen m ≤ 100)
include wf small

theorem mirror_unless_plain_data (other : ¬ PlainData m len table) :
    AnswersInMirror m (handlePacket cfg draws len m icmp receiver table).sent := by
  intro s member tcp
  have lenEq := wf.len_eq
  have four := data_offset_lt m
  cases chosen : slotFor table (hear m len).peer with
  | none =>
      rw [wf.unanswered cfg draws icmp receiver table chosen] at member
      simp at member
  | some i =>
      obtain ⟨bits, listed, answer⟩ := related_of_mem _ _ _
        (wf.answers cfg draws icmp receiver table (by omega) i chosen) s member
      cases kind : (hear m len).kind with
      | syn =>
          exact ⟨answer_mirrors wf draws _ s bits answer tcp (by rw [kind]; decide), Or.inl (has_syn_of_kind m kind)⟩
      | finAck =>
          exact ⟨answer_mirrors wf draws _ s bits answer tcp (by rw [kind]; decide),
            Or.inr (Or.inl (has_fin_of_kind m kind))⟩
      | pshAck =>
          exact ⟨answer_mirrors wf draws _ s bits answer tcp (by rw [kind]; decide),
            Or.inr (Or.inr (answer_bare wf draws _ s bits answer tcp kind small))⟩
      | ack =>
          have count := wf.octets_small (by omega)
          by_cases data : (table i).connectionStatus = 1 ∧ 0 < (hear m len).octets.toInt
          · rw [count] at data
            exact absurd ⟨(kind_of_ack _).mp kind, by omega, i, chosen, data.1⟩ other
          · simp only [Heard.flags, kind, if_neg data] at listed
            simp at listed
      | other =>
          simp only [Heard.flags, kind] at listed
          simp at listed

theorem plain_data_echoed (plain : PlainData m len table) :
    ¬ AnswersInMirror m (handlePacket cfg draws len m icmp receiver table).sent := by
  intro mirrored
  obtain ⟨bits, data, i, chosen, up⟩ := plain
  have lenEq := wf.len_eq
  have four := data_offset_lt m
  have offset := wf.offset
  have ack : (hear m len).kind = .ack := (kind_of_ack _).mpr bits
  have count := wf.octets_small (by omega)
  have answers := wf.answers cfg draws icmp receiver table (by omega) i chosen
  have flags : (hear m len).flags (table i) = [0x10] := by
    simp only [Heard.flags, ack]
    rw [if_pos ⟨up, by omega⟩]
  rw [flags, List.forall₂_cons_right_iff] at answers
  obtain ⟨s, rest, answer, -, sent⟩ := answers
  have size := answer.size
  rw [Heard.removed, if_neg (by rw [ack]; decide)] at size
  have tcp : TcpFrame s.frame := answers_tcp _ _ _ _ _ _ answer (by omega) wf.ipv4 wf.tcp
  obtain ⟨-, syn | fin | bare⟩ := mirrored s (by rw [sent]; exact List.mem_cons_self) tcp
  · rw [HasSyn, bits] at syn
    exact absurd rfl syn
  · rw [HasFin, bits] at fin
    exact absurd rfl fin
  · have header := answer.header (by omega)
    have left := bare.1
    rw [payload_len_header, header] at left
    simp only [Heard.reply, ack] at left
    rw [payloadLen] at data
    simp at left
    omega

theorem answers_in_mirror_iff : AnswersInMirror m (handlePacket cfg draws len m icmp receiver table).sent ↔
    ¬ PlainData m len table :=
  ⟨fun mirrored plain => plain_data_echoed cfg draws len m icmp receiver table wf small plain mirrored,
    mirror_unless_plain_data cfg draws len m icmp receiver table wf small⟩

end

theorem answers_in_mirror_psh_ack : AnswersInMirror (visitorText 24).buffer
    (handlePacket soloConfig [] 64 (visitorText 24).buffer ⟨1, 0⟩ 0 visited).sent :=
  (answers_in_mirror_iff soloConfig [] 64 (visitorText 24).buffer ⟨1, 0⟩ 0 visited (visitor_text_well_formed 24 (by decide))
    (by rw [visitor_text_len 24 (by decide)]; decide)).mpr fun plain => absurd plain.1 (by decide +kernel)

theorem plain_ack_text_echoed : Reachable soloConfig visited ∧ WellFormed (visitorText 16).buffer 64 ∧
    payloadLen (visitorText 16).buffer = 10 ∧ ¬ AnswersInMirror (visitorText 16).buffer
      (handlePacket soloConfig [] 64 (visitorText 16).buffer ⟨1, 0⟩ 0 visited).sent := by
  have wf : WellFormed (visitorText 16).buffer 64 := visitor_text_well_formed 16 (by decide)
  have len := visitor_text_len 16 (by decide)
  refine ⟨visited_reachable, wf, len, ?_⟩
  exact plain_data_echoed soloConfig [] 64 _ ⟨1, 0⟩ 0 visited wf (by rw [len]; decide)
    ⟨by decide +kernel, by rw [len]; decide, 0, by decide +kernel, by decide +kernel⟩

end OsiStack
