import OsiStack.Arrival
import OsiStack.Erasure

set_option autoImplicit false

namespace OsiStack

open Octets AccessLog

namespace Arp
abbrev senderMac (m : Memory) : MacAddr := loadOctets m 22 6
abbrev targetMac (m : Memory) : MacAddr := loadOctets m 32 6
end Arp

structure ArpReply (cfg : Network) (m : Memory) (len : Nat) (iface : Interface) (frame : List UInt8) : Prop where
  size : frame.length = len
  destAddr : FrameFields.destAddr (ofList frame) = FrameFields.srcAddr m
  srcAddr : FrameFields.srcAddr (ofList frame) = iface.macAddr
  opcode : ntohs (Arp.opcode (ofList frame)) = 2
  senderMac : Arp.senderMac (ofList frame) = iface.macAddr
  senderIp : Arp.senderIp (ofList frame) = iface.ipAddr
  requested : Arp.senderIp (ofList frame) = Arp.targetIp m
  targetMac : Arp.targetMac (ofList frame) = FrameFields.srcAddr m
  targetIp : Arp.targetIp (ofList frame) = Arp.senderIp m
  accepted : (handleFrame cfg len (ofList frame)).checkSumMatch = true
  others : ∀ k, 12 ≤ k ∧ k < 20 ∨ 42 ≤ k ∧ k < len - 4 → ofList frame k = m k

def arpReply (m : Memory) (iface : Interface) : Memory :=
  let m1 := FrameFields.setDestAddr m (FrameFields.srcAddr m)
  let m2 := FrameFields.setSrcAddr m1 iface.macAddr
  let m3 := Arp.setTargetMac m2 (FrameFields.destAddr m2)
  let m4 := Arp.setTargetIp m3 (Arp.senderIp m3)
  let m5 := Arp.setSenderIp m4 iface.ipAddr
  let m6 := Arp.setSenderMac m5 iface.macAddr
  Arp.setOpcode m6 (htons 2)

section
variable (m : Memory) (iface : Interface)

theorem arp_reply_link : FrameFields.destAddr (arpReply m iface) = FrameFields.srcAddr m ∧
    FrameFields.srcAddr (arpReply m iface) = iface.macAddr := by
  simp [arpReply]

theorem arp_reply_sender : Arp.senderMac (arpReply m iface) = iface.macAddr ∧
    Arp.senderIp (arpReply m iface) = iface.ipAddr := by
  simp [arpReply]

theorem arp_reply_target : Arp.targetMac (arpReply m iface) = FrameFields.srcAddr m ∧
    Arp.targetIp (arpReply m iface) = Arp.senderIp m := by
  simp [arpReply]

theorem arp_reply_opcode : ntohs (Arp.opcode (arpReply m iface)) = 2 := by
  simp [arpReply]

theorem arp_reply_others (k : Nat) (apart : 12 ≤ k ∧ k < 20 ∨ 42 ≤ k) : arpReply m iface k = m k := by
  simp (disch := first | (simp; done) | (simp; omega)) [arpReply]

end

def arpSent (m : Memory) (len i : Nat) (iface : Interface) : Sent :=
  sendEthernetFrame i (store32 (arpReply m iface) (len - 4) (crc32 0 (fetch (arpReply m iface) 0 (len - 4)))) len

theorem handle_arp_request (cfg : Network) (m : Memory) (len i : Nat) (iface : Interface) (request : ntohs (Arp.opcode m) = 1)
    (here : cfg.interfaceList[i]? = some iface) (found : isInterface cfg (Arp.targetIp m) = some i) :
    handleArp cfg m len = [arpSent m len i iface] := by
  simp only [handleArp, if_pos request, found, interface_at_get cfg i iface here]
  rfl

theorem is_interface_distinct (cfg : Network) (ipAddr : IpAddr) (i : Nat) (iface : Interface)
    (here : cfg.interfaceList[i]? = some iface) (addressed : iface.ipAddr = ipAddr)
    (distinct : cfg.interfaceList.Pairwise fun a b => a.ipAddr ≠ b.ipAddr) : isInterface cfg ipAddr = some i := by
  rw [isInterface, ← addressed]
  exact ListSearch.find_idx_distinct Interface.ipAddr cfg.interfaceList i iface here distinct

section
variable (cfg : Network) (m : Memory) (len : Nat) (long : 64 ≤ len) (short : len ≤ 1600)
include long short

theorem arp_sent_octet (i : Nat) (iface : Interface) (k : Nat) (inside : k < len - 4) :
    ofList (arpSent m len i iface).frame k = arpReply m iface k := by
  rw [arpSent, sent_octet _ _ _ k (by omega) (by omega)]
  exact store_outside _ _ _ _ (Or.inl inside)

theorem arp_sent_reply (i : Nat) (iface : Interface) (addressed : iface.ipAddr = Arp.targetIp m) :
    ArpReply cfg m len iface (arpSent m len i iface).frame := by
  have octet := arp_sent_octet m len long short i iface
  have field (off n : Nat) (inside : off + n ≤ 60) :
      loadOctets (ofList (arpSent m len i iface).frame) off n = loadOctets (arpReply m iface) off n :=
    load_octets_congr _ _ off n fun k low high => octet k (by omega)
  have code : Arp.opcode (ofList (arpSent m len i iface).frame) = Arp.opcode (arpReply m iface) :=
    load16_congr _ _ 20 fun k low high => octet k (by omega)
  have size : (arpSent m len i iface).frame.length = len := sent_length i _ len (by omega)
  have sender := (arp_reply_sender m iface).2
  refine ⟨size, ?_, ?_, ?_, ?_, ?_, ?_, ?_, ?_, ?_, ?_⟩
  · exact (field 0 6 (by omega)).trans (arp_reply_link m iface).1
  · exact (field 6 6 (by omega)).trans (arp_reply_link m iface).2
  · rw [code, arp_reply_opcode]
  · exact (field 22 6 (by omega)).trans (arp_reply_sender m iface).1
  · exact (field 28 4 (by omega)).trans sender
  · exact (field 28 4 (by omega)).trans (sender.trans addressed)
  · exact (field 32 6 (by omega)).trans (arp_reply_target m iface).1
  · exact (field 38 4 (by omega)).trans (arp_reply_target m iface).2
  · have matched := check_sequence_match cfg _ (emitted_check_sequence i (arpReply m iface) len (by omega) (by omega))
    rw [← arpSent, size] at matched
    exact matched
  · intro k apart
    rw [octet k (by omega), arp_reply_others m iface k (by omega)]

end

theorem handle_arp_unasked (cfg : Network) (m : Memory) (len : Nat)
    (unasked : ntohs (Arp.opcode m) ≠ 1 ∨ ∀ iface ∈ cfg.interfaceList, iface.ipAddr ≠ Arp.targetIp m) :
    result (InBuffer.handleArp cfg len) m = ([], m) := by
  simp only [InBuffer.handleArp, result_bind, result_ite, InBuffer.sender_ip_erased, InBuffer.target_ip_erased,
    InBuffer.opcode_erased]
  split
  next request =>
    rw [is_interface_none cfg _ (unasked.resolve_left (not_not_intro request))]
    rfl
  next => rfl

theorem arp_requests_answered (cfg : Network) (distinct : cfg.interfaceList.Pairwise fun a b => a.ipAddr ≠ b.ipAddr) :
    (∀ len m icmpCode draws table i iface, ArpRequest cfg len m → len ≤ 1600 → cfg.interfaceList[i]? = some iface →
      iface.ipAddr = Arp.targetIp m → ∃ s, handleArp cfg m len = [s] ∧
        interfaceReceiver cfg len m icmpCode draws table = ⟨table, [s], [], []⟩ ∧ s.interface = i ∧
        ArpReply cfg m len iface s.frame) ∧
      ∀ len m, ntohs (Arp.opcode m) ≠ 1 ∨ (∀ iface ∈ cfg.interfaceList, iface.ipAddr ≠ Arp.targetIp m) →
        handleArp cfg m len = [] ∧ result (InBuffer.handleArp cfg len) m = ([], m) := by
  constructor
  · intro len m icmpCode draws table i iface request short here addressed
    have found := is_interface_distinct cfg (Arp.targetIp m) i iface here addressed distinct
    have handled := handle_arp_request cfg m len i iface request.request here found
    refine ⟨arpSent m len i iface, handled, ?_, rfl, arp_sent_reply cfg m len request.long short i iface addressed⟩
    rw [interface_receiver_arp cfg len m icmpCode draws table request.long request.broadcast request.type, handled]
  · intro len m unasked
    have silent := handle_arp_unasked cfg m len unasked
    refine ⟨?_, silent⟩
    rw [← InBuffer.handle_arp_erased cfg m len, silent]

theorem arp_request_answered_second : ∃ s, handleArp mainConfig (arpRequest (ipOctets 1 3 1 1)) 64 = [s] ∧
    interfaceReceiver mainConfig 64 (arpRequest (ipOctets 1 3 1 1)) 0 [] zeroTable = ⟨zeroTable, [s], [], []⟩ ∧
    s.interface = 1 ∧ ArpReply mainConfig (arpRequest (ipOctets 1 3 1 1)) 64
      ⟨macOctets 0x12 0x9f 0x41 0x0d 0x0e 0x65, ipOctets 1 3 1 1⟩ s.frame :=
  (arp_requests_answered mainConfig (by decide)).1 64 (arpRequest (ipOctets 1 3 1 1)) 0 [] zeroTable 1 _
    ⟨by omega, by decide +kernel, by decide +kernel, by decide +kernel, by decide +kernel⟩ (by omega) rfl (by decide +kernel)

end OsiStack
