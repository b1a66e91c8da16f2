import OsiStack.BufferSafety

set_option autoImplicit false

namespace OsiStack

open Octets AccessLog PeerSegment

structure Announced where
  len : Nat
  octets : List UInt8
  low : 1 ≤ len
  high : len ≤ 65535
  filled : octets.length ≤ len

structure Trimmed (table : Table) (len : Nat) (m : Memory) : Prop where
  destAddr : IpHeader.destAddr m = tcpIp
  destPort : ntohs (Tcp.destPort m) = hostTcpPort
  slot : SlotAvailable table (sender m)
  pshAck : controlBits m = 24
  room : (len : Int) - payloadCount m len ≤ 1596

-- The announced length leaves room for a check sequence, and the frame buffer for
-- the frame; and for four octets more where encapsulation lengthens a segment.
structure Roomy (cfg : Network) (table : Table) (len : Nat) (m : Memory) : Prop where
  low : 4 ≤ len
  high : len ≤ 1600
  growth : ForLocalMac cfg len m → IpHeader.protocol m = 6 → ¬ ErrorPending cfg m → len ≤ 1596 ∨ Trimmed table len m

theorem answer_fits (draws : List UInt32) (len : Nat) (m : Memory) (table : Table) :
    len - (handleTcp draws len m table false).status.toNat + 4 ≤ 1600 ↔ len ≤ 1596 ∨ Trimmed table len m := by
  by_cases small : len ≤ 1596
  · exact iff_of_true (by omega) (Or.inl small)
  · have unread (silent : (handleTcp draws len m table false).status = tcpNone) (apart : ¬ Trimmed table len m) :
        len - (handleTcp draws len m table false).status.toNat + 4 ≤ 1600 ↔ len ≤ 1596 ∨ Trimmed table len m := by
      rw [silent]
      exact iff_of_false (by simp [tcpNone]; omega) fun either => either.elim small apart
    cases heard : refusal m with
    | some notice =>
        refine unread ?_ fun trimmed => ?_
        · rw [handle_tcp_refused draws len m table notice heard]
        · rw [(refusal_none m).mpr ⟨trimmed.destAddr, trimmed.destPort⟩] at heard
          cases heard
    | none =>
        obtain ⟨addr, port⟩ := (refusal_none m).mp heard
        cases chosen : slotFor table (sender m) with
        | none =>
            refine unread ?_ fun trimmed => ?_
            · rw [handle_tcp_full draws len m table heard chosen]
            · obtain ⟨i, found⟩ := slot_available table (sender m) trimmed.slot
              rw [chosen] at found
              cases found
        | some j =>
            have room := removed_le m len (by omega)
            rw [handle_tcp_first_status draws len m table j heard chosen, ← removed_status]
            constructor
            · intro fits
              obtain ⟨psh, count⟩ := removed_count m len (by omega)
              exact Or.inr ⟨addr, port, sender_slot_available table _ j chosen, psh, by omega⟩
            · rintro (less | trimmed)
              · exact absurd less small
              · have kind : (hear m len).kind = .pshAck := (kind_of_psh_ack _).mpr trimmed.pshAck
                have count : payloadCount m len = (hear m len).octets.toInt := (octets_toInt m len).symm
                have left := trimmed.room
                rw [Heard.removed, if_pos kind] at room ⊢
                omega

theorem trimmed_routed (cfg : Network) (table : Table) (len : Nat) (m : Memory) (icmp : Icmp) (receiver : Nat) :
    Trimmed table len (packetRouting cfg m icmp receiver).frame ↔ Trimmed table len m := by
  obtain ⟨-, peer, bits, count⟩ := packet_routing_segment cfg m icmp receiver len
  have heard : refusal (packetRouting cfg m icmp receiver).frame = none ↔ refusal m = none := by
    rw [packet_routing_refusal]
  rw [refusal_none, refusal_none] at heard
  constructor
  · rintro ⟨addr, port, slot, psh, room⟩
    rw [peer] at slot
    rw [count] at room
    exact ⟨(heard.mp ⟨addr, port⟩).1, (heard.mp ⟨addr, port⟩).2, slot, bits.symm.trans psh, room⟩
  · rintro ⟨addr, port, slot, psh, room⟩
    rw [← peer] at slot
    rw [← count] at room
    exact ⟨(heard.mpr ⟨addr, port⟩).1, (heard.mpr ⟨addr, port⟩).2, slot, bits.trans psh, room⟩

theorem valid_length_iff (cfg : Network) (len : Nat) (m : Memory) : (handleFrame cfg len m).validLength = true ↔ 64 ≤ len := by
  simp only [handleFrame, decide_eq_true_eq]
  omega

theorem is_broadcast_iff (cfg : Network) (len : Nat) (m : Memory) :
    (handleFrame cfg len m).isBroadcast = true ↔ FrameFields.destAddr m = broadcastAddr :=
  decide_eq_true_iff

namespace InBuffer

theorem interface_receiver_safe (cfg : Network) (m : Memory) (draws : List UInt32) (len : Nat) (table : Table)
    (octets : List UInt8) (icmpCode : Nat) (low : 1 ≤ len) (high : len ≤ 65535) (filled : octets.length ≤ len) :
    Safe 1600 (interfaceReceiver cfg len octets icmpCode draws table) m ↔ Roomy cfg table len (store m 0 octets) := by
  have stored : result (receiveEthernetFrame octets) m = ((), store m 0 octets) := rfl
  generalize store m 0 octets = frame at stored ⊢
  have dump : result (binaryToHex len) frame = ((), frame) := rfl
  have nonempty : len ≠ 0 := by omega
  have checked := handle_frame_safe cfg frame len (by omega)
  simp only [interfaceReceiver, safe_bind, stored, if_neg nonempty, dump, handle_frame_erased, safe_ite, type_erased,
    frame_src_erased]
  constructor
  · rintro ⟨-, -, inside, rest⟩
    obtain ⟨room, short⟩ := checked.mp inside
    refine ⟨room, short, fun here tcp free => ?_⟩
    have alive := local_mac_alive cfg len frame here
    have long := here.long
    obtain ⟨receiver, mine⟩ := eth_cmp_some cfg frame here.mine
    rw [if_neg (not_not.mpr ((valid_length_iff cfg len frame).mpr long))] at rest
    obtain ⟨-, -, rest⟩ := rest
    rw [if_neg (mt (is_broadcast_iff cfg len frame).mp here.unicast), mine] at rest
    dsimp only at rest
    rw [if_pos here.ipv4, handle_packet_safe cfg frame draws len table _ receiver long short] at rest
    have fits := rest here.filled alive tcp (packet_routing_no_error cfg frame _ receiver alive free)
    rw [answer_fits] at fits
    exact fits.imp id (trimmed_routed cfg table len frame _ receiver).mp
  · intro roomy
    have short := roomy.high
    refine ⟨?_, ?_, checked.mpr ⟨roomy.low, short⟩, ?_⟩
    · simp only [receiveEthernetFrame, safe_write]
      omega
    · simp only [binaryToHex, safe_bind, safe_read, safe_pure, and_true]
      omega
    · split
      · exact safe_pure 1600 frame _
      · rename_i valid
        have long := (valid_length_iff cfg len frame).mp (not_not.mp valid)
        refine ⟨by simp, by simp, ?_⟩
        split
        · have arp := handle_arp_safe cfg frame len roomy.low short
          split
          · exact ⟨arp, safe_pure 1600 _ _⟩
          · exact safe_pure 1600 frame _
        · rename_i broadcast
          have unicast := mt (is_broadcast_iff cfg len frame).mpr broadcast
          cases mine : OsiStack.ethCmp cfg frame with
          | none => exact safe_pure 1600 frame _
          | some receiver =>
              dsimp only
              rw [safe_ite]
              split
              · rename_i ipv4
                rw [handle_packet_safe cfg frame draws len table _ receiver long short]
                intro full alive tcp noError
                have here : ForLocalMac cfg len frame :=
                  ⟨long, unicast, eth_cmp_mine cfg frame receiver mine, ipv4, full, octet_one_le _ alive⟩
                rw [answer_fits]
                refine (roomy.growth here tcp fun pending => ?_).imp id (trimmed_routed cfg table len frame _ receiver).mpr
                rw [(packet_routing_error cfg frame _ receiver pending).1] at noError
                cases noError
              · exact safe_pure 1600 frame _

end InBuffer

theorem frame_buffer_bounds (cfg : Network) (table : Table) (w : Announced) (m : Memory) (icmpCode : Nat)
    (draws : List UInt32) : Safe 1600 (InBuffer.interfaceReceiver cfg w.len w.octets icmpCode draws table) m ↔
      Roomy cfg table w.len (store m 0 w.octets) :=
  InBuffer.interface_receiver_safe cfg m draws w.len table w.octets icmpCode w.low w.high w.filled

def threeOctets : Announced := ⟨3, [0, 0, 0], by omega, by omega, by decide⟩
def longFrame : Announced := ⟨1601, List.replicate 1601 0, by omega, by omega, by rw [List.length_replicate]⟩
def fullSegment : Announced := ⟨1600, fetch (visitor 100 0 2 []).buffer 0 1600, by omega, by omega, by simp⟩

def accesses (w : Announced) : List Access :=
  (InBuffer.interfaceReceiver soloConfig w.len w.octets 0 [] zeroTable fun _ => 0).log

theorem announced_outside_buffer : Access.size (-1) ∈ accesses threeOctets ∧ Access.octets 1597 4 ∈ accesses longFrame ∧
    Access.octets 1600 4 ∈ accesses fullSegment ∧
    ¬ ∀ (cfg : Network) (table : Table) (w : Announced) (m : Memory) (icmpCode : Nat) (draws : List UInt32),
      Safe 1600 (InBuffer.interfaceReceiver cfg w.len w.octets icmpCode draws table) m := by
  have wrapped : Access.size (-1) ∈ accesses threeOctets := by decide +kernel
  refine ⟨wrapped, by decide +kernel, by decide +kernel, ?_⟩
  intro inside
  have bound : (0 : Int) ≤ -1 := inside soloConfig zeroTable threeOctets (fun _ => 0) 0 [] _ wrapped
  exact absurd bound (by decide)

end OsiStack
