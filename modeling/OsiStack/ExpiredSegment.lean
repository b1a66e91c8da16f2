import OsiStack.Emission
import OsiStack.ErrorReport

set_option autoImplicit false

namespace OsiStack

open Octets PeerSegment

structure OnlyReported (m : Memory) (table : Table) (e : Effects) : Prop where
  table : e.table = table
  addressed : ∀ s ∈ e.sent, IpHeader.destAddr (ofList s.frame) = IpHeader.srcAddr m
  quoted : ∀ s ∈ e.sent, fetch (ofList s.frame) 42 28 = fetch m 14 28

theorem packet_routing_expired (cfg : Network) (m : Memory) (icmp : Icmp) (receiver : Nat) (expired : IpHeader.ttl m = 1) :
    (packetRouting cfg m icmp receiver).error = true ∧ (packetRouting cfg m icmp receiver).icmp = ⟨11, 0⟩ ∧
      (packetRouting cfg m icmp receiver).frame = m := by
  cases here : isInterface cfg (IpHeader.destAddr m) with
  | none => simp [packetRouting, here, expired]
  | some i => simp [packetRouting, here, expired]

theorem finish_tcp_ttl (out : TcpOutcome) (segmentLen octets : UInt16) :
    IpHeader.ttl (finishTcp out segmentLen octets false) = 64 := by
  simp [finishTcp, readdress]

section
variable (cfg : Network) (draws : List UInt32) (len : Nat) (r : Routing) (table : Table) (error : r.error = true)
variable (i : Fin tcpConnectionLimit) (heard : refusal r.frame = none)
variable (chosen : slotFor table (hear r.frame len).peer = some i)
include error heard chosen

-- The first frame quotes the header that handle_tcp has rewritten, and goes to
-- the address that handle_tcp has put in as its source.
theorem first_sent_misreports (currLen : Nat) :
    ofList (emit r (firstSent cfg draws len r table currLen)).frame 50 = 64 ∧
      IpHeader.destAddr (ofList (emit r (firstSent cfg draws len r table currLen)).frame) = tcpIp := by
  have size : (firstSent cfg draws len r table currLen).len = 74 := by
    rw [firstSent, error, encapsulation_error_len]
  have octet (k : Nat) (inside : k < 74) : ofList (emit r (firstSent cfg draws len r table currLen)).frame k =
      (firstSent cfg draws len r table currLen).frame k :=
    sent_octet _ _ _ k (by omega) (by omega)
  constructor
  · rw [octet 50 (by omega), firstSent, error,
      encapsulation_error_octet cfg _ currLen r.finalDestAddr r.icmp r.transmitter false 50 (by omega) (by omega),
      handle_icmp_quoted cfg _ r.icmp r.transmitter 8 (by omega), handle_tcp_heard draws len r.frame table i heard chosen,
      ← finish_tcp_ttl (firstPayload draws len r.frame table i) (tcpSegmentLen r.frame len) (dataOctets r.frame len)]
    simp (disch := first | (simp; done) | (simp; omega)) [turnedBack]
  · rw [← first_sent_stray cfg draws len r table error i heard chosen currLen]
    exact load_octets_congr _ _ 30 4 fun k low high => octet k (by omega)

theorem segment_sent_misreports (answered : (handleTcpPacket cfg draws len r table).sent ≠ []) :
    ∃ s ∈ (handleTcpPacket cfg draws len r table).sent, ofList s.frame 50 = 64 ∧
      IpHeader.destAddr (ofList s.frame) = tcpIp := by
  have misreports := first_sent_misreports cfg draws len r table error i heard chosen
  rw [handle_tcp_packet_sent cfg draws len r table _ rfl] at answered ⊢
  split at answered
  · rename_i once
    rw [if_pos once]
    exact ⟨_, List.mem_singleton.mpr rfl, misreports _⟩
  · rename_i notOnce
    split at answered
    · rename_i twice
      rw [if_neg notOnce, if_pos twice]
      exact ⟨_, List.mem_cons_self, misreports _⟩
    · exact absurd rfl answered

end

theorem expired_misreported (cfg : Network) (draws : List UInt32) (len : Nat) (m : Memory) (icmp : Icmp) (receiver : Nat)
    (table : Table) (tcp : IpHeader.protocol m = 6) (expired : IpHeader.ttl m = 1)
    (answered : (handlePacket cfg draws len m icmp receiver table).sent ≠ []) :
    ∃ s ∈ (handlePacket cfg draws len m icmp receiver table).sent, ofList s.frame 50 = 64 ∧
      IpHeader.destAddr (ofList s.frame) = tcpIp := by
  have fate := handle_packet_fate cfg draws len m icmp receiver table
  generalize handlePacket cfg draws len m icmp receiver table = e at fate answered ⊢
  cases fate with
  | dropped => exact absurd rfl answered
  | routed _ _ other => exact absurd tcp other
  | segment =>
      obtain ⟨error, -, -⟩ := packet_routing_expired cfg m icmp receiver expired
      obtain ⟨heard, i, chosen⟩ := segment_sent_heard cfg draws len _ table answered
      exact segment_sent_misreports cfg draws len _ table error i heard chosen answered

theorem expired_not_only_reported (cfg : Network) (draws : List UInt32) (len : Nat) (m : Memory) (icmp : Icmp)
    (receiver : Nat) (table : Table) (tcp : IpHeader.protocol m = 6) (expired : IpHeader.ttl m = 1)
    (answered : (handlePacket cfg draws len m icmp receiver table).sent ≠ []) :
    ¬ OnlyReported m table (handlePacket cfg draws len m icmp receiver table) := by
  intro only
  obtain ⟨s, member, ttl, -⟩ := expired_misreported cfg draws len m icmp receiver table tcp expired answered
  have quoted := congrArg (fun octets => octets.getD 8 0) (only.quoted s member)
  simp only [fetch_getD _ _ 28 8 (by omega)] at quoted
  rw [ttl, show m (14 + 8) = 1 from expired] at quoted
  exact absurd quoted (by decide)

def lastHopSyn : Memory := PeerSegment.buffer { visitor 100 0 2 [] with ttl := 1 }

theorem last_hop_answered : (handlePacket soloConfig [] 64 lastHopSyn ⟨1, 0⟩ 0 zeroTable).sent ≠ [] := by decide +kernel

theorem expired_not_only_reported_syn :
    ¬ OnlyReported lastHopSyn zeroTable (handlePacket soloConfig [] 64 lastHopSyn ⟨1, 0⟩ 0 zeroTable) :=
  expired_not_only_reported soloConfig [] 64 lastHopSyn ⟨1, 0⟩ 0 zeroTable (by decide +kernel) (by decide +kernel)
    last_hop_answered

theorem expired_syn_opens_connection : Reachable soloConfig zeroTable ∧ IpHeader.protocol lastHopSyn = 6 ∧
    refusal lastHopSyn = none ∧ IpHeader.ttl lastHopSyn = 1 ∧
    (handlePacket soloConfig [] 64 lastHopSyn ⟨1, 0⟩ 0 zeroTable).sent ≠ [] ∧
    ((handlePacket soloConfig [] 64 lastHopSyn ⟨1, 0⟩ 0 zeroTable).table 0).connectionStatus = 2 ∧
    ¬ OnlyReported lastHopSyn zeroTable (handlePacket soloConfig [] 64 lastHopSyn ⟨1, 0⟩ 0 zeroTable) := by
  have opened : ((handlePacket soloConfig [] 64 lastHopSyn ⟨1, 0⟩ 0 zeroTable).table 0).connectionStatus = 2 := by
    decide +kernel
  refine ⟨reachable_zero soloConfig, by decide +kernel, by decide +kernel, by decide +kernel, last_hop_answered, opened, ?_⟩
  intro only
  rw [only.table] at opened
  exact absurd opened (by decide)

end OsiStack
