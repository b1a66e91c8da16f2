import OsiStack.Gating
import OsiStack.TableInvariant

set_option autoImplicit false

namespace OsiStack

open Octets PeerSegment

def sender (m : Memory) : Peer := (IpHeader.srcAddr m, ntohs (Tcp.srcPort m))

def SenderSlot (table : Table) (peer : Peer) (j : Fin tcpConnectionLimit) : Prop :=
  (peerOf (table j) = peer ∧ ∀ i, i < j → peerOf (table i) ≠ peer) ∨
    (∀ i, peerOf (table i) ≠ peer) ∧ (table j).connectionStatus = 0 ∧ ∀ i, i < j → (table i).connectionStatus ≠ 0

theorem sender_slot (table : Table) (peer : Peer) (j : Fin tcpConnectionLimit) (chosen : slotFor table peer = some j) :
    SenderSlot table peer j := by
  unfold slotFor SlotTable.choose at chosen
  cases found : SlotTable.lookup peerOf table peer with
  | some i =>
      rw [found] at chosen
      cases chosen
      exact Or.inl ((SlotTable.lookup_some peerOf table peer j).mp found)
  | none =>
      rw [found] at chosen
      dsimp only at chosen
      obtain ⟨dead, alive⟩ := (SlotTable.space_some isLive table j).mp chosen
      refine Or.inr ⟨(SlotTable.lookup_none peerOf table peer).mp found, (is_dead_iff _).mp dead, fun i before => ?_⟩
      exact (is_live_iff _).mp (alive i before)

theorem sender_slot_chosen (table : Table) (peer : Peer) (j : Fin tcpConnectionLimit) (place : SenderSlot table peer j) :
    slotFor table peer = some j := by
  unfold slotFor SlotTable.choose
  rcases place with own | ⟨absent, dead, before⟩
  · rw [(SlotTable.lookup_some peerOf table peer j).mpr own]
  · rw [(SlotTable.lookup_none peerOf table peer).mpr absent]
    exact (SlotTable.space_some isLive table j).mpr ⟨(is_dead_iff _).mpr dead,
      fun i less => (is_live_iff _).mpr (before i less)⟩

theorem sender_slot_none (table : Table) (peer : Peer) (absent : ∀ i, peerOf (table i) ≠ peer)
    (full : ∀ i, (table i).connectionStatus ≠ 0) : slotFor table peer = none := by
  rw [slotFor, SlotTable.choose, (SlotTable.lookup_none peerOf table peer).mpr absent]
  exact (SlotTable.space_none isLive table).mpr fun i => (is_live_iff _).mpr (full i)

structure Isolated (table : Table) (peer : Peer) (e : Effects) : Prop where
  onlySender : ∀ j, e.table j ≠ table j → SenderSlot table peer j
  othersKept : ∀ j, (table j).connectionStatus ≠ 0 → peerOf (table j) ≠ peer → e.table j = table j
  noneEvicted : (∀ j, peerOf (table j) ≠ peer) → (∀ j, (table j).connectionStatus ≠ 0) → e.table = table ∧ e.sent = []

theorem isolated_update (m : Memory) (table : Table) (j : Fin tcpConnectionLimit) (conn : TcpConnection) (e : Effects)
    (chosen : slotFor table (sender m) = some j) (same : e.table = Function.update table j conn) :
    Isolated table (sender m) e := by
  refine ⟨fun i changed => ?_, fun i live other => ?_, fun absent full => ?_⟩
  · have here : i = j := by
      by_contra apart
      rw [same, Function.update_of_ne apart] at changed
      exact changed rfl
    rw [here]
    exact sender_slot table (sender m) j chosen
  · have apart := SlotTable.canonical_choose_other peerOf isLive table (sender m) j i chosen ((is_live_iff _).mpr live) other
    rw [same, Function.update_of_ne apart.symm]
  · rw [sender_slot_none table (sender m) absent full] at chosen
    cases chosen

section
variable (cfg : Config) (draws : List UInt32) (len : Nat) (m : Memory) (icmp : Icmp) (receiver : Nat)
variable (tcp : IpHeader.protocol m = 6) (lasting : 2 ≤ IpHeader.ttl m)
include tcp lasting

theorem segment_handled : (∃ notices, ∀ table, handlePacket cfg draws len m icmp receiver table = ⟨table, [], [], notices⟩) ∨
    refusal m = none ∧ ∀ table, handlePacket cfg draws len m icmp receiver table =
      handleTcpPacket cfg draws len (localRouting m icmp receiver) table := by
  have alive := octet_ne _ 0 lasting (by decide)
  by_cases filled : 20 < (ntohs (IpHeader.totalLength m)).toNat
  · cases heard : refusal m with
    | none =>
        exact Or.inr ⟨rfl, fun table => handle_packet_tcp cfg draws len m icmp receiver table filled alive tcp
          ((refusal_none m).mp heard).1⟩
    | some notice =>
        refine Or.inl ⟨[notice], fun table => ?_⟩
        rw [handle_packet_segment cfg draws len m icmp receiver table filled alive tcp,
          handle_tcp_packet_refused cfg draws len _ table notice (by rw [packet_routing_refusal]; exact heard)]
  · refine Or.inl ⟨[], fun table => ?_⟩
    rw [handlePacket, if_pos filled]
    rfl

omit tcp in
theorem local_no_error : (localRouting m icmp receiver).error = false := by
  simp [localRouting, octet_ne _ 1 lasting (by decide)]

end

theorem segment_isolated (cfg : Config) (draws : List UInt32) (len : Nat) (m : Memory) (icmp : Icmp) (receiver : Nat)
    (table : Table) (long : 64 ≤ len) (tcp : IpHeader.protocol m = 6) (lasting : 2 ≤ IpHeader.ttl m) :
    Isolated table (sender m) (handlePacket cfg draws len m icmp receiver table) := by
  rcases segment_handled cfg draws len m icmp receiver tcp lasting with ⟨notices, nothing⟩ | ⟨heard, handled⟩
  · rw [nothing]
    exact ⟨fun j changed => absurd rfl changed, fun _ _ _ => rfl, fun _ _ => ⟨rfl, rfl⟩⟩
  · rw [handled]
    cases chosen : slotFor table (sender m) with
    | none =>
        rw [handle_tcp_packet_full cfg draws len (localRouting m icmp receiver) table heard chosen]
        exact ⟨fun j changed => absurd rfl changed, fun _ _ _ => rfl, fun _ _ => ⟨rfl, rfl⟩⟩
    | some j =>
        exact isolated_update m table j _ _ chosen (handle_tcp_packet_heard cfg draws len
          (localRouting m icmp receiver) table j heard chosen (by omega) (Or.inl (local_no_error m icmp receiver lasting)))

def visitorSegment (seq ack : UInt32) (bits : UInt16) : Reception := (visitor seq ack bits []).arrival [htonl 777]

theorem segment_isolated_syn : Isolated zeroTable (sender (visitorSegment 100 0 2).buffer)
    (handlePacket soloConfig [] 64 (visitorSegment 100 0 2).buffer ⟨1, 0⟩ 0 zeroTable) :=
  segment_isolated soloConfig [] 64 (visitorSegment 100 0 2).buffer ⟨1, 0⟩ 0 zeroTable (by omega) (by decide +kernel)
    (by decide +kernel)

-- What handle_tcp_payload reads of the table is the one slot.
theorem payload_frame_congr (m : Memory) (octets : Int8) (offset : UInt8) (table table' : Table) (id : Fin tcpConnectionLimit)
    (draws : List UInt32) (bits : UInt8) (headerLen : Nat) (same : table id = table' id) :
    (handleTcpPayload m octets offset table id draws bits false headerLen).frame =
      (handleTcpPayload m octets offset table' id draws bits false headerLen).frame := by
  rw [handle_tcp_payload_kind, handle_tcp_payload_kind]
  cases kindOf bits with
  | syn => rfl
  | ack =>
      by_cases dead : (table id).connectionStatus = 0
      · have dead' : (table' id).connectionStatus = 0 := by rw [← same]; exact dead
        simp [handleAck, dead, dead']
      · have live' : (table' id).connectionStatus ≠ 0 := by rw [← same]; exact dead
        dsimp only
        rw [handle_ack_frame m octets table id headerLen dead, handle_ack_frame m octets table' id headerLen live']
  | pshAck => rfl
  | finAck =>
      dsimp only
      rw [handle_fin_ack_frame, handle_fin_ack_frame]
  | other => rfl

section
variable (cfg : Network) (draws : List UInt32) (len : Nat) (r : Routing) (table table' : Table) (i : Fin tcpConnectionLimit)
variable (heard : refusal r.frame = none) (chosen : slotFor table (hear r.frame len).peer = some i)
variable (chosen' : slotFor table' (hear r.frame len).peer = some i) (same : table i = table' i)
include heard chosen chosen' same

theorem handle_tcp_slot_congr : (handleTcp draws len r.frame table false).status =
      (handleTcp draws len r.frame table' false).status ∧
    (handleTcp draws len r.frame table false).frame = (handleTcp draws len r.frame table' false).frame := by
  have status := (first_payload_refines draws len r.frame table i).2
  have status' := (first_payload_refines draws len r.frame table' i).2
  rw [← same, ← status] at status'
  have frame : (firstPayload draws len r.frame table i).frame = (firstPayload draws len r.frame table' i).frame :=
    payload_frame_congr r.frame _ _ table table' i draws _ _ same
  rw [handle_tcp_heard draws len r.frame table i heard chosen, handle_tcp_heard draws len r.frame table' i heard chosen']
  refine ⟨status'.symm, ?_⟩
  simp only [finishTcp, status', frame]

theorem segment_sent_slot_congr (noError : r.error = false) (long : 54 ≤ len) (short : len < 65000) :
    (handleTcpPacket cfg draws len r table).sent = (handleTcpPacket cfg draws len r table').sent := by
  obtain ⟨status, frame⟩ := handle_tcp_slot_congr draws len r table table' i heard chosen chosen' same
  have first (currLen : Nat) : firstSent cfg draws len r table currLen = firstSent cfg draws len r table' currLen := by
    rw [firstSent, firstSent, frame]
  rw [handle_tcp_packet_sent cfg draws len r table _ rfl, handle_tcp_packet_sent cfg draws len r table' _ rfl, ← status]
  split
  · rw [first]
  · split
    · rename_i twice
      have closing := (handle_tcp_first_status draws len r.frame table i heard chosen).symm.trans twice
      have closing' : (hear r.frame len).status (table' i) = tcpFinAck := by rw [← same]; exact closing
      have again := second_pass_slot cfg draws len r table i heard chosen noError long short closing
      have again' := second_pass_slot cfg draws len r table' i heard chosen' noError long short closing'
      rw [first len] at again
      have second : secondSent cfg draws len r table = secondSent cfg draws len r table' := by
        simp only [secondSent, first, handle_tcp_again draws len _ _ i again,
          handle_tcp_again draws len _ _ i again', finishTcp, handleFinAck, if_true]
      rw [first, second]
    · rfl

end

theorem outcome_key (h : Heard) (conn : TcpConnection) (keyed : peerOf conn = h.peer) : peerOf (h.outcome conn) = h.peer := by
  have first : peerOf (h.apply conn) = h.peer := by
    by_cases syn : h.kind = .syn
    · exact apply_syn_key h conn syn
    · rw [apply_key h conn syn, keyed]
  unfold Heard.outcome
  split
  · exact first
  · exact first

def segmentStep (cfg : Network) (draws : List UInt32) (len : Nat) (m : Memory) (icmp : Icmp) (receiver : Nat)
    (table : Table) : Table × List Sent :=
  let e := handlePacket cfg draws len m icmp receiver table
  (e.table, e.sent)

theorem choose_found (table : Table) (peer : Peer) (i : Fin tcpConnectionLimit)
    (found : SlotTable.lookup peerOf table peer = some i) : slotFor table peer = some i := by
  rw [slotFor, SlotTable.choose, found]

theorem segment_own_slot (cfg : Config) (draws : List UInt32) (len : Nat) (m : Memory) (icmp : Icmp) (receiver : Nat)
    (long : 64 ≤ len) (short : len ≤ 1596) (tcp : IpHeader.protocol m = 6) (lasting : 2 ≤ IpHeader.ttl m) :
    ∃ rewrite, SlotTable.OwnSlot peerOf (sender m) rewrite (segmentStep cfg draws len m icmp receiver) := by
  have noError := local_no_error m icmp receiver lasting
  rcases segment_handled cfg draws len m icmp receiver tcp lasting with ⟨notices, nothing⟩ | ⟨heard, handled⟩
  · refine ⟨id, fun _ keyed => keyed, fun table i _ => ?_, fun table table' i _ _ _ => ?_⟩
    · simp [segmentStep, nothing]
    · simp [segmentStep, nothing]
  · refine ⟨(hear m len).outcome, outcome_key (hear m len), fun table i found => ?_,
      fun table table' i found found' same => ?_⟩
    · simp only [segmentStep, handled]
      exact handle_tcp_packet_heard cfg draws len (localRouting m icmp receiver) table i heard
        (choose_found table _ i found) (by omega) (Or.inl noError)
    · simp only [segmentStep, handled]
      exact segment_sent_slot_congr cfg draws len (localRouting m icmp receiver) table table' i heard
        (choose_found table _ i found) (choose_found table' _ i found') same noError (by omega) (by omega)

structure StackSegment (r : Reception) : Prop where
  long : 64 ≤ r.len
  tcp : IpHeader.protocol r.buffer = 6
  destAddr : IpHeader.destAddr r.buffer = tcpIp
  lasting : 2 ≤ IpHeader.ttl r.buffer

def packetEffects (cfg : Network) (r : Reception) (receiver : Nat) (table : Table) : Effects :=
  handlePacket cfg r.draws r.len r.buffer ⟨1, r.icmpCode⟩ receiver table

theorem live_peers_commute (cfg : Config) (table : Table) (reached : Reachable cfg table) (a b : Reception) (ra rb : Nat)
    (segmentA : StackSegment a) (segmentB : StackSegment b) (apart : sender a.buffer ≠ sender b.buffer)
    (liveA : ∃ i, peerOf (table i) = sender a.buffer ∧ (table i).connectionStatus ≠ 0)
    (liveB : ∃ j, peerOf (table j) = sender b.buffer ∧ (table j).connectionStatus ≠ 0) :
    (packetEffects cfg b rb (packetEffects cfg a ra table).table).table =
      (packetEffects cfg a ra (packetEffects cfg b rb table).table).table ∧
      (packetEffects cfg a ra table).sent = (packetEffects cfg a ra (packetEffects cfg b rb table).table).sent ∧
      (packetEffects cfg b rb table).sent = (packetEffects cfg b rb (packetEffects cfg a ra table).table).sent := by
  have inv := table_inv_reachable cfg table reached
  obtain ⟨i, keyA, liveA⟩ := liveA
  obtain ⟨j, keyB, liveB⟩ := liveB
  have foundA := inv.canonical i ((is_live_iff _).mpr liveA)
  have foundB := inv.canonical j ((is_live_iff _).mpr liveB)
  rw [keyA] at foundA
  rw [keyB] at foundB
  obtain ⟨rewriteA, ownA⟩ := segment_own_slot cfg a.draws a.len a.buffer
    ⟨1, a.icmpCode⟩ ra segmentA.long a.lenHigh segmentA.tcp segmentA.lasting
  obtain ⟨rewriteB, ownB⟩ := segment_own_slot cfg b.draws b.len b.buffer
    ⟨1, b.icmpCode⟩ rb segmentB.long b.lenHigh segmentB.tcp segmentB.lasting
  exact SlotTable.own_slot_commute peerOf _ _ rewriteA rewriteB _ _ ownA ownB apart table i j foundA foundB

def neighbourSegment (seq ack : UInt32) (bits : UInt16) : Reception :=
  ({ visitor seq ack bits [] with ipAddr := ipOctets 0x0A 0x00 0x00 0x02 } : PeerSegment).arrival [htonl 888]

def bothVisit : Table :=
  Runs.run (step soloConfig) zeroTable [.frame (visitorSegment 100 0 2), .frame (neighbourSegment 200 0 2)]

theorem live_peers_commute_visitors :
    (packetEffects soloConfig (neighbourSegment 300 0 2) 0
          (packetEffects soloConfig (visitorSegment 101 778 17) 0 bothVisit).table).table =
        (packetEffects soloConfig (visitorSegment 101 778 17) 0
          (packetEffects soloConfig (neighbourSegment 300 0 2) 0 bothVisit).table).table ∧
      (packetEffects soloConfig (visitorSegment 101 778 17) 0 bothVisit).sent =
        (packetEffects soloConfig (visitorSegment 101 778 17) 0
          (packetEffects soloConfig (neighbourSegment 300 0 2) 0 bothVisit).table).sent ∧
      (packetEffects soloConfig (neighbourSegment 300 0 2) 0 bothVisit).sent =
        (packetEffects soloConfig (neighbourSegment 300 0 2) 0
          (packetEffects soloConfig (visitorSegment 101 778 17) 0 bothVisit).table).sent :=
  live_peers_commute soloConfig bothVisit ⟨_, rfl⟩ (visitorSegment 101 778 17) (neighbourSegment 300 0 2) 0 0
    ⟨by decide +kernel, by decide +kernel, by decide +kernel, by decide +kernel⟩
    ⟨by decide +kernel, by decide +kernel, by decide +kernel, by decide +kernel⟩ (by decide +kernel)
    ⟨0, by decide +kernel, by decide +kernel⟩ ⟨1, by decide +kernel, by decide +kernel⟩

end OsiStack
