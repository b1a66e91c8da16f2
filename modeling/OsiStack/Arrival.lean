import OsiStack.FrameLength

set_option autoImplicit false

namespace OsiStack

open Octets PeerSegment

def PassesOn (cfg : Network) (m : Memory) : Prop :=
  FrameFields.destAddr m ≠ broadcastAddr ∧ ntohs (FrameFields.type m) = 2048 ∧ IpHeader.protocol m ≠ 6 ∧ ¬ ErrorPending cfg m

def AnsweredOnArrival (cfg : Network) (table : Table) : Event → Prop
  | .frame r => ¬ PassesOn cfg r.buffer → ∀ s ∈ (receive cfg table r).sent, s.interface = r.netId
  | .input _ => True

def Provokes (m : Memory) (len : Nat) (conn : TcpConnection) : Prop :=
  controlBits m = 2 ∨ controlBits m = 17 ∨ controlBits m = 16 ∧ conn.connectionStatus = 1 ∧ 0 < payloadCount m len ∨
    controlBits m = 24 ∧ -3 ≤ payloadCount m len ∧ payloadCount m len ≠ -1

def FirstWithMac (cfg : Network) (m : Memory) (k : Nat) : Prop :=
  ∃ iface, ListSearch.IsFirst (fun iface : Interface => iface.macAddr = FrameFields.destAddr m) cfg.interfaceList k iface

-- Interface `k` is where an answer to the frame leaves: the one whose address an
-- ARP request asks for, the one whose MAC address the frame has, or that of a route.
inductive AnsweredFrom (cfg : Network) (table : Table) (len : Nat) (m : Memory) : Nat → Prop
  | arp (k : Nat) (request : ArpRequest cfg len m) (iface : Interface)
      (asked : ListSearch.IsFirst (fun iface : Interface => iface.ipAddr = Arp.targetIp m) cfg.interfaceList k iface) :
      AnsweredFrom cfg table len m k
  | error (k : Nat) (here : ForLocalMac cfg len m) (other : IpHeader.protocol m ≠ 6) (remote : Remote cfg m)
      (pending : ErrorPending cfg m) (mine : FirstWithMac cfg m k) : AnsweredFrom cfg table len m k
  | segment (k : Nat) (port : ForTcpPort cfg len m) (j : Fin tcpConnectionLimit) (slot : SenderSlot table (sender m) j)
      (provokes : Provokes m len (table j)) (back : Remote cfg m → ErrorPending cfg m) (mine : FirstWithMac cfg m k) :
      AnsweredFrom cfg table len m k
  | onward (row : TableR) (port : ForTcpPort cfg len m) (j : Fin tcpConnectionLimit) (slot : SenderSlot table (sender m) j)
      (provokes : Provokes m len (table j)) (remote : Remote cfg m) (free : ¬ ErrorPending cfg m)
      (best : BestRoute cfg (IpHeader.destAddr m) row) : AnsweredFrom cfg table len m row.interfaceId

theorem flags_provoked (m : Memory) (len : Nat) (conn : TcpConnection) : (hear m len).flags conn ≠ [] ↔
    Provokes m len conn := by
  have count : payloadCount m len = (hear m len).octets.toInt := (octets_toInt m len).symm
  have kind : (hear m len).kind = kindOf (controlBits m) := rfl
  have three : (hear m len).octets = -3 ↔ (hear m len).octets.toInt = -3 := by
    rw [← Int8.toInt_inj]
    rfl
  have two : (hear m len).octets = -2 ↔ (hear m len).octets.toInt = -2 := by
    rw [← Int8.toInt_inj]
    rfl
  rw [Provokes, count, ← kind_of_syn, ← kind_of_ack, ← kind_of_psh_ack, ← kind_of_fin_ack, ← kind, Heard.flags]
  cases (hear m len).kind with
  | syn => simp
  | ack => simp
  | pshAck =>
      simp only [three, two]
      split
      · simp; omega
      · split
        · simp; omega
        · simp; omega
  | finAck =>
      by_cases dead : conn.connectionStatus = 0 <;> simp [dead]
  | other => simp

section
variable (cfg : Network) (draws : List UInt32) (len : Nat) (r : Routing) (table : Table)

theorem segment_sent_interface (s : Sent) (member : s ∈ (handleTcpPacket cfg draws len r table).sent) :
    s.interface = r.transmitter := by
  rcases segment_sent_cases cfg draws len r table _ rfl s member with rfl | rfl
  · rfl
  · rfl

theorem segment_sent_provoked : (handleTcpPacket cfg draws len r table).sent ≠ [] ↔ refusal r.frame = none ∧
    ∃ j, SenderSlot table (sender r.frame) j ∧ Provokes r.frame len (table j) := by
  have answered (j : Fin tcpConnectionLimit) (heard : refusal r.frame = none)
      (chosen : slotFor table (sender r.frame) = some j) :
      (handleTcpPacket cfg draws len r table).sent ≠ [] ↔ Provokes r.frame len (table j) := by
    have status := handle_tcp_first_status draws len r.frame table j heard chosen
    rw [← flags_provoked, flags_status _ _ draws, handle_tcp_packet_sent cfg draws len r table _ status]
    split
    · simp
    · split <;> simp
  constructor
  · intro sends
    obtain ⟨heard, j, chosen⟩ := segment_sent_heard cfg draws len r table sends
    exact ⟨heard, j, sender_slot table _ j chosen, (answered j heard chosen).mp sends⟩
  · rintro ⟨heard, j, slot, provokes⟩
    exact (answered j heard (sender_slot_chosen table _ j slot)).mpr provokes

end

theorem first_with_mac (cfg : Network) (m : Memory) (k : Nat) (found : ethCmp cfg m = some k) : FirstWithMac cfg m k :=
  ListSearch.find_idx_some (fun iface : Interface => iface.macAddr = FrameFields.destAddr m) cfg.interfaceList k found

theorem eth_cmp_first (cfg : Network) (m : Memory) (k : Nat) (mine : FirstWithMac cfg m k) : ethCmp cfg m = some k := by
  obtain ⟨iface, first⟩ := mine
  exact ListSearch.find_idx_first (fun iface : Interface => iface.macAddr = FrameFields.destAddr m) cfg.interfaceList
    k iface first

section
variable (cfg : Network) (draws : List UInt32) (len : Nat) (m : Memory) (icmpCode : Nat) (table : Table)

theorem packet_answered_from (receiver : Nat) (long : 64 ≤ len) (unicast : FrameFields.destAddr m ≠ broadcastAddr)
    (found : ethCmp cfg m = some receiver) (ipv4 : ntohs (FrameFields.type m) = 2048) (answer : ¬ PassesOn cfg m) (s : Sent)
    (member : s ∈ (handlePacket cfg draws len m ⟨1, icmpCode⟩ receiver table).sent) :
    AnsweredFrom cfg table len m s.interface := by
  have mine := first_with_mac cfg m receiver found
  have here (filled : 20 < (ntohs (IpHeader.totalLength m)).toNat) (alive : IpHeader.ttl m ≠ 0) : ForLocalMac cfg len m :=
    ⟨long, unicast, eth_cmp_mine cfg m receiver found, ipv4, filled, octet_one_le _ alive⟩
  have fate := handle_packet_fate cfg draws len m ⟨1, icmpCode⟩ receiver table
  generalize handlePacket cfg draws len m ⟨1, icmpCode⟩ receiver table = e at fate member
  cases fate with
  | dropped => simp [noEffect] at member
  | routed filled alive other transit =>
      have pending : ErrorPending cfg m := by
        by_contra free
        exact answer ⟨unicast, ipv4, other, free⟩
      have place : s.interface = receiver := by
        rw [List.mem_singleton.mp member]
        exact (packet_routing_error cfg m ⟨1, icmpCode⟩ receiver pending).2
      rw [place]
      exact .error receiver (here filled alive) other ((remote_iff cfg m).mpr transit) pending mine
  | segment filled alive tcp =>
      have place := segment_sent_interface cfg draws len _ table s member
      obtain ⟨heard, j, slot, provokes⟩ := (segment_sent_provoked cfg draws len _ table).mp (List.ne_nil_of_mem member)
      obtain ⟨-, peer, bits, count⟩ := packet_routing_segment cfg m ⟨1, icmpCode⟩ receiver len
      rw [Provokes, bits, count] at provokes
      rw [peer] at slot
      have port := for_tcp_port cfg len m ⟨1, icmpCode⟩ receiver (here filled alive) tcp heard
      by_cases back : Remote cfg m → ErrorPending cfg m
      · have stays : (packetRouting cfg m ⟨1, icmpCode⟩ receiver).transmitter = receiver := by
          by_cases remote : Remote cfg m
          · exact (packet_routing_error cfg m _ receiver (back remote)).2
          · exact (packet_routing_local cfg m _ receiver remote).2
        rw [place, stays]
        exact .segment receiver port j slot provokes back mine
      · rw [Classical.not_imp] at back
        obtain ⟨remote, free⟩ := back
        obtain ⟨⟨row, best⟩, onward⟩ := packet_routing_onward cfg m ⟨1, icmpCode⟩ receiver remote alive free
        rw [place, (onward row best).2]
        exact .onward row port j slot provokes remote free best

theorem sent_answered_from (answer : ¬ PassesOn cfg m) (s : Sent)
    (member : s ∈ (interfaceReceiver cfg len m icmpCode draws table).sent) : AnsweredFrom cfg table len m s.interface := by
  have fate := interface_receiver_fate cfg len m icmpCode draws table
  generalize interfaceReceiver cfg len m icmpCode draws table = e at fate member
  cases fate with
  | ignored => simp [noEffect] at member
  | arp long broadcast type =>
      obtain ⟨request, idx, reply, found, -, sent⟩ := handle_arp_member cfg m len s member
      obtain ⟨iface, first⟩ := ListSearch.find_idx_some (fun iface : Interface => iface.ipAddr = Arp.targetIp m) _ idx found
      have target : iface ∈ cfg.interfaceList := List.mem_of_getElem? (ListSearch.is_first_get _ _ _ _ first)
      rw [sent]
      exact .arp idx ⟨long, broadcast, type, request, iface, target, first.1⟩ iface first
  | packet receiver long unicast mine ipv4 =>
      exact packet_answered_from cfg draws len m icmpCode table receiver long unicast mine ipv4 answer s member

theorem port_answered (port : ForTcpPort cfg len m) (j : Fin tcpConnectionLimit) (slot : SenderSlot table (sender m) j)
    (provokes : Provokes m len (table j)) : ∃ receiver, FirstWithMac cfg m receiver ∧
      ∃ s ∈ (interfaceReceiver cfg len m icmpCode draws table).sent,
        s.interface = (packetRouting cfg m ⟨1, icmpCode⟩ receiver).transmitter := by
  obtain ⟨receiver, found, handled⟩ := port_handled cfg len m icmpCode draws table port
  obtain ⟨-, peer, bits, count⟩ := packet_routing_segment cfg m ⟨1, icmpCode⟩ receiver len
  have heard := (refusal_none m).mpr ⟨port.destAddr, port.destPort⟩
  rw [← packet_routing_refusal cfg m ⟨1, icmpCode⟩ receiver] at heard
  rw [← peer] at slot
  rw [Provokes, ← bits, ← count] at provokes
  have sends := (segment_sent_provoked cfg draws len _ table).mpr ⟨heard, j, slot, provokes⟩
  refine ⟨receiver, first_with_mac cfg m receiver found, ?_⟩
  rw [handled]
  obtain ⟨s, member⟩ := List.exists_mem_of_ne_nil _ sends
  exact ⟨s, member, segment_sent_interface cfg draws len _ table s member⟩

theorem first_with_mac_unique (k receiver : Nat) (mine : FirstWithMac cfg m k) (found : FirstWithMac cfg m receiver) :
    receiver = k := by
  have same := eth_cmp_first cfg m k mine
  rw [eth_cmp_first cfg m receiver found] at same
  exact Option.some_inj.mp same

theorem answered_from_sent (k : Nat) (named : AnsweredFrom cfg table len m k) : ¬ PassesOn cfg m ∧
    ∃ s ∈ (interfaceReceiver cfg len m icmpCode draws table).sent, s.interface = k := by
  cases named with
  | arp k request iface asked =>
      refine ⟨fun passes => passes.1 request.broadcast, ?_⟩
      have found : isInterface cfg (Arp.targetIp m) = some k :=
        ListSearch.find_idx_first (fun iface : Interface => iface.ipAddr = Arp.targetIp m) cfg.interfaceList k iface asked
      rw [interface_receiver_arp cfg len m icmpCode draws table request.long request.broadcast request.type]
      simp only [handleArp, if_pos request.request, found]
      exact ⟨_, List.mem_singleton.mpr rfl, rfl⟩
  | error k here other remote pending mine =>
      refine ⟨fun passes => passes.2.2.2 pending, ?_⟩
      rw [interface_receiver_packet cfg len m icmpCode draws table k here.long here.unicast
        (eth_cmp_first cfg m k mine) here.ipv4,
        handle_packet_routed cfg draws len m _ k table ((remote_iff cfg m).mp remote) here.filled
          (local_mac_alive cfg len m here) other]
      exact ⟨_, List.mem_singleton.mpr rfl, (packet_routing_error cfg m _ k pending).2⟩
  | segment k port j slot provokes back mine =>
      refine ⟨fun passes => passes.2.2.1 port.tcp, ?_⟩
      obtain ⟨receiver, found, s, member, place⟩ := port_answered cfg draws len m icmpCode table port j slot provokes
      refine ⟨s, member, place.trans (Eq.trans ?_ (first_with_mac_unique cfg m k receiver mine found))⟩
      by_cases remote : Remote cfg m
      · exact (packet_routing_error cfg m _ receiver (back remote)).2
      · exact (packet_routing_local cfg m _ receiver remote).2
  | onward row port j slot provokes remote free best =>
      refine ⟨fun passes => passes.2.2.1 port.tcp, ?_⟩
      obtain ⟨receiver, -, s, member, place⟩ := port_answered cfg draws len m icmpCode table port j slot provokes
      have alive := local_mac_alive cfg len m port.toForLocalMac
      exact ⟨s, member, place.trans ((packet_routing_onward cfg m _ receiver remote alive free).2 row best).2⟩

end

def AnswersFromArrival (cfg : Network) (table : Table) : Event → Prop
  | .frame r => ∀ k, AnsweredFrom cfg table r.len r.buffer k → k = r.netId
  | .input _ => True

theorem answered_on_arrival_iff (cfg : Network) (table : Table) (e : Event) :
    AnsweredOnArrival cfg table e ↔ AnswersFromArrival cfg table e := by
  cases e with
  | input u => exact Iff.rfl
  | frame r =>
      constructor
      · intro answered k named
        obtain ⟨answer, s, member, place⟩ := answered_from_sent cfg r.draws r.len r.buffer r.icmpCode table k named
        rw [← place]
        exact answered answer s member
      · intro only answer s member
        exact only _ (sent_answered_from cfg r.draws r.len r.buffer r.icmpCode table answer s member)

theorem answers_leave_where_frames_came_in (cfg : Network) (events : List Event) :
    Runs.Always (step cfg) (AnsweredOnArrival cfg) zeroTable events ↔
      Runs.Always (step cfg) (AnswersFromArrival cfg) zeroTable events :=
  Runs.always_congr (step cfg) (AnsweredOnArrival cfg) (AnswersFromArrival cfg) (answered_on_arrival_iff cfg) zeroTable events

def mainConfig : Config where
  routingTable := [⟨ipOctets 1 2 0 0, ipOctets 0 0 0 0, ipOctets 255 255 0 0, 0⟩,
    ⟨ipOctets 1 3 0 0, ipOctets 0 0 0 0, ipOctets 255 255 0 0, 1⟩,
    ⟨ipOctets 1 4 0 0, ipOctets 0 0 0 0, ipOctets 255 255 0 0, 2⟩]
  arpCache := [⟨ipOctets 1 2 1 3, macOctets 0x12 0x9f 0x41 0x0d 0x0e 0x67⟩,
    ⟨ipOctets 1 3 1 2, macOctets 0x12 0x9f 0x41 0x0d 0x0e 0x68⟩]
  interfaceList := [⟨tcpMac, tcpIp⟩, ⟨macOctets 0x12 0x9f 0x41 0x0d 0x0e 0x65, ipOctets 1 3 1 1⟩,
    ⟨macOctets 0x12 0x9f 0x41 0x0d 0x0e 0x66, ipOctets 1 4 1 1⟩]
  tcpIpLocal := ⟨⟨tcpMac, tcpIp⟩, List.mem_cons_self, rfl⟩

def arpRequest (ipAddr : IpAddr) : Memory :=
  let e1 := FrameFields.setType (FrameFields.setDestAddr (fun _ => 0) broadcastAddr) (htons 2054)
  Arp.setTargetIp (Arp.setOpcode e1 (htons 1)) ipAddr

def asksOnFirst (ipAddr : IpAddr) : Reception := ⟨0, 64, arpRequest ipAddr, 0, [], by omega, by omega⟩

def synOnSecond : Reception := { visitorSegment 100 0 2 with netId := 1 }

theorem answers_leave_elsewhere : Reachable mainConfig zeroTable ∧
    ((receive mainConfig zeroTable (asksOnFirst (ipOctets 1 3 1 1))).sent.map Sent.interface) = [1] ∧
      ((receive mainConfig zeroTable synOnSecond).sent.map Sent.interface) = [0] ∧
      ¬ AnsweredOnArrival mainConfig zeroTable (.frame (asksOnFirst (ipOctets 1 3 1 1))) ∧
      ¬ AnsweredOnArrival mainConfig zeroTable (.frame synOnSecond) := by
  have strays (r : Reception) (k : Nat) (answer : ¬ PassesOn mainConfig r.buffer) (elsewhere : k ≠ r.netId)
      (leaves : ((receive mainConfig zeroTable r).sent.map Sent.interface) = [k]) :
      ¬ AnsweredOnArrival mainConfig zeroTable (.frame r) := by
    intro answered
    have listed : k ∈ (receive mainConfig zeroTable r).sent.map Sent.interface := by
      rw [leaves]
      exact List.mem_singleton.mpr rfl
    obtain ⟨s, member, place⟩ := List.mem_map.mp listed
    exact elsewhere (place.symm.trans (answered answer s member))
  have asked : ((receive mainConfig zeroTable (asksOnFirst (ipOctets 1 3 1 1))).sent.map Sent.interface) = [1] := by
    decide +kernel
  have opened : ((receive mainConfig zeroTable synOnSecond).sent.map Sent.interface) = [0] := by decide +kernel
  have request : ¬ PassesOn mainConfig (asksOnFirst (ipOctets 1 3 1 1)).buffer := fun passes =>
    absurd passes.1 (not_not_intro (by decide +kernel))
  have segment : ¬ PassesOn mainConfig synOnSecond.buffer := fun passes => passes.2.2.1 (by decide +kernel)
  exact ⟨reachable_zero mainConfig, asked, opened, strays _ 1 request (by decide) asked, strays _ 0 segment (by decide) opened⟩

end OsiStack
