import OsiStack.Emission

set_option autoImplicit false

namespace OsiStack

open Octets

structure ForLocalMac (cfg : Network) (len : Nat) (m : Memory) : Prop where
  long : 64 ≤ len
  unicast : FrameFields.destAddr m ≠ broadcastAddr
  mine : ∃ iface ∈ cfg.interfaceList, iface.macAddr = FrameFields.destAddr m
  ipv4 : ntohs (FrameFields.type m) = 2048
  filled : 20 < (ntohs (IpHeader.totalLength m)).toNat
  alive : 1 ≤ IpHeader.ttl m

structure ForTcpPort (cfg : Network) (len : Nat) (m : Memory) : Prop extends ForLocalMac cfg len m where
  tcp : IpHeader.protocol m = 6
  destAddr : IpHeader.destAddr m = tcpIp
  destPort : ntohs (Tcp.destPort m) = hostTcpPort

structure ArpRequest (cfg : Network) (len : Nat) (m : Memory) : Prop where
  long : 64 ≤ len
  broadcast : FrameFields.destAddr m = broadcastAddr
  type : ntohs (FrameFields.type m) = 2054
  request : ntohs (Arp.opcode m) = 1
  target : ∃ iface ∈ cfg.interfaceList, iface.ipAddr = Arp.targetIp m

structure Gated (cfg : Network) (len : Nat) (m : Memory) (table : Table) (e : Effects) : Prop where
  table : e.table ≠ table → ForTcpPort cfg len m
  sent : e.sent ≠ [] → ArpRequest cfg len m ∨ ForLocalMac cfg len m
  atMost : e.sent.length ≤ 2
  twice : e.sent.length = 2 → ForTcpPort cfg len m

theorem gated_nothing (cfg : Network) (len : Nat) (m : Memory) (table : Table) : Gated cfg len m table (noEffect table) where
  table := fun changed => absurd rfl changed
  sent := fun sends => absurd rfl sends
  atMost := by simp [noEffect]
  twice := by simp [noEffect]

theorem handle_arp_sent (cfg : Network) (m : Memory) (len : Nat) : (handleArp cfg m len).length ≤ 1 ∧
    (handleArp cfg m len ≠ [] → ntohs (Arp.opcode m) = 1 ∧ ∃ iface ∈ cfg.interfaceList, iface.ipAddr = Arp.targetIp m) := by
  unfold handleArp
  by_cases request : ntohs (Arp.opcode m) = 1
  · rw [if_pos request]
    cases found : isInterface cfg (Arp.targetIp m) with
    | none => simp
    | some k =>
        obtain ⟨iface, first⟩ := ListSearch.find_idx_some (fun iface : Interface => iface.ipAddr = Arp.targetIp m) _ k found
        exact ⟨by simp, fun _ => ⟨request, iface, List.mem_of_getElem? (ListSearch.is_first_get _ _ _ _ first), first.1⟩⟩
  · rw [if_neg request]
    simp

theorem handle_tcp_packet_at_most (cfg : Network) (draws : List UInt32) (len : Nat) (r : Routing) (table : Table) :
    (handleTcpPacket cfg draws len r table).sent.length ≤ 2 := by
  rw [handle_tcp_packet_sent cfg draws len r table _ rfl]
  split
  · simp
  · split <;> simp

theorem handle_tcp_packet_changed (cfg : Network) (draws : List UInt32) (len : Nat) (r : Routing) (table : Table)
    (changed : (handleTcpPacket cfg draws len r table).table ≠ table) : refusal r.frame = none := by
  cases heard : refusal r.frame with
  | none => rfl
  | some notice =>
      rw [handle_tcp_packet_refused cfg draws len r table notice heard] at changed
      exact absurd rfl changed

theorem packet_routing_refusal (cfg : Network) (m : Memory) (icmp : Icmp) (receiver : Nat) :
    refusal (packetRouting cfg m icmp receiver).frame = refusal m := by
  have addr : IpHeader.destAddr (packetRouting cfg m icmp receiver).frame = IpHeader.destAddr m :=
    load_octets_congr _ _ 30 4 fun i low _ => packet_routing_octet cfg m icmp receiver i (by omega)
  have port : Tcp.destPort (packetRouting cfg m icmp receiver).frame = Tcp.destPort m :=
    load16_congr _ _ 36 fun i low _ => packet_routing_octet cfg m icmp receiver i (by omega)
  rw [refusal, refusal, addr, port]

theorem packet_routing_header (cfg : Network) (m : Memory) (icmp : Icmp) (receiver : Nat) :
    readHeader (packetRouting cfg m icmp receiver).frame = readHeader m :=
  read_header_congr _ m fun k inside => packet_routing_octet cfg m icmp receiver k (by omega)

theorem for_tcp_port (cfg : Network) (len : Nat) (m : Memory) (icmp : Icmp) (receiver : Nat) (here : ForLocalMac cfg len m)
    (tcp : IpHeader.protocol m = 6) (heard : refusal (packetRouting cfg m icmp receiver).frame = none) :
    ForTcpPort cfg len m := by
  rw [packet_routing_refusal, refusal_none] at heard
  exact ⟨here, tcp, heard.1, heard.2⟩

theorem packet_gated (cfg : Network) (draws : List UInt32) (len : Nat) (m : Memory) (icmp : Icmp) (receiver : Nat)
    (table : Table) (long : 64 ≤ len) (unicast : FrameFields.destAddr m ≠ broadcastAddr)
    (mine : ethCmp cfg m = some receiver) (ipv4 : ntohs (FrameFields.type m) = 2048) :
    Gated cfg len m table (handlePacket cfg draws len m icmp receiver table) := by
  have fate := handle_packet_fate cfg draws len m icmp receiver table
  generalize handlePacket cfg draws len m icmp receiver table = e at fate ⊢
  have here (filled : 20 < (ntohs (IpHeader.totalLength m)).toNat) (alive : IpHeader.ttl m ≠ 0) : ForLocalMac cfg len m :=
    ⟨long, unicast, eth_cmp_mine cfg m receiver mine, ipv4, filled, octet_one_le _ alive⟩
  cases fate with
  | dropped => exact gated_nothing cfg len m table
  | routed filled alive =>
      exact ⟨fun changed => absurd rfl changed, fun _ => Or.inr (here filled alive), by simp, by simp⟩
  | segment filled alive tcp =>
      have admitted := for_tcp_port cfg len m icmp receiver (here filled alive) tcp
      refine ⟨fun changed => admitted (handle_tcp_packet_changed cfg draws len _ table changed),
        fun sends => Or.inr (admitted (segment_sent_heard cfg draws len _ table sends).1).toForLocalMac,
        handle_tcp_packet_at_most cfg draws len _ table, ?_⟩
      intro two
      refine admitted (segment_sent_heard cfg draws len _ table ?_).1
      intro silent
      simp [silent] at two

theorem effects_gated (cfg : Network) (len : Nat) (m : Memory) (icmpCode : Nat) (draws : List UInt32) (table : Table) :
    Gated cfg len m table (interfaceReceiver cfg len m icmpCode draws table) := by
  have fate := interface_receiver_fate cfg len m icmpCode draws table
  generalize interfaceReceiver cfg len m icmpCode draws table = e at fate ⊢
  cases fate with
  | ignored => exact gated_nothing cfg len m table
  | arp long broadcast type =>
      obtain ⟨one, asked⟩ := handle_arp_sent cfg m len
      refine ⟨fun changed => absurd rfl changed, fun sends => ?_, Nat.le_succ_of_le one, fun two => ?_⟩
      · obtain ⟨request, target⟩ := asked sends
        exact Or.inl ⟨long, broadcast, type, request, target⟩
      · dsimp only at two
        omega
  | packet receiver long unicast mine ipv4 =>
      exact packet_gated cfg draws len m ⟨1, icmpCode⟩ receiver table long unicast mine ipv4

end OsiStack
