import OsiStack.Forwarding
import OsiStack.Routes
import OsiStack.Sealing

set_option autoImplicit false

namespace OsiStack

open Octets

structure PassedOn (m : Memory) (len : Nat) (iface : Interface) (mac : MacAddr) (frame : List UInt8) : Prop where
  size : frame.length = len
  destAddr : FrameFields.destAddr (ofList frame) = mac
  srcAddr : FrameFields.srcAddr (ofList frame) = iface.macAddr
  ttl : (IpHeader.ttl (ofList frame)).toNat + 1 = (IpHeader.ttl m).toNat
  alive : 1 ≤ IpHeader.ttl (ofList frame)
  header : ipChecksum (fetch (ofList frame) 14 20) = 0
  checkSequence : CheckSequence frame
  others : ∀ k, 12 ≤ k → k < len - 4 → k ≠ 22 → k ≠ 24 → k ≠ 25 → ofList frame k = m k

structure InTransit (cfg : Network) (m : Memory) : Prop where
  ipv4 : ntohs (FrameFields.type m) = 2048
  filled : 20 < (ntohs (IpHeader.totalLength m)).toNat
  other : IpHeader.protocol m ≠ 6
  remote : ∀ iface ∈ cfg.interfaceList, iface.ipAddr ≠ IpHeader.destAddr m

theorem one_hop_less (ttl : UInt8) (lasting : 2 ≤ ttl) : (ttl - 1).toNat + 1 = ttl.toNat ∧ 1 ≤ ttl - 1 := by
  have low : 2 ≤ ttl.toNat := UInt8.le_iff_toNat_le.mp lasting
  have bound := ttl.toNat_lt
  have one : (1 : UInt8).toNat = 1 := rfl
  have less : (ttl - 1).toNat = ttl.toNat - 1 := by
    rw [UInt8.toNat_sub, one]
    omega
  refine ⟨by omega, ?_⟩
  rw [UInt8.le_iff_toNat_le, less, one]
  omega

theorem transit_sent_sealed (cfg : Network) (len : Nat) (r : Routing) (long : 64 ≤ len) (short : len < 65000) :
    Sealed (transitSent cfg len r).frame := by
  obtain ⟨most, least⟩ := encapsulation_len_le cfg r.frame len r.finalDestAddr r.icmp r.error r.transmitter false
  exact encapsulation_sealed cfg r.frame len r.finalDestAddr r.icmp r.error r.transmitter false r.transmitter (by omega)
    (by omega)

section
variable (cfg : Network) (len : Nat) (r : Routing) (long : 64 ≤ len) (short : len < 65000) (noError : r.error = false)
variable (other : IpHeader.protocol r.frame ≠ 6) (mac : MacAddr) (hop : r.finalDestAddr = some mac)
include long short noError other hop

theorem transit_sent_source : FrameFields.srcAddr (ofList (transitSent cfg len r).frame) =
    (interfaceAt cfg r.transmitter).macAddr := by
  have same := load_octets_congr (ofList (transitSent cfg len r).frame) _ 6 6 fun k low high =>
    transit_sent_octet cfg len r long short noError other mac hop k (by omega) (by omega)
  rw [FrameFields.srcAddr, same]
  simp

theorem transit_sent_passed_on (m : Memory) (iface : Interface) (out : cfg.interfaceList[r.transmitter]? = some iface)
    (lasting : 2 ≤ IpHeader.ttl m) (one : r.frame = IpHeader.setTtl m (IpHeader.ttl m - 1)) :
    PassedOn m len iface mac (transitSent cfg len r).frame := by
  have octet := transit_sent_octet cfg len r long short noError other mac hop
  have forwarded := transit_sent_forwarded cfg len r long short noError other mac hop m one
  have whole := transit_sent_sealed cfg len r long short
  have hops := one_hop_less (IpHeader.ttl m) lasting
  have source := transit_sent_source cfg len r long short noError other mac hop
  rw [interface_at_get cfg _ iface out] at source
  rw [← forwarded.ttl] at hops
  refine ⟨forwarded.size, transit_sent_hop cfg len r long short noError other mac hop, source, hops.1, hops.2, whole.header,
    whole.checkSequence, ?_⟩
  intro k low high ttl first second
  rw [octet k (by omega) high, one]
  simp (disch := first | (simp; done) | (simp; omega))

end

section
variable (cfg : Network) (len : Nat) (m : Memory) (icmpCode : Nat) (draws : List UInt32) (table : Table)
variable (long : 64 ≤ len) (unicast : ∀ iface ∈ cfg.interfaceList, iface.macAddr ≠ broadcastAddr)
variable (transit : InTransit cfg m)
include long unicast transit

theorem in_transit_handled (receiver : Nat) (found : ethCmp cfg m = some receiver) (alive : IpHeader.ttl m ≠ 0) :
    interfaceReceiver cfg len m icmpCode draws table =
      ⟨table, [transitSent cfg len (packetRouting cfg m ⟨1, icmpCode⟩ receiver)], [], []⟩ := by
  obtain ⟨iface, member, addr⟩ := eth_cmp_mine cfg m receiver found
  have single : FrameFields.destAddr m ≠ broadcastAddr := by rw [← addr]; exact unicast iface member
  rw [interface_receiver_packet cfg len m icmpCode draws table receiver long single found transit.ipv4]
  exact handle_packet_routed cfg draws len m ⟨1, icmpCode⟩ receiver table (is_interface_none cfg _ transit.remote)
    transit.filled alive transit.other

end

theorem packet_passed_on (cfg : Network) (len : Nat) (m : Memory) (icmpCode : Nat) (draws : List UInt32) (table : Table)
    (long : 64 ≤ len) (short : len ≤ 1600) (inRange : ∀ row ∈ cfg.routingTable, row.interfaceId < cfg.interfaceList.length)
    (unicast : ∀ iface ∈ cfg.interfaceList, iface.macAddr ≠ broadcastAddr)
    (mine : ∃ iface ∈ cfg.interfaceList, iface.macAddr = FrameFields.destAddr m) (transit : InTransit cfg m)
    (lasting : 2 ≤ IpHeader.ttl m) (leads : ∃ row ∈ cfg.routingTable, Leads (IpHeader.destAddr m) row)
    (known : ∀ row, BestRoute cfg (IpHeader.destAddr m) row →
      ∃ entry ∈ cfg.arpCache, entry.ipAddr = nextHop row (IpHeader.destAddr m)) :
    ∃ row entry iface s, BestRoute cfg (IpHeader.destAddr m) row ∧
      ArpEntry cfg (nextHop row (IpHeader.destAddr m)) entry ∧ cfg.interfaceList[row.interfaceId]? = some iface ∧
      interfaceReceiver cfg len m icmpCode draws table = ⟨table, [s], [], []⟩ ∧ s.interface = row.interfaceId ∧
      PassedOn m len iface entry.macAddr s.frame := by
  obtain ⟨row, best⟩ := best_route_exists cfg _ leads
  obtain ⟨entry, last⟩ := ListSearch.is_last_exists _ cfg.arpCache (known row best)
  have place := inRange row (ListSearch.is_best_mem _ _ _ row best)
  have out : cfg.interfaceList[row.interfaceId]? = some cfg.interfaceList[row.interfaceId] := List.getElem?_eq_getElem place
  obtain ⟨receiver, found⟩ := eth_cmp_some cfg m mine
  have handled := in_transit_handled cfg len m icmpCode draws table long unicast transit receiver found
    (octet_ne _ 0 lasting (by decide))
  have routing := packet_routing_found cfg m ⟨1, icmpCode⟩ receiver (is_interface_none cfg _ transit.remote) row entry lasting
    best last
  rw [routing] at handled
  refine ⟨row, entry, _, _, best, last, out, handled, rfl, ?_⟩
  exact transit_sent_passed_on cfg len _ long (by omega) rfl (by simpa using transit.other) entry.macAddr rfl m _
    out lasting rfl

theorem relayed_in_transit : InTransit relayConfig (relayed 17) where
  ipv4 := by decide +kernel
  filled := by decide +kernel
  other := by decide +kernel
  remote := by decide +kernel

theorem relayed_known (row : TableR) (best : BestRoute relayConfig (IpHeader.destAddr (relayed 17)) row) :
    ∃ entry ∈ relayConfig.arpCache, entry.ipAddr = nextHop row (IpHeader.destAddr (relayed 17)) := by
  have only := List.mem_singleton.mp (ListSearch.is_best_mem _ _ _ row best)
  rw [only]
  decide +kernel

theorem packet_passed_on_udp : ∃ row entry iface s, BestRoute relayConfig (IpHeader.destAddr (relayed 17)) row ∧
    ArpEntry relayConfig (nextHop row (IpHeader.destAddr (relayed 17))) entry ∧
    relayConfig.interfaceList[row.interfaceId]? = some iface ∧
    interfaceReceiver relayConfig 64 (relayed 17) 0 [] zeroTable = ⟨zeroTable, [s], [], []⟩ ∧
    s.interface = row.interfaceId ∧ PassedOn (relayed 17) 64 iface entry.macAddr s.frame :=
  packet_passed_on relayConfig 64 (relayed 17) 0 [] zeroTable (by omega) (by omega) (by decide) (by decide)
    (by decide +kernel) relayed_in_transit (by decide +kernel) (by decide +kernel) relayed_known

end OsiStack
