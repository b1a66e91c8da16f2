import OsiStack.ListSearch
import OsiStack.Receiver

set_option autoImplicit false

namespace OsiStack

open Octets

def Leads (ipAddr : IpAddr) (row : TableR) : Prop := ipAnd ipAddr row.genmask = row.dest

instance (ipAddr : IpAddr) : DecidablePred (Leads ipAddr) := fun row =>
  inferInstanceAs (Decidable (ipAnd ipAddr row.genmask = row.dest))

abbrev BestRoute (cfg : Network) (ipAddr : IpAddr) (row : TableR) : Prop :=
  ListSearch.IsBest (Leads ipAddr) (fun row => popcount row.genmask) cfg.routingTable row

abbrev ArpEntry (cfg : Network) (ipAddr : IpAddr) (entry : ArpCache) : Prop :=
  ListSearch.IsLast (fun entry => entry.ipAddr = ipAddr) cfg.arpCache entry

def nextHop (row : TableR) (ipAddr : IpAddr) : IpAddr := if row.gateway.val = [0, 0, 0, 0] then ipAddr else row.gateway

theorem route_loop_refines (ipAddr : IpAddr) (rows : List TableR) (i : Nat) (best : PrefixSearch) :
    let found := ListSearch.scan (Leads ipAddr) (fun row => popcount row.genmask) rows i ⟨best.index, best.length⟩
    routeLoop ipAddr rows i best = ⟨found.index, found.weight⟩ := by
  induction rows generalizing i best with
  | nil => rfl
  | cons row rest ih =>
      by_cases heavier : Leads ipAddr row ∧ best.length < (popcount row.genmask : Int)
      · have better : ipAnd ipAddr row.genmask = row.dest ∧ best.length < (popcount row.genmask : Int) := heavier
        simp only [routeLoop, ListSearch.scan, if_pos heavier, if_pos better]
        exact ih (i + 1) ⟨some i, popcount row.genmask⟩
      · have kept : ¬ (ipAnd ipAddr row.genmask = row.dest ∧ best.length < (popcount row.genmask : Int)) := heavier
        simp only [routeLoop, ListSearch.scan, if_neg heavier, if_neg kept]
        exact ih (i + 1) best

section
variable (cfg : Network) (ipAddr : IpAddr)

theorem route_lookup_best (row : TableR) (best : BestRoute cfg ipAddr row) :
    ∃ i, routeLookup cfg ipAddr = some i ∧ cfg.routingTable[i]? = some row := by
  obtain ⟨k, found, place⟩ := ListSearch.scan_is_best (Leads ipAddr) _ cfg.routingTable 0 ⟨none, -1⟩ row (by decide) best
  refine ⟨0 + k, ?_, by rw [Nat.zero_add]; exact place.here⟩
  rw [routeLookup, route_loop_refines, found]

theorem route_lookup_none (misses : ∀ row ∈ cfg.routingTable, ¬ Leads ipAddr row) : routeLookup cfg ipAddr = none := by
  rw [routeLookup, route_loop_refines, ListSearch.scan_none _ _ _ _ _ misses]

theorem best_route_exists (leads : ∃ row ∈ cfg.routingTable, Leads ipAddr row) : ∃ row, BestRoute cfg ipAddr row :=
  ListSearch.is_best_exists (Leads ipAddr) _ cfg.routingTable leads

theorem arp_lookup_entry (entry : ArpCache) (last : ArpEntry cfg ipAddr entry) : arpLookup cfg ipAddr = some entry.macAddr :=
  ListSearch.last_match_is_last _ ArpCache.macAddr cfg.arpCache none entry last

theorem arp_lookup_none (misses : ∀ entry ∈ cfg.arpCache, entry.ipAddr ≠ ipAddr) : arpLookup cfg ipAddr = none :=
  ListSearch.last_match_none (fun entry : ArpCache => entry.ipAddr = ipAddr) ArpCache.macAddr cfg.arpCache none misses

theorem is_interface_none (remote : ∀ iface ∈ cfg.interfaceList, iface.ipAddr ≠ ipAddr) : isInterface cfg ipAddr = none :=
  (ListSearch.find_idx_none (fun iface : Interface => iface.ipAddr = ipAddr) cfg.interfaceList).mpr remote

end

theorem interface_at_get (cfg : Network) (i : Nat) (iface : Interface) (here : cfg.interfaceList[i]? = some iface) :
    interfaceAt cfg i = iface := by
  rw [interfaceAt, List.getD, here, Option.getD_some]

theorem eth_cmp_some (cfg : Network) (m : Memory) (mine : ∃ iface ∈ cfg.interfaceList,
    iface.macAddr = FrameFields.destAddr m) :
    ∃ receiver, ethCmp cfg m = some receiver := by
  rw [← Option.isSome_iff_exists, ethCmp, List.findIdx?_isSome, List.any_eq_true]
  obtain ⟨iface, member, addr⟩ := mine
  exact ⟨iface, member, by simpa using addr⟩

theorem eth_cmp_mine (cfg : Network) (m : Memory) (receiver : Nat) (found : ethCmp cfg m = some receiver) :
    ∃ iface ∈ cfg.interfaceList, iface.macAddr = FrameFields.destAddr m := by
  have here : (ethCmp cfg m).isSome := by rw [found]; rfl
  rw [ethCmp, List.findIdx?_isSome, List.any_eq_true] at here
  simpa using here

theorem eth_cmp_distinct (cfg : Network) (m : Memory) (i : Nat) (iface : Interface)
    (here : cfg.interfaceList[i]? = some iface) (mine : iface.macAddr = FrameFields.destAddr m)
    (distinct : cfg.interfaceList.Pairwise fun a b => a.macAddr ≠ b.macAddr) : ethCmp cfg m = some i := by
  rw [ethCmp, ← mine]
  exact ListSearch.find_idx_distinct Interface.macAddr cfg.interfaceList i iface here distinct

section
variable (cfg : Network) (m : Memory) (icmp : Icmp) (receiver : Nat)

theorem route_packet_found (row : TableR) (entry : ArpCache) (best : BestRoute cfg (IpHeader.destAddr m) row)
    (known : ArpEntry cfg (nextHop row (IpHeader.destAddr m)) entry) : routePacket cfg m icmp receiver =
      ⟨IpHeader.setTtl m (IpHeader.ttl m - 1), false, icmp, row.interfaceId, some entry.macAddr⟩ := by
  obtain ⟨i, found, here⟩ := route_lookup_best cfg _ row best
  have mac := arp_lookup_entry cfg _ entry known
  rw [nextHop] at mac
  simp only [routePacket, found, here, mac]

theorem route_packet_no_route (misses : ∀ row ∈ cfg.routingTable, ¬ Leads (IpHeader.destAddr m) row) :
    routePacket cfg m icmp receiver = ⟨m, true, ⟨3, 0⟩, receiver, none⟩ := by
  rw [routePacket, route_lookup_none cfg _ misses]

theorem route_packet_no_arp (row : TableR) (best : BestRoute cfg (IpHeader.destAddr m) row)
    (misses : ∀ entry ∈ cfg.arpCache, entry.ipAddr ≠ nextHop row (IpHeader.destAddr m)) :
    routePacket cfg m icmp receiver = ⟨m, true, ⟨3, 1⟩, receiver, none⟩ := by
  obtain ⟨i, found, here⟩ := route_lookup_best cfg _ row best
  have mac := arp_lookup_none cfg _ misses
  rw [nextHop] at mac
  simp only [routePacket, found, here, mac]

end

inductive Undeliverable (cfg : Network) (m : Memory) : Nat → Nat → Prop
  | expired (last : IpHeader.ttl m = 1) : Undeliverable cfg m 11 0
  | noRoute (alive : 2 ≤ IpHeader.ttl m) (misses : ∀ row ∈ cfg.routingTable, ¬ Leads (IpHeader.destAddr m) row) :
      Undeliverable cfg m 3 0
  | noArp (row : TableR) (alive : 2 ≤ IpHeader.ttl m) (best : BestRoute cfg (IpHeader.destAddr m) row)
      (misses : ∀ entry ∈ cfg.arpCache, entry.ipAddr ≠ nextHop row (IpHeader.destAddr m)) : Undeliverable cfg m 3 1

theorem undeliverable_alive (cfg : Network) (m : Memory) (type code : Nat) (why : Undeliverable cfg m type code) :
    IpHeader.ttl m ≠ 0 := by
  cases why with
  | expired last => rw [last]; decide
  | noRoute alive _ => exact octet_ne _ 0 alive (by decide)
  | noArp _ alive _ _ => exact octet_ne _ 0 alive (by decide)

theorem undeliverable_octets (cfg : Network) (m : Memory) (type code : Nat) (why : Undeliverable cfg m type code) :
    type < 256 ∧ code < 256 := by
  cases why with
  | expired => decide
  | noRoute => decide
  | noArp => decide

section
variable (cfg : Network) (m : Memory) (icmp : Icmp) (receiver : Nat) (transit : isInterface cfg (IpHeader.destAddr m) = none)
include transit

theorem packet_routing_found (row : TableR) (entry : ArpCache) (lasting : 2 ≤ IpHeader.ttl m)
    (best : BestRoute cfg (IpHeader.destAddr m) row) (known : ArpEntry cfg (nextHop row (IpHeader.destAddr m)) entry) :
    packetRouting cfg m icmp receiver =
      ⟨IpHeader.setTtl m (IpHeader.ttl m - 1), false, icmp, row.interfaceId, some entry.macAddr⟩ := by
  have one := octet_ne _ 1 lasting (by decide)
  simp [packetRouting, transit, one, route_packet_found cfg m icmp receiver row entry best known]

theorem packet_routing_undeliverable (type code : Nat) (why : Undeliverable cfg m type code) :
    packetRouting cfg m icmp receiver = ⟨m, true, ⟨type, code⟩, receiver, none⟩ := by
  cases why with
  | expired last => simp [packetRouting, transit, last]
  | noRoute alive misses =>
      have one := octet_ne _ 1 alive (by decide)
      simp [packetRouting, transit, one, route_packet_no_route cfg m icmp receiver misses]
  | noArp row alive best misses =>
      have one := octet_ne _ 1 alive (by decide)
      simp [packetRouting, transit, one, route_packet_no_arp cfg m icmp receiver row best misses]

end

def Remote (cfg : Network) (m : Memory) : Prop := ∀ iface ∈ cfg.interfaceList, iface.ipAddr ≠ IpHeader.destAddr m

theorem remote_iff (cfg : Network) (m : Memory) : Remote cfg m ↔ isInterface cfg (IpHeader.destAddr m) = none :=
  (ListSearch.find_idx_none (fun iface : Interface => iface.ipAddr = IpHeader.destAddr m) cfg.interfaceList).symm

-- An ICMP error is due: to a local packet as well once its TTL is used up.
def ErrorPending (cfg : Network) (m : Memory) : Prop :=
  IpHeader.ttl m = 1 ∨ Remote cfg m ∧ ∃ type code, Undeliverable cfg m type code

section
variable (cfg : Network) (m : Memory) (icmp : Icmp) (receiver : Nat)

theorem packet_routing_local (here : ¬ Remote cfg m) :
    (packetRouting cfg m icmp receiver).error = decide (IpHeader.ttl m = 1) ∧
    (packetRouting cfg m icmp receiver).transmitter = receiver := by
  rw [remote_iff, ← ne_eq, Option.ne_none_iff_isSome] at here
  simp [packetRouting, here]

theorem packet_routing_error (pending : ErrorPending cfg m) : (packetRouting cfg m icmp receiver).error = true ∧
    (packetRouting cfg m icmp receiver).transmitter = receiver := by
  by_cases remote : Remote cfg m
  · have why : ∃ type code, Undeliverable cfg m type code := by
      rcases pending with last | ⟨-, why⟩
      · exact ⟨11, 0, .expired last⟩
      · exact why
    obtain ⟨type, code, why⟩ := why
    rw [packet_routing_undeliverable cfg m icmp receiver ((remote_iff cfg m).mp remote) type code why]
    exact ⟨rfl, rfl⟩
  · have last : IpHeader.ttl m = 1 := pending.resolve_right fun due => remote due.1
    have stays := packet_routing_local cfg m icmp receiver remote
    exact ⟨stays.1.trans (decide_eq_true last), stays.2⟩

theorem packet_routing_onward (remote : Remote cfg m) (alive : IpHeader.ttl m ≠ 0) (free : ¬ ErrorPending cfg m) :
    (∃ row, BestRoute cfg (IpHeader.destAddr m) row) ∧ ∀ row, BestRoute cfg (IpHeader.destAddr m) row →
      (packetRouting cfg m icmp receiver).error = false ∧
        (packetRouting cfg m icmp receiver).transmitter = row.interfaceId := by
  have lasting := octet_two_le _ alive fun last => free (Or.inl last)
  have deliverable (type code : Nat) (why : Undeliverable cfg m type code) : False := free (Or.inr ⟨remote, type, code, why⟩)
  constructor
  · apply best_route_exists
    by_contra misses
    exact deliverable 3 0 (.noRoute lasting fun row member leads => misses ⟨row, member, leads⟩)
  · intro row best
    have known : ∃ entry ∈ cfg.arpCache, entry.ipAddr = nextHop row (IpHeader.destAddr m) := by
      by_contra misses
      exact deliverable 3 1 (.noArp row lasting best fun entry member same => misses ⟨entry, member, same⟩)
    obtain ⟨entry, last⟩ := ListSearch.is_last_exists _ cfg.arpCache known
    rw [packet_routing_found cfg m icmp receiver ((remote_iff cfg m).mp remote) row entry lasting best last]
    exact ⟨rfl, rfl⟩

theorem packet_routing_no_error (alive : IpHeader.ttl m ≠ 0) (free : ¬ ErrorPending cfg m) :
    (packetRouting cfg m icmp receiver).error = false := by
  by_cases remote : Remote cfg m
  · obtain ⟨⟨row, best⟩, onward⟩ := packet_routing_onward cfg m icmp receiver remote alive free
    exact (onward row best).1
  · rw [(packet_routing_local cfg m icmp receiver remote).1, decide_eq_false_iff_not]
    exact fun last => free (Or.inl last)

end

end OsiStack
