import OsiStack.Router

set_option autoImplicit false

namespace OsiStack

open Octets

structure LongestMatch (cfg : Network) (ipAddr : IpAddr) (i : Nat) (row : TableR) : Prop where
  here : cfg.routingTable[i]? = some row
  leads : ipAnd ipAddr row.genmask = row.dest
  longest : ∀ (j : Nat) (other : TableR), cfg.routingTable[j]? = some other → ipAnd ipAddr other.genmask = other.dest →
    popcount other.genmask ≤ popcount row.genmask
  lowest : ∀ (j : Nat) (other : TableR), cfg.routingTable[j]? = some other → ipAnd ipAddr other.genmask = other.dest →
    popcount other.genmask = popcount row.genmask → i ≤ j

theorem octet_bits_zero (octet : UInt8) : (List.range 8).countP (fun bit => octet.toNat.testBit bit) = 0 ↔ octet = 0 := by
  rw [List.countP_eq_zero]
  constructor
  · intro clear
    refine UInt8.toNat_inj.mp (Nat.eq_of_testBit_eq fun bit => ?_)
    rw [show (0 : UInt8).toNat = 0 from rfl, Nat.zero_testBit]
    by_cases low : bit < 8
    · simpa using clear bit (List.mem_range.mpr low)
    · exact Nat.testBit_lt_two_pow (Nat.lt_of_lt_of_le octet.toNat_lt (Nat.pow_le_pow_right (by omega) (by omega)))
  · rintro rfl bit -
    simp

theorem popcount_zero (mask : IpAddr) : popcount mask = 0 ↔ ∀ octet ∈ mask.val, octet = 0 := by
  rw [popcount, List.sum_eq_zero_iff_forall_eq_nat]
  simp only [List.mem_map, forall_exists_index, and_imp, forall_apply_eq_imp_iff₂, octet_bits_zero]

section
variable (cfg : Network) (ipAddr : IpAddr)

theorem longest_match_unique (i j : Nat) (row other : TableR) (first : LongestMatch cfg ipAddr i row)
    (second : LongestMatch cfg ipAddr j other) : i = j := by
  have most := first.longest j other second.here second.leads
  have least := second.longest i row first.here first.leads
  have before := first.lowest j other second.here second.leads (by omega)
  have behind := second.lowest i row first.here first.leads (by omega)
  omega

theorem route_lookup_longest (leads : ∃ row ∈ cfg.routingTable, Leads ipAddr row) :
    ∃ i row, routeLookup cfg ipAddr = some i ∧ LongestMatch cfg ipAddr i row := by
  obtain ⟨row, best⟩ := best_route_exists cfg ipAddr leads
  obtain ⟨i, found, place⟩ := ListSearch.scan_is_best (Leads ipAddr) _ cfg.routingTable 0 ⟨none, -1⟩ row (by decide) best
  rw [Nat.zero_add] at found
  refine ⟨i, row, ?_, ⟨place.here, place.holds, place.heaviest, place.first⟩⟩
  rw [routeLookup, route_loop_refines, found]

theorem route_lookup_some (i : Nat) : routeLookup cfg ipAddr = some i ↔ ∃ row, LongestMatch cfg ipAddr i row := by
  constructor
  · intro found
    have leads : ∃ row ∈ cfg.routingTable, Leads ipAddr row := by
      by_contra misses
      push Not at misses
      rw [route_lookup_none cfg ipAddr misses] at found
      cases found
    obtain ⟨j, row, here, longest⟩ := route_lookup_longest cfg ipAddr leads
    rw [found, Option.some.injEq] at here
    exact ⟨row, by rw [here]; exact longest⟩
  · rintro ⟨row, longest⟩
    have leads : ∃ row ∈ cfg.routingTable, Leads ipAddr row := ⟨row, List.mem_of_getElem? longest.here, longest.leads⟩
    obtain ⟨j, other, found, second⟩ := route_lookup_longest cfg ipAddr leads
    rw [longest_match_unique cfg ipAddr i j row other longest second, found]

theorem route_lookup_is_some : (routeLookup cfg ipAddr).isSome ↔ ∃ row ∈ cfg.routingTable, Leads ipAddr row := by
  constructor
  · intro found
    obtain ⟨i, here⟩ := Option.isSome_iff_exists.mp found
    obtain ⟨row, longest⟩ := (route_lookup_some cfg ipAddr i).mp here
    exact ⟨row, List.mem_of_getElem? longest.here, longest.leads⟩
  · intro leads
    obtain ⟨i, row, found, -⟩ := route_lookup_longest cfg ipAddr leads
    rw [found]
    rfl

end

theorem longest_match_default (cfg : Network) (ipAddr : IpAddr) (i : Nat) (row : TableR)
    (longest : LongestMatch cfg ipAddr i row)
    (default : row.genmask.val = [0, 0, 0, 0]) (other : TableR) (member : other ∈ cfg.routingTable)
    (leads : ipAnd ipAddr other.genmask = other.dest) : other.genmask.val = [0, 0, 0, 0] := by
  have clear : popcount row.genmask = 0 := by
    rw [popcount_zero, default]
    simp
  obtain ⟨j, here⟩ := List.mem_iff_getElem?.mp member
  have most := longest.longest j other here leads
  have zero := (popcount_zero other.genmask).mp (by omega)
  rw [List.eq_replicate_of_mem zero, other.genmask.property]
  rfl

def routedBy (cfg : Network) (m : Memory) (icmp : Icmp) (receiver : Nat) (row : TableR) : Routing :=
  match arpLookup cfg (nextHop row (IpHeader.destAddr m)) with
  | none => ⟨m, true, ⟨3, 1⟩, receiver, none⟩
  | some mac => ⟨IpHeader.setTtl m (IpHeader.ttl m - 1), false, icmp, row.interfaceId, some mac⟩

theorem routed_by_reachable (cfg : Network) (m : Memory) (icmp : Icmp) (receiver : Nat) (row : TableR) :
    ¬ ((routedBy cfg m icmp receiver row).error = true ∧ (routedBy cfg m icmp receiver row).icmp = ⟨3, 0⟩) := by
  unfold routedBy
  split
  · simp
  · simp

section
variable (cfg : Network) (m : Memory) (icmp : Icmp) (receiver : Nat) (transit : isInterface cfg (IpHeader.destAddr m) = none)
variable (lasting : 2 ≤ IpHeader.ttl m)
include transit lasting

theorem packet_routing_longest (i : Nat) (row : TableR) (longest : LongestMatch cfg (IpHeader.destAddr m) i row) :
    packetRouting cfg m icmp receiver = routedBy cfg m icmp receiver row := by
  have found := (route_lookup_some cfg (IpHeader.destAddr m) i).mpr ⟨row, longest⟩
  have one := octet_ne _ 1 lasting (by decide)
  simp only [packetRouting, transit, one, decide_false, Option.isSome_none, Bool.false_eq_true, if_false, routePacket, found,
    longest.here]
  rfl

theorem packet_routing_unreachable :
    (packetRouting cfg m icmp receiver).error = true ∧ (packetRouting cfg m icmp receiver).icmp = ⟨3, 0⟩ ↔
      ∀ row ∈ cfg.routingTable, ipAnd (IpHeader.destAddr m) row.genmask ≠ row.dest := by
  constructor
  · intro unreachable row member leads
    obtain ⟨i, best, -, longest⟩ := route_lookup_longest cfg (IpHeader.destAddr m) ⟨row, member, leads⟩
    rw [packet_routing_longest cfg m icmp receiver transit lasting i best longest] at unreachable
    exact routed_by_reachable cfg m icmp receiver best unreachable
  · intro misses
    rw [packet_routing_undeliverable cfg m icmp receiver transit 3 0 (.noRoute lasting misses)]
    exact ⟨rfl, rfl⟩

end

theorem route_lookup_longest_prefix (cfg : Network) (ipAddr : IpAddr) :
    (∀ i, routeLookup cfg ipAddr = some i ↔ ∃ row, LongestMatch cfg ipAddr i row) ∧
      ((routeLookup cfg ipAddr).isSome ↔ ∃ row ∈ cfg.routingTable, ipAnd ipAddr row.genmask = row.dest) ∧
      (∀ i row, LongestMatch cfg ipAddr i row → row.genmask.val = [0, 0, 0, 0] →
        ∀ other ∈ cfg.routingTable, ipAnd ipAddr other.genmask = other.dest → other.genmask.val = [0, 0, 0, 0]) ∧
      ∀ m icmp receiver, IpHeader.destAddr m = ipAddr → isInterface cfg ipAddr = none → 2 ≤ IpHeader.ttl m →
        (∀ i row, LongestMatch cfg ipAddr i row → packetRouting cfg m icmp receiver = routedBy cfg m icmp receiver row) ∧
          ((packetRouting cfg m icmp receiver).error = true ∧ (packetRouting cfg m icmp receiver).icmp = ⟨3, 0⟩ ↔
            ∀ row ∈ cfg.routingTable, ipAnd ipAddr row.genmask ≠ row.dest) := by
  refine ⟨route_lookup_some cfg ipAddr, route_lookup_is_some cfg ipAddr, longest_match_default cfg ipAddr, ?_⟩
  rintro m icmp receiver rfl transit lasting
  exact ⟨packet_routing_longest cfg m icmp receiver transit lasting,
    packet_routing_unreachable cfg m icmp receiver transit lasting⟩

theorem route_lookup_relayed : routeLookup relayConfig (ipOctets 10 0 0 2) = some 0 ∧
    packetRouting relayConfig (relayed 17) ⟨1, 0⟩ 0 = routedBy relayConfig (relayed 17) ⟨1, 0⟩ 0
      ⟨ipOctets 10 0 0 0, ipOctets 0 0 0 0, ipOctets 255 0 0 0, 0⟩ := by
  obtain ⟨selected, -, -, routed⟩ := route_lookup_longest_prefix relayConfig (ipOctets 10 0 0 2)
  have found : routeLookup relayConfig (ipOctets 10 0 0 2) = some 0 := by decide +kernel
  obtain ⟨row, longest⟩ := (selected 0).mp found
  have only : relayConfig.routingTable[0]? = some ⟨ipOctets 10 0 0 0, ipOctets 0 0 0 0, ipOctets 255 0 0 0, 0⟩ := rfl
  rw [longest.here, Option.some.injEq] at only
  rw [only] at longest
  exact ⟨found, (routed (relayed 17) ⟨1, 0⟩ 0 (by decide +kernel) (by decide +kernel) (by decide +kernel)).1 0 _ longest⟩

end OsiStack
