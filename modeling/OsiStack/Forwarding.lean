import OsiStack.Dispatch

set_option autoImplicit false

namespace OsiStack

open Octets

structure Forwarded (m : Memory) (len : Nat) (s : Sent) : Prop where
  size : s.frame.length = len
  ttl : IpHeader.ttl (ofList s.frame) = IpHeader.ttl m - 1
  protocol : IpHeader.protocol (ofList s.frame) = IpHeader.protocol m

structure IcmpError (m : Memory) (type code : UInt8) (s : Sent) : Prop where
  protocol : IpHeader.protocol (ofList s.frame) = 1
  destAddr : IpHeader.destAddr (ofList s.frame) = IpHeader.srcAddr m
  type : ofList s.frame 34 = type
  code : ofList s.frame 35 = code

-- The octets that the two frames share: all but the protocol, the IP checksum
-- and the transport and frame checksums, wherever those are.
def Shared (covered : Nat → Prop) (k : Nat) : Prop := k ≠ 23 ∧ k ≠ 24 ∧ k ≠ 25 ∧ ¬ covered k

inductive SameFate (covered : Nat → Prop) (m m' : Memory) (len : Nat) : List Sent → List Sent → Prop
  | forwarded (s s' : Sent) (first : Forwarded m len s) (second : Forwarded m' len s')
      (interface : s.interface = s'.interface)
      (hop : FrameFields.destAddr (ofList s.frame) = FrameFields.destAddr (ofList s'.frame))
      (others : ∀ k, k < len - 4 → Shared covered k → ofList s.frame k = ofList s'.frame k) :
      SameFate covered m m' len [s] [s']
  | refused (type code : UInt8) (s s' : Sent) (first : IcmpError m type code s) (second : IcmpError m' type code s') :
      SameFate covered m m' len [s] [s']
  | dropped : SameFate covered m m' len [] []

theorem store_pointwise (m m' : Memory) (off k : Nat) (bytes : List UInt8) (same : m k = m' k) :
    store m off bytes k = store m' off bytes k := by
  rw [store, store, same]

theorem route_packet_congr (cfg : Network) (m m' : Memory) (icmp icmp' : Icmp) (receiver : Nat)
    (dest : IpHeader.destAddr m = IpHeader.destAddr m') :
    let r := routePacket cfg m icmp receiver
    let r' := routePacket cfg m' icmp' receiver
    r.error = r'.error ∧ (r.error = true → r.icmp = r'.icmp) ∧ r.transmitter = r'.transmitter ∧
      r.finalDestAddr = r'.finalDestAddr := by
  simp only [routePacket, dest]
  split
  · exact ⟨rfl, fun _ => rfl, rfl, rfl⟩
  · split
    · exact ⟨rfl, fun _ => rfl, rfl, rfl⟩
    · split
      · exact ⟨rfl, fun _ => rfl, rfl, rfl⟩
      · exact ⟨rfl, nofun, rfl, rfl⟩

theorem packet_routing_congr (cfg : Network) (m m' : Memory) (icmp icmp' : Icmp) (receiver : Nat)
    (dest : IpHeader.destAddr m = IpHeader.destAddr m') (ttl : IpHeader.ttl m = IpHeader.ttl m')
    (transit : isInterface cfg (IpHeader.destAddr m) = none) :
    let r := packetRouting cfg m icmp receiver
    let r' := packetRouting cfg m' icmp' receiver
    r.error = r'.error ∧ (r.error = true → r.icmp = r'.icmp) ∧ r.transmitter = r'.transmitter ∧
      r.finalDestAddr = r'.finalDestAddr := by
  have transit' : isInterface cfg (IpHeader.destAddr m') = none := by rw [← dest]; exact transit
  simp only [packetRouting, transit, transit', ttl]
  by_cases expired : IpHeader.ttl m' = 1
  · simp [expired]
  · simpa [expired] using route_packet_congr cfg m m' icmp icmp' receiver dest

theorem route_packet_cases (cfg : Network) (m : Memory) (icmp : Icmp) (receiver : Nat) :
    let r := routePacket cfg m icmp receiver
    r.error = true ∧ r.frame = m ∨
      r.error = false ∧ r.frame = IpHeader.setTtl m (IpHeader.ttl m - 1) ∧ ∃ mac, r.finalDestAddr = some mac := by
  simp only [routePacket]
  split
  · exact Or.inl ⟨rfl, rfl⟩
  · split
    · exact Or.inl ⟨rfl, rfl⟩
    · split
      · exact Or.inl ⟨rfl, rfl⟩
      · exact Or.inr ⟨rfl, rfl, _, rfl⟩

theorem packet_routing_cases (cfg : Network) (m : Memory) (icmp : Icmp) (receiver : Nat)
    (transit : isInterface cfg (IpHeader.destAddr m) = none) :
    let r := packetRouting cfg m icmp receiver
    r.error = true ∧ r.frame = m ∨
      r.error = false ∧ r.frame = IpHeader.setTtl m (IpHeader.ttl m - 1) ∧ ∃ mac, r.finalDestAddr = some mac := by
  simp only [packetRouting, transit]
  by_cases expired : IpHeader.ttl m = 1
  · simp [expired]
  · simpa [expired] using route_packet_cases cfg m icmp receiver

theorem handle_icmp_head (cfg : Network) (m : Memory) (icmp : Icmp) (transmitter : Nat) :
    handleIcmp cfg m icmp transmitter 34 = UInt8.ofNat icmp.type ∧
      handleIcmp cfg m icmp transmitter 35 = UInt8.ofNat icmp.code := by
  constructor <;> simp [handleIcmp, icmpMessage, store]

def transitSent (cfg : Network) (len : Nat) (r : Routing) : Sent :=
  let out := encapsulation cfg r.frame len r.finalDestAddr r.icmp r.error r.transmitter false
  sendEthernetFrame r.transmitter out.frame out.len

section
variable (cfg : Network) (len : Nat) (r : Routing)

theorem transit_sent_error_octet (error : r.error = true) (k : Nat) (apart : k < 24 ∨ 26 ≤ k) (inside : k < 70) :
    ofList (transitSent cfg len r).frame k =
      handleIcmp cfg (turnedBack cfg r.frame r.transmitter) r.icmp r.transmitter k := by
  have size := encapsulation_error_len cfg r.frame len r.finalDestAddr r.icmp r.transmitter false
  simp only [transitSent, error]
  rw [sent_octet _ _ _ k (by omega) (by omega)]
  exact encapsulation_error_octet cfg r.frame len r.finalDestAddr r.icmp r.transmitter false k apart inside

theorem transit_sent_error (error : r.error = true) :
    IcmpError r.frame (UInt8.ofNat r.icmp.type) (UInt8.ofNat r.icmp.code) (transitSent cfg len r) := by
  have octet := transit_sent_error_octet cfg len r error
  obtain ⟨type, code⟩ := handle_icmp_head cfg (turnedBack cfg r.frame r.transmitter) r.icmp r.transmitter
  refine ⟨?_, ?_, ?_, ?_⟩
  · exact (octet 23 (by omega) (by omega)).trans (handle_icmp_protocol cfg _ r.icmp r.transmitter)
  · rw [← turned_back_src_addr cfg r.frame r.transmitter, ← handle_icmp_dest_addr cfg _ r.icmp r.transmitter]
    exact load_octets_congr _ _ 30 4 fun k low high => octet k (by omega) (by omega)
  · exact (octet 34 (by omega) (by omega)).trans type
  · exact (octet 35 (by omega) (by omega)).trans code

variable (long : 64 ≤ len) (short : len < 65000) (noError : r.error = false)
variable (other : IpHeader.protocol r.frame ≠ 6) (mac : MacAddr) (hop : r.finalDestAddr = some mac)
include noError other

theorem transit_sent_len : (encapsulation cfg r.frame len r.finalDestAddr r.icmp r.error r.transmitter false).len = len := by
  rw [noError, encapsulation_len, if_neg (fun both => other both.1)]

include long short

theorem transit_sent_length : (transitSent cfg len r).frame.length = len := by
  have size := transit_sent_len cfg len r noError other
  rw [transitSent, sent_length _ _ _ (by omega), size]

include hop

theorem transit_sent_octet (k : Nat) (apart : k < 24 ∨ 26 ≤ k) (inside : k < len - 4) :
    ofList (transitSent cfg len r).frame k =
      FrameFields.setDestAddr (FrameFields.setSrcAddr r.frame (interfaceAt cfg r.transmitter).macAddr) mac k := by
  have size := transit_sent_len cfg len r noError other
  rw [transitSent, sent_octet _ _ _ k (by omega) (by omega)]
  simp only [noError, encapsulation, Bool.false_eq_true, if_false] at size ⊢
  rw [seal_frame_octet _ len false k apart (by omega)]
  simp only [linkHeader, Bool.false_eq_true, if_false, if_neg other, hop]

theorem transit_sent_hop : FrameFields.destAddr (ofList (transitSent cfg len r).frame) = mac := by
  have same := load_octets_congr (ofList (transitSent cfg len r).frame) _ 0 6 fun k low high =>
    transit_sent_octet cfg len r long short noError other mac hop k (by omega) (by omega)
  rw [FrameFields.destAddr, same]
  simp

theorem transit_sent_forwarded (m : Memory) (one : r.frame = IpHeader.setTtl m (IpHeader.ttl m - 1)) :
    Forwarded m len (transitSent cfg len r) := by
  have octet := transit_sent_octet cfg len r long short noError other mac hop
  refine ⟨transit_sent_length cfg len r long short noError other, ?_, ?_⟩
  · rw [IpHeader.ttl, octet 22 (by omega) (by omega), one]
    simp
  · rw [IpHeader.protocol, octet 23 (by omega) (by omega), one]
    simp

end

section
variable (cfg : Network) (draws : List UInt32) (len : Nat) (m : Memory) (icmp : Icmp) (receiver : Nat) (table : Table)
variable (transit : isInterface cfg (IpHeader.destAddr m) = none)

theorem handle_packet_dropped (drop : ¬ 20 < (ntohs (IpHeader.totalLength m)).toNat ∨ IpHeader.ttl m = 0) :
    (handlePacket cfg draws len m icmp receiver table).sent = [] := by
  unfold handlePacket
  split
  · rfl
  · rename_i filled
    rw [if_pos (drop.resolve_left filled)]
    rfl

include transit

theorem handle_packet_routed (filled : 20 < (ntohs (IpHeader.totalLength m)).toNat) (alive : IpHeader.ttl m ≠ 0)
    (other : IpHeader.protocol m ≠ 6) : handlePacket cfg draws len m icmp receiver table =
      ⟨table, [transitSent cfg len (packetRouting cfg m icmp receiver)], [], []⟩ := by
  have protocol : IpHeader.protocol (packetRouting cfg m icmp receiver).frame = IpHeader.protocol m :=
    packet_routing_octet cfg m icmp receiver 23 (by omega)
  simp [handlePacket, filled, alive, transit, protocol, other, transitSent]

theorem handle_packet_transit (filled : 20 < (ntohs (IpHeader.totalLength m)).toNat) (alive : IpHeader.ttl m ≠ 0)
    (other : IpHeader.protocol m ≠ 6) : (handlePacket cfg draws len m icmp receiver table).sent =
      [transitSent cfg len (packetRouting cfg m icmp receiver)] := by
  rw [handle_packet_routed cfg draws len m icmp receiver table transit filled alive other]

end

theorem handle_packet_transit_tcp (cfg : Config) (draws : List UInt32) (len : Nat) (m : Memory) (icmp : Icmp)
    (receiver : Nat) (table : Table) (transit : isInterface cfg (IpHeader.destAddr m) = none)
    (tcp : IpHeader.protocol m = 6) : (handlePacket cfg draws len m icmp receiver table).sent = [] := by
  have remote : IpHeader.destAddr m ≠ tcpIp := by
    intro here
    have found := tcp_ip_interface cfg
    rw [← here, transit] at found
    cases found
  exact (handle_packet_foreign cfg draws len m icmp receiver table tcp remote).2.1

theorem transit_same_fate (cfg : Network) (len : Nat) (long : 64 ≤ len) (short : len < 65000) (covered : Nat → Prop)
    (m m' : Memory) (alike : ∀ k, Shared covered k → m k = m' k) (r r' : Routing)
    (error : r.error = r'.error) (icmp : r.error = true → r.icmp = r'.icmp) (transmitter : r.transmitter = r'.transmitter)
    (hop : r.finalDestAddr = r'.finalDestAddr) (other : IpHeader.protocol r.frame ≠ 6)
    (other' : IpHeader.protocol r'.frame ≠ 6)
    (ttl : IpHeader.ttl m = IpHeader.ttl m')
    (cases : r.error = true ∧ r.frame = m ∨
      r.error = false ∧ r.frame = IpHeader.setTtl m (IpHeader.ttl m - 1) ∧ ∃ mac, r.finalDestAddr = some mac)
    (cases' : r'.error = true ∧ r'.frame = m' ∨
      r'.error = false ∧ r'.frame = IpHeader.setTtl m' (IpHeader.ttl m' - 1) ∧ ∃ mac, r'.finalDestAddr = some mac) :
    SameFate covered m m' len [transitSent cfg len r] [transitSent cfg len r'] := by
  rcases cases with ⟨bad, same⟩ | ⟨good, one, mac, next⟩
  · rcases cases' with ⟨bad', same'⟩ | ⟨good', -⟩
    · have first := transit_sent_error cfg len r bad
      have second := transit_sent_error cfg len r' bad'
      rw [← icmp bad] at second
      rw [same] at first
      rw [same'] at second
      exact .refused _ _ _ _ first second
    · rw [bad, good'] at error
      cases error
  · rcases cases' with ⟨bad', -⟩ | ⟨good', one', mac', next'⟩
    · rw [good, bad'] at error
      cases error
    · have sameMac : mac = mac' := by
        rw [next, next'] at hop
        exact Option.some.inj hop
      subst sameMac
      refine .forwarded _ _ (transit_sent_forwarded cfg len r long short good other mac next m one)
        (transit_sent_forwarded cfg len r' long short good' other' mac next' m' one') transmitter ?_ ?_
      · rw [transit_sent_hop cfg len r long short good other mac next,
          transit_sent_hop cfg len r' long short good' other' mac next']
      · intro k inside shared
        have notHigh := shared.2.1
        have notLow := shared.2.2.1
        rw [transit_sent_octet cfg len r long short good other mac next k (by omega) inside,
          transit_sent_octet cfg len r' long short good' other' mac next' k (by omega) inside, one, one', transmitter, ttl]
        exact store_pointwise _ _ _ k _ (store_pointwise _ _ _ k _ (store_pointwise _ _ _ k _ (alike k shared)))

theorem alike_header (covered : Nat → Prop) (behind : ∀ k, covered k → 34 ≤ k) (m m' : Memory)
    (alike : ∀ k, Shared covered k → m k = m' k) : IpHeader.destAddr m = IpHeader.destAddr m' ∧
      IpHeader.totalLength m = IpHeader.totalLength m' ∧ IpHeader.ttl m = IpHeader.ttl m' := by
  have shared (k : Nat) (header : k < 34) (other : k ≠ 23 ∧ k ≠ 24 ∧ k ≠ 25) : m k = m' k :=
    alike k ⟨other.1, other.2.1, other.2.2, fun inside => by have := behind k inside; omega⟩
  refine ⟨?_, ?_, shared 22 (by omega) (by omega)⟩
  · exact load_octets_congr m m' 30 4 fun k low high => shared k (by omega) (by omega)
  · exact load16_congr m m' 16 fun k low high => shared k (by omega) (by omega)

theorem routed_same_fate (cfg : Network) (len : Nat) (long : 64 ≤ len) (short : len < 65000) (covered : Nat → Prop)
    (m m' : Memory) (alike : ∀ k, Shared covered k → m k = m' k) (dest : IpHeader.destAddr m = IpHeader.destAddr m')
    (ttl : IpHeader.ttl m = IpHeader.ttl m') (transit : isInterface cfg (IpHeader.destAddr m) = none)
    (other : IpHeader.protocol m ≠ 6) (other' : IpHeader.protocol m' ≠ 6) (icmp icmp' : Icmp) (receiver : Nat) :
    SameFate covered m m' len [transitSent cfg len (packetRouting cfg m icmp receiver)]
      [transitSent cfg len (packetRouting cfg m' icmp' receiver)] := by
  have transit' : isInterface cfg (IpHeader.destAddr m') = none := by rw [← dest]; exact transit
  have protocol : IpHeader.protocol (packetRouting cfg m icmp receiver).frame = IpHeader.protocol m :=
    packet_routing_octet cfg m icmp receiver 23 (by omega)
  have protocol' : IpHeader.protocol (packetRouting cfg m' icmp' receiver).frame = IpHeader.protocol m' :=
    packet_routing_octet cfg m' icmp' receiver 23 (by omega)
  obtain ⟨error, sameIcmp, transmitter, hop⟩ := packet_routing_congr cfg m m' icmp icmp' receiver dest ttl transit
  exact transit_same_fate cfg len long short covered m m' alike _ _ error sameIcmp transmitter hop
    (by rw [protocol]; exact other) (by rw [protocol']; exact other') ttl
    (packet_routing_cases cfg m icmp receiver transit) (packet_routing_cases cfg m' icmp' receiver transit')

theorem same_fate_iff (cfg : Config) (len : Nat) (long : 64 ≤ len) (short : len ≤ 1596) (receiver : Nat)
    (covered : Nat → Prop) (behind : ∀ k, covered k → 34 ≤ k) (m m' : Memory)
    (alike : ∀ k, Shared covered k → m k = m' k) (transit : isInterface cfg (IpHeader.destAddr m) = none)
    (draws draws' : List UInt32) (icmp icmp' : Icmp) (table table' : Table) :
    SameFate covered m m' len (handlePacket cfg draws len m icmp receiver table).sent
        (handlePacket cfg draws' len m' icmp' receiver table').sent ↔
      ¬ 20 < (ntohs (IpHeader.totalLength m)).toNat ∨ IpHeader.ttl m = 0 ∨
        (IpHeader.protocol m = 6 ↔ IpHeader.protocol m' = 6) := by
  obtain ⟨dest, total, ttl⟩ := alike_header covered behind m m' alike
  have transit' : isInterface cfg (IpHeader.destAddr m') = none := by rw [← dest]; exact transit
  by_cases drop : ¬ 20 < (ntohs (IpHeader.totalLength m)).toNat ∨ IpHeader.ttl m = 0
  · have drop' : ¬ 20 < (ntohs (IpHeader.totalLength m')).toNat ∨ IpHeader.ttl m' = 0 := by rw [← total, ← ttl]; exact drop
    rw [handle_packet_dropped cfg draws len m icmp receiver table drop,
      handle_packet_dropped cfg draws' len m' icmp' receiver table' drop']
    exact ⟨fun _ => drop.imp id Or.inl, fun _ => .dropped⟩
  · push Not at drop
    obtain ⟨filled, alive⟩ := drop
    have filled' : 20 < (ntohs (IpHeader.totalLength m')).toNat := by rw [← total]; exact filled
    have alive' : IpHeader.ttl m' ≠ 0 := by rw [← ttl]; exact alive
    have nonempty (s : Sent) : ¬ SameFate covered m m' len [] [s] := nofun
    have nonempty' (s : Sent) : ¬ SameFate covered m m' len [s] [] := nofun
    by_cases tcp : IpHeader.protocol m = 6
    · rw [handle_packet_transit_tcp cfg draws len m icmp receiver table transit tcp]
      by_cases tcp' : IpHeader.protocol m' = 6
      · rw [handle_packet_transit_tcp cfg draws' len m' icmp' receiver table' transit' tcp']
        simp [tcp, tcp', SameFate.dropped]
      · rw [handle_packet_transit cfg draws' len m' icmp' receiver table' transit' filled' alive' tcp']
        simp [tcp, tcp', filled, alive, nonempty]
    · rw [handle_packet_transit cfg draws len m icmp receiver table transit filled alive tcp]
      by_cases tcp' : IpHeader.protocol m' = 6
      · rw [handle_packet_transit_tcp cfg draws' len m' icmp' receiver table' transit' tcp']
        simp [tcp, tcp', filled, alive, nonempty']
      · rw [handle_packet_transit cfg draws' len m' icmp' receiver table' transit' filled' alive' tcp']
        have fate := routed_same_fate cfg len long (by omega) covered m m' alike dest ttl transit tcp tcp' icmp icmp' receiver
        exact ⟨fun _ => Or.inr (Or.inr (by simp [tcp, tcp'])), fun _ => fate⟩

def relayConfig : Config where
  routingTable := [⟨ipOctets 10 0 0 0, ipOctets 0 0 0 0, ipOctets 255 0 0 0, 0⟩]
  arpCache := [⟨ipOctets 10 0 0 2, macOctets 2 0 0 0 0 2⟩]
  interfaceList := [⟨tcpMac, tcpIp⟩]
  tcpIpLocal := tcp_ip_alone

def relayed (protocol : UInt8) : Memory :=
  let m1 := FrameFields.setType (FrameFields.setDestAddr (fun _ => 0) tcpMac) (htons 0x0800)
  let m2 := IpHeader.setTtl (IpHeader.setTotalLength (IpHeader.setVersionIhl m1 0x45) (htons 46)) 64
  IpHeader.setProtocol (IpHeader.setDestAddr m2 (ipOctets 10 0 0 2)) protocol

theorem relayed_alike (p q : UInt8) (k : Nat) (shared : Shared (fun _ => False) k) : relayed p k = relayed q k := by
  have apart : k < 23 ∨ 23 + 1 ≤ k := by have := shared.1; omega
  exact (store_outside _ 23 k [p] apart).trans (store_outside _ 23 k [q] apart).symm

theorem relayed_transit (p : UInt8) : isInterface relayConfig (IpHeader.destAddr (relayed p)) = none := by
  simp [relayed]
  decide

theorem same_fate_udp_icmp : SameFate (fun _ => False) (relayed 17) (relayed 1) 64
    (handlePacket relayConfig [] 64 (relayed 17) ⟨1, 0⟩ 0 zeroTable).sent
    (handlePacket relayConfig [] 64 (relayed 1) ⟨1, 0⟩ 0 zeroTable).sent :=
  (same_fate_iff relayConfig 64 (by omega) (by omega) 0 (fun _ => False) (fun _ => False.elim) (relayed 17) (relayed 1)
    (relayed_alike 17 1) (relayed_transit 17) [] [] ⟨1, 0⟩ ⟨1, 0⟩ zeroTable zeroTable).mpr
    (Or.inr (Or.inr (by decide +kernel)))

theorem tcp_not_forwarded : ¬ SameFate (fun _ => False) (relayed 17) (relayed 6) 64
    (handlePacket relayConfig [] 64 (relayed 17) ⟨1, 0⟩ 0 zeroTable).sent
    (handlePacket relayConfig [] 64 (relayed 6) ⟨1, 0⟩ 0 zeroTable).sent := by
  rw [handle_packet_transit relayConfig [] 64 (relayed 17) ⟨1, 0⟩ 0 zeroTable (relayed_transit 17) (by decide +kernel)
      (by decide +kernel) (by decide +kernel),
    handle_packet_transit_tcp relayConfig [] 64 (relayed 6) ⟨1, 0⟩ 0 zeroTable (relayed_transit 6) (by decide +kernel)]
  nofun

end OsiStack
