import OsiStack.Router

set_option autoImplicit false

namespace OsiStack

open Octets OnesComplement

def headerOctets (m : Memory) : Nat := 4 * (IpHeader.versionIhl m &&& 0xF).toNat

def options (m : Memory) : List UInt8 := fetch m 34 (headerOctets m - 20)

def HeaderVerifies (m : Memory) : Prop := ipChecksum (fetch m 14 (headerOctets m)) = 0

instance (m : Memory) : Decidable (HeaderVerifies m) :=
  inferInstanceAs (Decidable (ipChecksum (fetch m 14 (headerOctets m)) = 0))

structure Forwards (cfg : Network) (m : Memory) (icmp : Icmp) (receiver : Nat) : Prop where
  filled : 20 < (ntohs (IpHeader.totalLength m)).toNat
  alive : IpHeader.ttl m ≠ 0
  transit : isInterface cfg (IpHeader.destAddr m) = none
  other : IpHeader.protocol m ≠ 6
  noError : (packetRouting cfg m icmp receiver).error = false

theorem header_sum (m : Memory) (header : 20 ≤ headerOctets m) :
    wordSum (fetch m 14 (headerOctets m)) = wordSum (fetch m 14 20) + wordSum (options m) := by
  obtain ⟨more, size⟩ := Nat.exists_eq_add_of_le header
  have behind : headerOctets m - 20 = more := by omega
  rw [options, behind, size, fetch_add, word_sum_append _ _ (by simp)]

theorem header_verifies_options (m : Memory) (header : 20 ≤ headerOctets m) (sealed : ipChecksum (fetch m 14 20) = 0) :
    HeaderVerifies m ↔ wordSum (options m) % 65535 = 0 := by
  rw [ip_checksum_zero] at sealed
  rw [HeaderVerifies, ip_checksum_zero, header_sum m header]
  omega

theorem header_filled (m : Memory) (alive : IpHeader.ttl m ≠ 0) : wordSum (fetch m 14 20) ≠ 0 := by
  have nonzero : (m 22).toNat ≠ 0 := fun zero => alive (UInt8.toNat_inj.mp zero)
  have around : fetch m 14 20 = fetch m 14 8 ++ ([m 22, m 23] ++ fetch m 24 10) := by
    rw [fetch_add m 14 8 12, fetch_add m 22 2 10]
    rfl
  rw [around, word_sum_append _ _ (by simp), word_sum_append _ _ (by simp), word_sum_pair]
  omega

theorem options_valid_checksum (m : Memory) (header : 20 ≤ headerOctets m) (alive : IpHeader.ttl m ≠ 0)
    (verifies : HeaderVerifies m) : wordSum (options m) % 65535 = 0 ↔ validChecksum m = true := by
  have filled := header_filled m alive
  rw [HeaderVerifies, ip_checksum_zero, header_sum m header] at verifies
  rw [validChecksum, decide_eq_true_iff, ip_checksum_zero]
  omega

theorem options_kept (m m' : Memory) (len : Nat) (fits : 14 + headerOctets m ≤ len - 4) (length : m' 14 = m 14)
    (kept : ∀ k, 34 ≤ k → k < len - 4 → m' k = m k) : headerOctets m' = headerOctets m ∧ options m' = options m := by
  have size : headerOctets m' = headerOctets m := by rw [headerOctets, headerOctets, IpHeader.versionIhl, length]
  refine ⟨size, ?_⟩
  rw [options, options, size]
  exact fetch_congr m' m 34 _ fun k low high => kept k low (by omega)

section
variable (cfg : Network) (draws : List UInt32) (len : Nat) (m : Memory) (icmp : Icmp) (receiver : Nat) (table : Table)
variable (long : 64 ≤ len) (short : len ≤ 1600) (forwards : Forwards cfg m icmp receiver)
include long short forwards

theorem forwards_sent : ∃ s, (handlePacket cfg draws len m icmp receiver table).sent = [s] ∧ Forwarded m len s ∧
    Sealed s.frame ∧ ∀ k, 12 ≤ k → k < len - 4 → k ≠ 22 → k ≠ 24 → k ≠ 25 → ofList s.frame k = m k := by
  have protocol : IpHeader.protocol (packetRouting cfg m icmp receiver).frame = IpHeader.protocol m :=
    packet_routing_octet cfg m icmp receiver 23 (by omega)
  have other : IpHeader.protocol (packetRouting cfg m icmp receiver).frame ≠ 6 := by rw [protocol]; exact forwards.other
  rcases packet_routing_cases cfg m icmp receiver forwards.transit with ⟨bad, -⟩ | ⟨good, one, mac, hop⟩
  · rw [forwards.noError] at bad
    cases bad
  · refine ⟨transitSent cfg len (packetRouting cfg m icmp receiver), ?_, ?_, ?_, ?_⟩
    · exact handle_packet_transit cfg draws len m icmp receiver table forwards.transit forwards.filled forwards.alive
        forwards.other
    · exact transit_sent_forwarded cfg len _ long (by omega) good other mac hop m one
    · exact transit_sent_sealed cfg len _ long (by omega)
    · intro k low high ttl first second
      rw [transit_sent_octet cfg len _ long (by omega) good other mac hop k (by omega) high, one]
      simp (disch := first | (simp; done) | (simp; omega))

theorem options_survive_iff (header : 20 ≤ headerOctets m) (fits : 14 + headerOctets m ≤ len - 4)
    (verifies : HeaderVerifies m) :
    ∃ s, (handlePacket cfg draws len m icmp receiver table).sent = [s] ∧ Forwarded m len s ∧
      headerOctets (ofList s.frame) = headerOctets m ∧
      (HeaderVerifies (ofList s.frame) ↔ wordSum (options m) % 65535 = 0) ∧
      (wordSum (options m) % 65535 = 0 ↔ validChecksum m = true) := by
  obtain ⟨s, sent, forwarded, whole, others⟩ := forwards_sent cfg draws len m icmp receiver table long short forwards
  obtain ⟨size, same⟩ := options_kept m (ofList s.frame) len fits (others 14 (by omega) (by omega) (by omega)
    (by omega) (by omega)) fun k low high => others k (by omega) high (by omega) (by omega) (by omega)
  refine ⟨s, sent, forwarded, size, ?_, options_valid_checksum m header forwards.alive verifies⟩
  rw [header_verifies_options (ofList s.frame) (by omega) whole.header, same]

end

def routerAlert : Memory :=
  let m1 := IpHeader.setVersionIhl (relayed 17) 0x46
  let m2 := store m1 34 [0x94, 0x04, 0x00, 0x00]
  store16 m2 24 (htons (ipChecksum (fetch m2 14 24)))

theorem router_alert_forwards : Forwards relayConfig routerAlert ⟨1, 0⟩ 0 where
  filled := by decide +kernel
  alive := by decide +kernel
  transit := by decide +kernel
  other := by decide +kernel
  noError := by decide +kernel

theorem options_survive_iff_alert : ∃ s, (handlePacket relayConfig [] 64 routerAlert ⟨1, 0⟩ 0 zeroTable).sent = [s] ∧
    Forwarded routerAlert 64 s ∧ headerOctets (ofList s.frame) = headerOctets routerAlert ∧
    (HeaderVerifies (ofList s.frame) ↔ wordSum (options routerAlert) % 65535 = 0) ∧
    (wordSum (options routerAlert) % 65535 = 0 ↔ validChecksum routerAlert = true) :=
  options_survive_iff relayConfig [] 64 routerAlert ⟨1, 0⟩ 0 zeroTable (by omega) (by omega) router_alert_forwards
    (by decide +kernel) (by decide +kernel) (by decide +kernel)

theorem router_alert_broken : headerOctets routerAlert = 24 ∧ HeaderVerifies routerAlert ∧
    Forwards relayConfig routerAlert ⟨1, 0⟩ 0 ∧
    ∃ s, (handlePacket relayConfig [] 64 routerAlert ⟨1, 0⟩ 0 zeroTable).sent = [s] ∧ ¬ HeaderVerifies (ofList s.frame) := by
  refine ⟨by decide +kernel, by decide +kernel, router_alert_forwards,
    transitSent relayConfig 64 (packetRouting relayConfig routerAlert ⟨1, 0⟩ 0), ?_, by decide +kernel⟩
  exact handle_packet_transit relayConfig [] 64 routerAlert ⟨1, 0⟩ 0 zeroTable router_alert_forwards.transit
    router_alert_forwards.filled router_alert_forwards.alive router_alert_forwards.other

end OsiStack
