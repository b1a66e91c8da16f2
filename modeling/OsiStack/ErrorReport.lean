import OsiStack.Router

set_option autoImplicit false

namespace OsiStack

open Octets

structure ErrorReport (m : Memory) (iface : Interface) (type code : Nat) (frame : List UInt8) : Prop where
  size : frame.length = 74
  destMac : FrameFields.destAddr (ofList frame) = FrameFields.srcAddr m
  srcMac : FrameFields.srcAddr (ofList frame) = FrameFields.destAddr m
  srcAddr : IpHeader.srcAddr (ofList frame) = iface.ipAddr
  destAddr : IpHeader.destAddr (ofList frame) = IpHeader.srcAddr m
  protocol : IpHeader.protocol (ofList frame) = 1
  ttl : IpHeader.ttl (ofList frame) = 64
  totalLength : ntohs (IpHeader.totalLength (ofList frame)) = 56
  type : (ofList frame 34).toNat = type
  code : (ofList frame 35).toNat = code
  quote : fetch (ofList frame) 42 28 = fetch m 14 28
  header : ipChecksum (fetch (ofList frame) 14 20) = 0
  message : ipChecksum (fetch (ofList frame) 34 36) = 0
  accepted : ∀ cfg, (handleFrame cfg frame.length (ofList frame)).checkSumMatch = true

section
variable (cfg : Network) (m : Memory) (icmp : Icmp) (transmitter : Nat)

theorem handle_icmp_octet (k : Nat) (apart : k < 16) : handleIcmp cfg m icmp transmitter k = m k := by
  simp (disch := first | (simp; done) | (simp; omega)) [handleIcmp, icmpMessage]

theorem handle_icmp_header :
    IpHeader.srcAddr (handleIcmp cfg m icmp transmitter) = (interfaceAt cfg transmitter).ipAddr ∧
      IpHeader.ttl (handleIcmp cfg m icmp transmitter) = 64 ∧
      IpHeader.totalLength (handleIcmp cfg m icmp transmitter) = htons 56 := by
  refine ⟨?_, ?_, ?_⟩ <;> simp [handleIcmp, icmpMessage]

-- The quotation is taken before the header is rewritten.
theorem handle_icmp_quote : fetch (handleIcmp cfg m icmp transmitter) 42 28 = fetch m 14 28 := by
  have taken : fetch (store m 42 (fetch m 14 28)) 42 28 = fetch m 14 28 := fetch_store_same m 42 28 _ (by simp)
  rw [← taken]
  apply fetch_congr
  intro k low high
  simp only [handleIcmp, icmpMessage]
  simp (disch := first | (simp; done) | (simp; omega)) only [store_outside]

theorem handle_icmp_quoted (k : Nat) (inside : k < 28) : handleIcmp cfg m icmp transmitter (42 + k) = m (14 + k) := by
  rw [← fetch_getD (handleIcmp cfg m icmp transmitter) 42 28 k inside, handle_icmp_quote, fetch_getD m 14 28 k inside]

theorem handle_icmp_message : ipChecksum (fetch (handleIcmp cfg m icmp transmitter) 34 36) = 0 := by
  generalize messageEq : icmpMessage cfg m icmp transmitter = message
  have blank : fetch message (34 + 2) 2 = [0, 0] := by
    rw [← messageEq]
    simp [icmpMessage, fetch, store, List.range_succ]
  rw [← ip_checksum_store message 34 36 2 (by omega) blank (by omega)]
  simp only [handleIcmp, messageEq]
  rw [fetch_store_outside _ 34 36 16 _ (by simp)]

end

theorem transit_sent_report (cfg : Network) (len : Nat) (m : Memory) (type code r : Nat) (iface : Interface)
    (here : cfg.interfaceList[r]? = some iface) (mine : iface.macAddr = FrameFields.destAddr m) (smallType : type < 256)
    (smallCode : code < 256) : ErrorReport m iface type code (transitSent cfg len ⟨m, true, ⟨type, code⟩, r, none⟩).frame := by
  have octet := transit_sent_error_octet cfg len ⟨m, true, ⟨type, code⟩, r, none⟩ rfl
  have size : (transitSent cfg len ⟨m, true, ⟨type, code⟩, r, none⟩).frame.length = 74 := by
    rw [transitSent, encapsulation_error_len, sent_length _ _ _ (by omega)]
  have whole : Sealed (transitSent cfg len ⟨m, true, ⟨type, code⟩, r, none⟩).frame := by
    apply encapsulation_sealed <;> rw [encapsulation_error_len] <;> omega
  generalize transitSent cfg len ⟨m, true, ⟨type, code⟩, r, none⟩ = s at octet size whole ⊢
  dsimp only at octet
  generalize backEq : turnedBack cfg m r = back at octet
  have addr := interface_at_get cfg r iface here
  have octets (off n : Nat) (apart : off + n ≤ 24 ∨ 26 ≤ off ∧ off + n ≤ 70) :
      fetch (ofList s.frame) off n = fetch (handleIcmp cfg back ⟨type, code⟩ r) off n :=
    fetch_congr _ _ off n fun k low high => octet k (by omega) (by omega)
  have loaded (off n : Nat) (apart : off + n ≤ 24 ∨ 26 ≤ off ∧ off + n ≤ 70) :
      loadOctets (ofList s.frame) off n = loadOctets (handleIcmp cfg back ⟨type, code⟩ r) off n :=
    Subtype.ext (octets off n apart)
  have link (off n : Nat) (inside : off + n ≤ 16) :
      loadOctets (handleIcmp cfg back ⟨type, code⟩ r) off n = loadOctets back off n :=
    load_octets_congr _ _ off n fun k _ high => handle_icmp_octet cfg back ⟨type, code⟩ r k (by omega)
  obtain ⟨source, ttl, total⟩ := handle_icmp_header cfg back ⟨type, code⟩ r
  obtain ⟨first, second⟩ := handle_icmp_head cfg back ⟨type, code⟩ r
  refine ⟨size, ?_, ?_, ?_, ?_, ?_, ?_, ?_, ?_, ?_, ?_, whole.header, ?_, ?_⟩
  · rw [FrameFields.destAddr, loaded 0 6 (by omega), link 0 6 (by omega), ← backEq]
    simp [turnedBack]
  · rw [FrameFields.srcAddr, loaded 6 6 (by omega), link 6 6 (by omega), ← backEq, ← mine]
    simp [turnedBack, addr]
  · rw [IpHeader.srcAddr, loaded 26 4 (by omega), ← addr]
    exact source
  · rw [IpHeader.destAddr, loaded 30 4 (by omega), ← turned_back_src_addr cfg m r, backEq]
    exact handle_icmp_dest_addr cfg back ⟨type, code⟩ r
  · exact (octet 23 (by omega) (by omega)).trans (handle_icmp_protocol cfg back ⟨type, code⟩ r)
  · exact (octet 22 (by omega) (by omega)).trans ttl
  · have same : IpHeader.totalLength (ofList s.frame) = IpHeader.totalLength (handleIcmp cfg back ⟨type, code⟩ r) :=
      congrArg word16 (octets 16 2 (by omega))
    rw [same, total, ntohs_ntohs]
  · rw [octet 34 (by omega) (by omega), first, UInt8.toNat_ofNat']
    exact Nat.mod_eq_of_lt smallType
  · rw [octet 35 (by omega) (by omega), second, UInt8.toNat_ofNat']
    exact Nat.mod_eq_of_lt smallCode
  · rw [octets 42 28 (by omega), handle_icmp_quote, ← backEq]
    exact fetch_congr _ _ 14 28 fun k low _ => by simp (disch := first | (simp; done) | (simp; omega)) [turnedBack]
  · rw [octets 34 36 (by omega)]
    exact handle_icmp_message cfg back ⟨type, code⟩ r
  · exact fun other => check_sequence_match other s.frame whole.checkSequence

theorem error_reported (cfg : Network) (len : Nat) (m : Memory) (icmpCode : Nat) (draws : List UInt32) (table : Table)
    (long : 64 ≤ len) (distinct : cfg.interfaceList.Pairwise fun a b => a.macAddr ≠ b.macAddr)
    (unicast : ∀ iface ∈ cfg.interfaceList, iface.macAddr ≠ broadcastAddr) (r : Nat) (iface : Interface)
    (here : cfg.interfaceList[r]? = some iface) (mine : iface.macAddr = FrameFields.destAddr m) (transit : InTransit cfg m)
    (type code : Nat) (why : Undeliverable cfg m type code) :
    ∃ s, interfaceReceiver cfg len m icmpCode draws table = ⟨table, [s], [], []⟩ ∧ s.interface = r ∧
      ErrorReport m iface type code s.frame := by
  have found := eth_cmp_distinct cfg m r iface here mine distinct
  have handled := in_transit_handled cfg len m icmpCode draws table long unicast transit r found
    (undeliverable_alive cfg m type code why)
  have routing := packet_routing_undeliverable cfg m ⟨1, icmpCode⟩ r (is_interface_none cfg _ transit.remote) type code why
  rw [routing] at handled
  obtain ⟨smallType, smallCode⟩ := undeliverable_octets cfg m type code why
  exact ⟨_, handled, rfl, transit_sent_report cfg len m type code r iface here mine smallType smallCode⟩

def strandedNetwork : Network where
  routingTable := []
  arpCache := relayConfig.arpCache
  interfaceList := relayConfig.interfaceList

theorem stranded_in_transit : InTransit strandedNetwork (relayed 17) where
  ipv4 := by decide +kernel
  filled := by decide +kernel
  other := by decide +kernel
  remote := by decide +kernel

theorem error_reported_stranded : ∃ s, interfaceReceiver strandedNetwork 64 (relayed 17) 0 [] zeroTable =
    ⟨zeroTable, [s], [], []⟩ ∧ s.interface = 0 ∧ ErrorReport (relayed 17) ⟨tcpMac, tcpIp⟩ 3 0 s.frame :=
  error_reported strandedNetwork 64 (relayed 17) 0 [] zeroTable (by omega) (by decide) (by decide) 0 ⟨tcpMac, tcpIp⟩ rfl
    (by decide +kernel) stranded_in_transit 3 0 (.noRoute (by decide +kernel) (by simp [strandedNetwork]))

end OsiStack
