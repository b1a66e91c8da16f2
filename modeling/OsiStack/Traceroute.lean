import OsiStack.Internet

set_option autoImplicit false

namespace OsiStack

open Octets Walks

inductive StuckAt (cfg : Network) (dest : IpAddr) (left : Nat) : Nat → Nat → Prop
  | expired (last : left = 1) : StuckAt cfg dest left 11 0
  | noRoute (alive : 2 ≤ left) (misses : ∀ row ∈ cfg.routingTable, ¬ Leads dest row) : StuckAt cfg dest left 3 0
  | noArp (row : TableR) (alive : 2 ≤ left) (best : BestRoute cfg dest row)
      (misses : ∀ entry ∈ cfg.arpCache, entry.ipAddr ≠ nextHop row dest) : StuckAt cfg dest left 3 1

theorem stuck_undeliverable (cfg : Network) (m : Memory) (type code : Nat)
    (stuck : StuckAt cfg (IpHeader.destAddr m) (IpHeader.ttl m).toNat type code) : Undeliverable cfg m type code := by
  cases stuck with
  | expired last => exact .expired (UInt8.toNat_inj.mp last)
  | noRoute alive misses => exact .noRoute (UInt8.le_iff_toNat_le.mpr alive) misses
  | noArp row alive best misses => exact .noArp row (UInt8.le_iff_toNat_le.mpr alive) best misses

structure Reports (frame : List UInt8) (iface : Interface) (type code : Nat) (answer : List UInt8) : Prop where
  srcAddr : IpHeader.srcAddr (ofList answer) = iface.ipAddr
  destAddr : IpHeader.destAddr (ofList answer) = IpHeader.srcAddr (ofList frame)
  protocol : IpHeader.protocol (ofList answer) = 1
  type : (ofList answer 34).toNat = type
  code : (ofList answer 35).toNat = code
  quote : ∀ k, k < 28 → k ≠ 8 → k ≠ 10 → k ≠ 11 → ofList answer (42 + k) = ofList frame (14 + k)
  message : ipChecksum (fetch (ofList answer) 34 36) = 0
  plain : headerOctets (ofList answer) = 20
  header : HeaderVerifies (ofList answer)

section
variable (cfg : Network) (m : Memory) (iface : Interface) (type code : Nat) (frame : List UInt8)
variable (report : ErrorReport m iface type code frame) (ipv4 : FrameFields.type (ofList frame) = FrameFields.type m)
variable (received : ntohs (FrameFields.type m) = 2048)
include report ipv4 received

theorem error_report_datagram : Datagram (IpHeader.srcAddr m) frame where
  long := by rw [report.size]; omega
  short := by rw [report.size]; omega
  ipv4 := by rw [ipv4]; exact received
  filled := by rw [report.totalLength]; decide
  other := by rw [report.protocol]; decide
  addressed := report.destAddr

end

theorem error_sent_octet (cfg : Network) (len : Nat) (r : Routing) (error : r.error = true) (k : Nat) (low : 12 ≤ k)
    (high : k < 16) : ofList (transitSent cfg len r).frame k = r.frame k := by
  rw [transit_sent_error_octet cfg len r error k (by omega) (by omega), handle_icmp_octet _ _ _ _ k (by omega), turnedBack]
  simp (disch := first | (simp; done) | (simp; omega))

theorem stuck_reported (cfg : Network) (unicast : ∀ iface ∈ cfg.interfaceList, iface.macAddr ≠ broadcastAddr)
    (distinct : cfg.interfaceList.Pairwise fun x y => x.macAddr ≠ y.macAddr) (dest : IpAddr) (k : Nat) (iface : Interface)
    (here : cfg.interfaceList[k]? = some iface) (frame : List UInt8) (datagram : Datagram dest frame)
    (mine : iface.macAddr = FrameFields.destAddr (ofList frame)) (remote : ∀ iface ∈ cfg.interfaceList, iface.ipAddr ≠ dest)
    (type code : Nat) (stuck : StuckAt cfg dest (hopsLeft frame) type code) :
    ∃ report, Emits cfg frame k report ∧ ErrorReport (ofList frame) iface type code report ∧
      Datagram (IpHeader.srcAddr (ofList frame)) report ∧ Sealed report ∧
      headerOctets (ofList report) = headerOctets (ofList frame) := by
  rw [← datagram.addressed] at stuck
  have why := stuck_undeliverable cfg (ofList frame) type code stuck
  have found := eth_cmp_distinct cfg (ofList frame) k iface here mine distinct
  have transit := datagram_in_transit cfg dest frame datagram remote
  have emitted := datagram_emitted cfg unicast dest frame datagram remote k found (undeliverable_alive _ _ type code why)
  rw [packet_routing_undeliverable cfg (ofList frame) ⟨1, 0⟩ k (is_interface_none _ _ transit.remote) type code why] at emitted
  obtain ⟨smallType, smallCode⟩ := undeliverable_octets _ _ type code why
  have report := transit_sent_report cfg frame.length (ofList frame) type code k iface here mine smallType smallCode
  have octet := error_sent_octet cfg frame.length ⟨ofList frame, true, ⟨type, code⟩, k, none⟩ rfl
  have sameType := load16_congr _ _ 12 fun j low high => octet j low (by omega)
  have whole := transit_sent_sealed cfg frame.length ⟨ofList frame, true, ⟨type, code⟩, k, none⟩ datagram.long
    (Nat.lt_of_le_of_lt datagram.short (by omega))
  refine ⟨_, emitted, report, error_report_datagram _ iface type code _ report sameType datagram.ipv4, whole, ?_⟩
  rw [headerOctets, headerOctets, IpHeader.versionIhl, IpHeader.versionIhl, octet 14 (by omega) (by omega)]

section
variable {Station : Type} (net : Internet Station)

theorem report_returns (dest : IpAddr) (b c : Station) (i k : Nat) (frame : List UInt8) (datagram : Datagram dest frame)
    (plain : headerOctets (ofList frame) = 20)
    (between : Between net b i c k frame) (wired : net.linked c k b)
    (remote : ∀ iface ∈ (net.network c).interfaceList, iface.ipAddr ≠ dest) (type code : Nat)
    (stuck : StuckAt (net.network c) dest (hopsLeft frame) type code) (hops : Nat) (home : Station)
    (back : Path net (IpHeader.srcAddr (ofList frame)) hops b home) (near : hops < 64) :
    ∃ iface answer, (net.network c).interfaceList[k]? = some iface ∧ Travels net (hops + 1) (c, frame) (home, answer) ∧
      LinkAddressed (net.network home) answer ∧ Reports frame iface type code answer := by
  obtain ⟨iface, here, mine⟩ := between.target
  obtain ⟨own, place, source⟩ := between.source
  obtain ⟨report, emits, error, turned, whole, header⟩ := stuck_reported (net.network c) (net.unicast c)
    (net.distinct c) dest k iface here frame datagram mine remote type code stuck
  have taken : LinkAddressed (net.network b) report := ⟨own, List.mem_of_getElem? place, source.trans error.destMac.symm⟩
  have lasting : hops < hopsLeft report := by
    have ttl : (64 : UInt8).toNat = 64 := rfl
    rw [hopsLeft, error.ttl, ttl]
    exact near
  obtain ⟨s, travels, done⟩ := under_way_arrives net (IpHeader.srcAddr (ofList frame)) hops b home back report turned
    taken lasting
  obtain ⟨answer, rfl, carried, addressed, sealed⟩ := under_way_done net report hops home s done
  have size := error.size
  have short := (carried_header hops report answer carried turned.long).trans (header.trans plain)
  have octets := carried_octets hops report answer carried
  refine ⟨iface, answer, here, .take hops _ (b, report) _ ⟨k, wired, emits⟩ travels, addressed, ?_⟩
  exact
    { srcAddr := (Subtype.ext (octets 26 4 (by omega) (by omega))).trans error.srcAddr
      destAddr := (Subtype.ext (octets 30 4 (by omega) (by omega))).trans error.destAddr
      protocol := (carried.others 23 (by omega) (by omega) (by omega) (by omega) (by omega)).trans error.protocol
      type := by
        rw [carried.others 34 (by omega) (by omega) (by omega) (by omega) (by omega)]
        exact error.type
      code := by
        rw [carried.others 35 (by omega) (by omega) (by omega) (by omega) (by omega)]
        exact error.code
      quote := by
        intro j inside _ _ _
        rw [carried.others (42 + j) (by omega) (by omega) (by omega) (by omega) (by omega),
          ← fetch_getD (ofList report) 42 28 j inside, error.quote, fetch_getD _ 14 28 j inside]
      message := by
        rw [octets 34 36 (by omega) (by omega)]
        exact error.message
      plain := short
      header := sealed_plain answer (sealed (Or.inr whole)) short }

theorem reports_carried (hops : Nat) (frame gone : List UInt8) (long : 64 ≤ frame.length) (carried : Carried hops frame gone)
    (iface : Interface) (type code : Nat) (answer : List UInt8) (reports : Reports gone iface type code answer) :
    Reports frame iface type code answer where
  srcAddr := reports.srcAddr
  destAddr := by
    rw [reports.destAddr]
    exact Subtype.ext (carried_octets hops frame gone carried 26 4 (by omega) (by omega))
  protocol := reports.protocol
  type := reports.type
  code := reports.code
  quote := by
    intro k inside ttl upper lower
    rw [reports.quote k inside ttl upper lower]
    exact carried.others (14 + k) (by omega) (by omega) (by omega) (by omega) (by omega)
  message := reports.message
  plain := reports.plain
  header := reports.header

theorem sender_learns (dest : IpAddr) (hops : Nat) (a b c : Station) (i k : Nat) (path : Path net dest hops a b)
    (last : HopVia net dest b c i k) (wired : net.linked c k b)
    (remote : ∀ iface ∈ (net.network c).interfaceList, iface.ipAddr ≠ dest) (frame : List UInt8)
    (datagram : Datagram dest frame) (plain : headerOctets (ofList frame) = 20)
    (mine : LinkAddressed (net.network a) frame) (lasting : hops + 1 < hopsLeft frame)
    (type code : Nat) (stuck : StuckAt (net.network c) dest (hopsLeft frame - (hops + 1)) type code) (backHops : Nat)
    (home : Station) (back : Path net (IpHeader.srcAddr (ofList frame)) backHops b home) (near : backHops < 64) :
    ∃ gone iface answer, Travels net (hops + 1) (a, frame) (c, gone) ∧ (net.network c).interfaceList[k]? = some iface ∧
      Travels net (backHops + 1) (c, gone) (home, answer) ∧ LinkAddressed (net.network home) answer ∧
      Reports frame iface type code answer := by
  obtain ⟨s, travels, done⟩ := under_way_arrives net dest hops a b path frame datagram mine (by omega)
  obtain ⟨mid, rfl, carried, addressed, -⟩ := under_way_done net frame hops b s done
  have ttl := carried.ttl
  obtain ⟨gone, passes, one, between, -⟩ :=
    hop_via_passes net dest b c i k last mid (carried_datagram hops dest frame mid carried datagram) (by omega) addressed
  have whole := carried_trans hops 1 frame mid gone carried one
  rw [Nat.add_comm] at whole
  have spent := whole.ttl
  have left : hopsLeft frame - (hops + 1) = hopsLeft gone := by omega
  have source : IpHeader.srcAddr (ofList gone) = IpHeader.srcAddr (ofList frame) :=
    Subtype.ext (carried_octets (hops + 1) frame gone whole 26 4 (by omega) (by have := datagram.long; omega))
  rw [left] at stuck
  rw [← source] at back
  obtain ⟨iface, answer, here, returns, home', reports⟩ := report_returns net dest b c i k gone
    (carried_datagram (hops + 1) dest frame gone whole datagram)
    ((carried_header (hops + 1) frame gone whole datagram.long).trans plain) between wired remote type code stuck backHops home
    back near
  have there := walk_append (Passes net) hops 1 _ _ _ travels (walk_one (Passes net) _ _ passes)
  rw [Nat.add_comm] at there
  exact ⟨gone, iface, answer, there, here, returns, home',
    reports_carried (hops + 1) frame gone datagram.long whole iface type code answer reports⟩

end

theorem village_back_hop : HopVia village (ipOctets 192 168 0 9) 1 0 0 0 where
  remote := by decide
  way := ⟨_, _, _, ⟨by decide, [_], _, rfl, by decide, by decide⟩, rfl, ⟨rfl, [_], _, rfl, by decide⟩, rfl, rfl⟩
  sends := by decide
  linked := by simp [village]

theorem letter_source (ttl : UInt8) : IpHeader.srcAddr (ofList (letter ttl)) = ipOctets 192 168 0 9 := by
  rw [IpHeader.srcAddr, agree_load_octets 64 _ _ (letter_agree ttl) 26 4 (by omega)]
  simp [letterBuffer]

theorem letter_plain (ttl : UInt8) : headerOctets (ofList (letter ttl)) = 20 := by
  rw [headerOctets, IpHeader.versionIhl, letter_agree ttl 14 (by omega)]
  simp [letterBuffer]

theorem sender_learns_second : ∃ gone iface answer, Travels village 1 (1, letter 2) (2, gone) ∧
    (village.network 2).interfaceList[0]? = some iface ∧ Travels village 2 (2, gone) (0, answer) ∧
    LinkAddressed (village.network 0) answer ∧ Reports (letter 2) iface 11 0 answer :=
  sender_learns village (ipOctets 10 1 0 9) 0 1 1 2 1 0 (.stay 1) village_first_hop (by simp [village]) (by decide) (letter 2)
    (letter_datagram 2) (letter_plain 2) (letter_addressed 2) (by rw [letter_ttl]; decide) 11 0
    (.expired (by rw [letter_ttl]; rfl)) 1 0
    (by rw [letter_source]; exact walk_one _ _ _ ⟨0, 0, village_back_hop⟩) (by omega)

end OsiStack
