import OsiStack.Emission
import OsiStack.IpOptions
import OsiStack.ReadOctets
import OsiStack.Runs

set_option autoImplicit false

namespace OsiStack

open Octets Walks

structure Internet (Station : Type) where
  network : Station → Network
  linked : Station → Nat → Station → Prop
  unicast : ∀ a, ∀ iface ∈ (network a).interfaceList, iface.macAddr ≠ broadcastAddr
  distinct : ∀ a, (network a).interfaceList.Pairwise fun x y => x.macAddr ≠ y.macAddr

structure Datagram (dest : IpAddr) (frame : List UInt8) : Prop where
  long : 64 ≤ frame.length
  short : frame.length ≤ 1596
  ipv4 : ntohs (FrameFields.type (ofList frame)) = 2048
  filled : 20 < (ntohs (IpHeader.totalLength (ofList frame))).toNat
  other : IpHeader.protocol (ofList frame) ≠ 6
  addressed : IpHeader.destAddr (ofList frame) = dest

def LinkAddressed (cfg : Network) (frame : List UInt8) : Prop :=
  ∃ iface ∈ cfg.interfaceList, iface.macAddr = FrameFields.destAddr (ofList frame)

abbrev hopsLeft (frame : List UInt8) : Nat := (IpHeader.ttl (ofList frame)).toNat

-- In every state, and whatever else is in the buffer: this frame, on this interface,
-- and nothing besides.
def Emits (cfg : Network) (frame : List UInt8) (i : Nat) (out : List UInt8) : Prop :=
  ∀ (table : Table) (r : Reception), r.octets = frame → receive cfg table r = ⟨table, [⟨i, out⟩], [], []⟩

structure Carried (hops : Nat) (frame out : List UInt8) : Prop where
  size : out.length = frame.length
  ttl : hopsLeft out + hops = hopsLeft frame
  others : ∀ k, 12 ≤ k → k < frame.length - 4 → k ≠ 22 → k ≠ 24 → k ≠ 25 → ofList out k = ofList frame k

theorem carried_refl (frame : List UInt8) : Carried 0 frame frame := ⟨rfl, rfl, fun _ _ _ _ _ _ => rfl⟩

theorem carried_trans (m n : Nat) (frame mid out : List UInt8) (first : Carried m frame mid) (rest : Carried n mid out) :
    Carried (n + m) frame out where
  size := rest.size.trans first.size
  ttl := by
    have before := first.ttl
    have after := rest.ttl
    omega
  others := by
    intro k low high ttl upper lower
    rw [rest.others k low (by rw [first.size]; exact high) ttl upper lower]
    exact first.others k low high ttl upper lower

theorem carried_octets (hops : Nat) (frame out : List UInt8) (carried : Carried hops frame out) (off n : Nat)
    (apart : 12 ≤ off ∧ off + n ≤ 22 ∨ off = 23 ∧ n = 1 ∨ 26 ≤ off) (inside : off + n ≤ frame.length - 4) :
    fetch (ofList out) off n = fetch (ofList frame) off n :=
  fetch_congr _ _ off n fun k low high =>
    carried.others k (by omega) (by omega) (by omega) (by omega) (by omega)

theorem carried_datagram (hops : Nat) (dest : IpAddr) (frame out : List UInt8) (carried : Carried hops frame out)
    (datagram : Datagram dest frame) : Datagram dest out := by
  have long := datagram.long
  have same := carried_octets hops frame out carried
  have type : FrameFields.type (ofList out) = FrameFields.type (ofList frame) :=
    congrArg word16 (same 12 2 (by omega) (by omega))
  have total : IpHeader.totalLength (ofList out) = IpHeader.totalLength (ofList frame) :=
    congrArg word16 (same 16 2 (by omega) (by omega))
  have addressed : IpHeader.destAddr (ofList out) = IpHeader.destAddr (ofList frame) :=
    Subtype.ext (same 30 4 (by omega) (by omega))
  exact
    { long := by rw [carried.size]; exact long
      short := by rw [carried.size]; exact datagram.short
      ipv4 := by rw [type]; exact datagram.ipv4
      filled := by rw [total]; exact datagram.filled
      other := by
        rw [IpHeader.protocol, carried.others 23 (by omega) (by omega) (by omega) (by omega) (by omega)]
        exact datagram.other
      addressed := addressed.trans datagram.addressed }

theorem carried_header (hops : Nat) (frame out : List UInt8) (carried : Carried hops frame out) (long : 64 ≤ frame.length) :
    headerOctets (ofList out) = headerOctets (ofList frame) := by
  rw [headerOctets, headerOctets, IpHeader.versionIhl, IpHeader.versionIhl,
    carried.others 14 (by omega) (by omega) (by omega) (by omega) (by omega)]

-- The header checksum that a frame leaves with is over twenty octets, which are the
-- whole header where there are no options.
theorem sealed_plain (frame : List UInt8) (whole : Sealed frame) (plain : headerOctets (ofList frame) = 20) :
    HeaderVerifies (ofList frame) := by
  rw [HeaderVerifies, plain]
  exact whole.header

section
variable (cfg : Network) (unicast : ∀ iface ∈ cfg.interfaceList, iface.macAddr ≠ broadcastAddr) (dest : IpAddr)
variable (frame : List UInt8) (datagram : Datagram dest frame) (remote : ∀ iface ∈ cfg.interfaceList, iface.ipAddr ≠ dest)
include datagram remote

theorem datagram_in_transit : InTransit cfg (ofList frame) where
  ipv4 := datagram.ipv4
  filled := datagram.filled
  other := datagram.other
  remote := by rw [datagram.addressed]; exact remote

include unicast

theorem datagram_emitted (receiver : Nat) (found : ethCmp cfg (ofList frame) = some receiver)
    (alive : IpHeader.ttl (ofList frame) ≠ 0) :
    Emits cfg frame (transitSent cfg frame.length (packetRouting cfg (ofList frame) ⟨1, 0⟩ receiver)).interface
      (transitSent cfg frame.length (packetRouting cfg (ofList frame) ⟨1, 0⟩ receiver)).frame := by
  intro table r octets
  have long := datagram.long
  rw [receive_octets cfg table r, octets]
  exact in_transit_handled cfg frame.length (ofList frame) 0 r.draws table long unicast
    (datagram_in_transit cfg dest frame datagram remote) receiver found alive

end

section
variable {Station : Type} (net : Internet Station)

structure HopVia (dest : IpAddr) (a b : Station) (i k : Nat) : Prop where
  remote : ∀ iface ∈ (net.network a).interfaceList, iface.ipAddr ≠ dest
  way : ∃ row entry own, BestRoute (net.network a) dest row ∧ row.interfaceId = i ∧
    ArpEntry (net.network a) (nextHop row dest) entry ∧
    (net.network b).interfaceList[k]? = some own ∧ own.macAddr = entry.macAddr
  sends : i < (net.network a).interfaceList.length
  linked : net.linked a i b

def NextHop (dest : IpAddr) (a b : Station) : Prop := ∃ i k, HopVia net dest a b i k

abbrev Path (dest : IpAddr) (hops : Nat) (a b : Station) : Prop := Walk (NextHop net dest) hops a b

def Passes (s t : Station × List UInt8) : Prop :=
  ∃ i, net.linked s.1 i t.1 ∧ Emits (net.network s.1) s.2 i t.2

abbrev Travels (hops : Nat) (s t : Station × List UInt8) : Prop := Walk (Passes net) hops s t

structure Between (a : Station) (i : Nat) (b : Station) (k : Nat) (frame : List UInt8) : Prop where
  source : ∃ iface, (net.network a).interfaceList[i]? = some iface ∧ iface.macAddr = FrameFields.srcAddr (ofList frame)
  target : ∃ iface, (net.network b).interfaceList[k]? = some iface ∧ iface.macAddr = FrameFields.destAddr (ofList frame)

section
variable (dest : IpAddr) (a b : Station) (i k : Nat) (hop : HopVia net dest a b i k) (frame : List UInt8)
variable (datagram : Datagram dest frame) (lasting : 2 ≤ hopsLeft frame)
include hop datagram lasting

theorem hop_via_routing : ∃ mac own, (net.network b).interfaceList[k]? = some own ∧ own.macAddr = mac ∧
    ∀ receiver, packetRouting (net.network a) (ofList frame) ⟨1, 0⟩ receiver =
      ⟨IpHeader.setTtl (ofList frame) (IpHeader.ttl (ofList frame) - 1), false, ⟨1, 0⟩, i, some mac⟩ := by
  obtain ⟨row, entry, own, best, place, known, member, addr⟩ := hop.way
  have transit := datagram_in_transit (net.network a) dest frame datagram hop.remote
  rw [← datagram.addressed] at best known
  refine ⟨entry.macAddr, own, member, addr, fun receiver => ?_⟩
  rw [packet_routing_found (net.network a) (ofList frame) ⟨1, 0⟩ receiver
    (is_interface_none (net.network a) _ transit.remote) row entry (UInt8.le_iff_toNat_le.mpr lasting) best known, place]

theorem hop_via_free : ¬ ErrorPending (net.network a) (ofList frame) := by
  intro pending
  obtain ⟨mac, own, -, -, routing⟩ := hop_via_routing net dest a b i k hop frame datagram lasting
  have error := (packet_routing_error (net.network a) (ofList frame) ⟨1, 0⟩ 0 pending).1
  rw [routing] at error
  cases error

theorem hop_via_passes (mine : LinkAddressed (net.network a) frame) :
    ∃ out, Passes net (a, frame) (b, out) ∧ Carried 1 frame out ∧ Between net a i b k out ∧ Sealed out := by
  obtain ⟨mac, own, member, addr, routing⟩ := hop_via_routing net dest a b i k hop frame datagram lasting
  have long := datagram.long
  have short := datagram.short
  have two : 2 ≤ IpHeader.ttl (ofList frame) := UInt8.le_iff_toNat_le.mpr lasting
  obtain ⟨iface, out⟩ : ∃ iface, (net.network a).interfaceList[i]? = some iface := ⟨_, List.getElem?_eq_getElem hop.sends⟩
  obtain ⟨receiver, found⟩ := eth_cmp_some (net.network a) (ofList frame) mine
  have emitted := datagram_emitted (net.network a) (net.unicast a) dest frame datagram hop.remote receiver found
    (octet_ne _ 0 two (by decide))
  rw [routing] at emitted
  let route : Routing := ⟨IpHeader.setTtl (ofList frame) (IpHeader.ttl (ofList frame) - 1), false, ⟨1, 0⟩, i, some mac⟩
  have other : IpHeader.protocol route.frame ≠ 6 := by simpa [route] using datagram.other
  have passed := transit_sent_passed_on (net.network a) frame.length route long (by omega) rfl other mac rfl
    (ofList frame) iface out two rfl
  have whole := transit_sent_sealed (net.network a) frame.length route long (by omega)
  exact ⟨_, ⟨i, hop.linked, emitted⟩, ⟨passed.size, passed.ttl, passed.others⟩,
    ⟨⟨iface, out, passed.srcAddr.symm⟩, own, member, addr.trans passed.destAddr.symm⟩, whole⟩

end

theorem between_addressed (a : Station) (i : Nat) (b : Station) (k : Nat) (frame : List UInt8)
    (between : Between net a i b k frame) : LinkAddressed (net.network b) frame := by
  obtain ⟨own, place, addr⟩ := between.target
  exact ⟨own, List.mem_of_getElem? place, addr⟩

structure UnderWay (frame : List UInt8) (hops left : Nat) (at' : Station) (s : Station × List UInt8) : Prop where
  place : s.1 = at'
  addressed : LinkAddressed (net.network at') s.2
  done : ∃ n, n + left = hops ∧ Carried n frame s.2 ∧ (0 < n ∨ Sealed frame → Sealed s.2)

theorem under_way_next (dest : IpAddr) (frame : List UInt8) (datagram : Datagram dest frame) (hops : Nat)
    (lasting : hops < hopsLeft frame) (left : Nat) (a b : Station) (s : Station × List UInt8) (next : NextHop net dest a b)
    (way : UnderWay net frame hops (left + 1) a s) : ∃ t, Passes net s t ∧ UnderWay net frame hops left b t := by
  obtain ⟨i, k, hop⟩ := next
  obtain ⟨at', here⟩ := s
  obtain ⟨rfl, addressed, n, sum, carried, -⟩ := way
  have ttl := carried.ttl
  obtain ⟨out, passes, one, between, whole⟩ := hop_via_passes net dest at' b i k hop here
    (carried_datagram n dest frame here carried datagram) (by dsimp only at ttl; omega) addressed
  have more := carried_trans n 1 frame here out carried one
  rw [Nat.add_comm] at more
  exact ⟨(b, out), passes, rfl, between_addressed net at' i b k out between, n + 1, by omega, more, fun _ => whole⟩

theorem under_way_arrives (dest : IpAddr) (hops : Nat) (a b : Station) (path : Path net dest hops a b) (frame : List UInt8)
    (datagram : Datagram dest frame) (mine : LinkAddressed (net.network a) frame) (lasting : hops < hopsLeft frame) :
    ∃ s, Travels net hops (a, frame) s ∧ UnderWay net frame hops 0 b s := by
  have start : UnderWay net frame hops (hops + 0) a (a, frame) :=
    ⟨rfl, mine, 0, by omega, carried_refl frame, fun whole => whole.resolve_left (by omega)⟩
  exact walk_simulated (NextHop net dest) (Passes net) (UnderWay net frame hops)
    (fun left s t o => under_way_next net dest frame datagram hops lasting left s t o) hops 0 a b (a, frame) path start

theorem under_way_done (frame : List UInt8) (hops : Nat) (b : Station) (s : Station × List UInt8)
    (done : UnderWay net frame hops 0 b s) : ∃ out, s = (b, out) ∧ Carried hops frame out ∧
      LinkAddressed (net.network b) out ∧ (0 < hops ∨ Sealed frame → Sealed out) := by
  obtain ⟨place, out⟩ := s
  obtain ⟨rfl, addressed, n, sum, carried, whole⟩ := done
  obtain rfl : n = hops := by omega
  exact ⟨out, rfl, carried, addressed, whole⟩

theorem datagram_delivered (dest : IpAddr) (hops : Nat) (a b : Station) (path : Path net dest hops a b) (frame : List UInt8)
    (datagram : Datagram dest frame) (mine : LinkAddressed (net.network a) frame) (lasting : hops < hopsLeft frame) :
    ∃ out, Travels net hops (a, frame) (b, out) ∧ Carried hops frame out ∧ LinkAddressed (net.network b) out ∧
      (0 < hops ∨ Sealed frame → Sealed out ∧ (headerOctets (ofList frame) = 20 → HeaderVerifies (ofList out))) := by
  obtain ⟨s, travels, done⟩ := under_way_arrives net dest hops a b path frame datagram mine lasting
  obtain ⟨out, rfl, carried, addressed, whole⟩ := under_way_done net frame hops b s done
  refine ⟨out, travels, carried, addressed, fun sent => ⟨whole sent, fun plain => ?_⟩⟩
  exact sealed_plain out (whole sent) ((carried_header hops frame out carried datagram.long).trans plain)

end

def villageHost (mac : UInt8) (ipAddr : IpAddr) : Network := ⟨[], [], [⟨macOctets 2 0 0 0 0 mac, ipAddr⟩]⟩

def villageNear : Network where
  routingTable := [⟨ipOctets 10 0 0 0, ipOctets 10 0 0 2, ipOctets 255 0 0 0, 1⟩,
    ⟨ipOctets 192 168 0 0, ipOctets 0 0 0 0, ipOctets 255 255 0 0, 0⟩]
  arpCache := [⟨ipOctets 10 0 0 2, macOctets 2 0 0 0 0 3⟩, ⟨ipOctets 192 168 0 9, macOctets 2 0 0 0 0 9⟩]
  interfaceList := [⟨tcpMac, tcpIp⟩, ⟨macOctets 2 0 0 0 0 2, ipOctets 10 0 0 1⟩]

def villageFar : Network where
  routingTable := [⟨ipOctets 10 1 0 0, ipOctets 0 0 0 0, ipOctets 255 255 0 0, 1⟩]
  arpCache := [⟨ipOctets 10 1 0 9, macOctets 2 0 0 0 0 5⟩]
  interfaceList := [⟨macOctets 2 0 0 0 0 3, ipOctets 10 0 0 2⟩, ⟨macOctets 2 0 0 0 0 4, ipOctets 10 1 0 1⟩]

def villageNetwork : Fin 4 → Network
  | 0 => villageHost 9 (ipOctets 192 168 0 9)
  | 1 => villageNear
  | 2 => villageFar
  | 3 => villageHost 5 (ipOctets 10 1 0 9)

def village : Internet (Fin 4) where
  network := villageNetwork
  linked := fun a i b => (a, i, b) ∈ [((0 : Fin 4), 0, (1 : Fin 4)), (1, 0, 0), (1, 1, 2), (2, 0, 1), (2, 1, 3), (3, 0, 2)]
  unicast := by decide
  distinct := by decide

def letterBuffer (ttl : UInt8) : Memory :=
  let m1 := FrameFields.setType (FrameFields.setDestAddr (fun _ => 0) tcpMac) (htons 0x0800)
  let m2 := IpHeader.setTtl (IpHeader.setTotalLength (IpHeader.setVersionIhl m1 0x45) (htons 46)) ttl
  let m3 := IpHeader.setSrcAddr (IpHeader.setProtocol m2 17) (ipOctets 192 168 0 9)
  IpHeader.setDestAddr m3 (ipOctets 10 1 0 9)

def letter (ttl : UInt8) : List UInt8 := fetch (letterBuffer ttl) 0 64

theorem letter_agree (ttl : UInt8) : Agree 64 (ofList (letter ttl)) (letterBuffer ttl) :=
  fun k inside => of_list_fetch (letterBuffer ttl) 64 k inside

theorem letter_ttl (ttl : UInt8) : hopsLeft (letter ttl) = ttl.toNat := by
  rw [hopsLeft, IpHeader.ttl, letter_agree ttl 22 (by omega)]
  simp [letterBuffer]

theorem letter_datagram (ttl : UInt8) : Datagram (ipOctets 10 1 0 9) (letter ttl) where
  long := by simp [letter]
  short := by simp [letter]
  ipv4 := by
    rw [FrameFields.type, agree_load16 64 _ _ (letter_agree ttl) 12 (by omega)]
    simp [letterBuffer]
  filled := by
    rw [IpHeader.totalLength, agree_load16 64 _ _ (letter_agree ttl) 16 (by omega)]
    simp [letterBuffer]
  other := by
    rw [IpHeader.protocol, letter_agree ttl 23 (by omega)]
    simp [letterBuffer]
  addressed := by
    rw [IpHeader.destAddr, agree_load_octets 64 _ _ (letter_agree ttl) 30 4 (by omega)]
    simp [letterBuffer]

theorem letter_addressed (ttl : UInt8) : LinkAddressed villageNear (letter ttl) := by
  refine ⟨⟨tcpMac, tcpIp⟩, by decide, ?_⟩
  rw [FrameFields.destAddr, agree_load_octets 64 _ _ (letter_agree ttl) 0 6 (by omega)]
  simp [letterBuffer]

theorem village_first_hop : HopVia village (ipOctets 10 1 0 9) 1 2 1 0 where
  remote := by decide
  way := ⟨_, _, _, ⟨by decide, [], _, rfl, by decide, by decide⟩, rfl, ⟨rfl, [], _, rfl, by decide⟩, rfl, rfl⟩
  sends := by decide
  linked := by simp [village]

theorem village_second_hop : HopVia village (ipOctets 10 1 0 9) 2 3 1 0 where
  remote := by decide
  way := ⟨_, _, _, ⟨by decide, [], _, rfl, by decide, by decide⟩, rfl, ⟨rfl, [], _, rfl, by decide⟩, rfl, rfl⟩
  sends := by decide
  linked := by simp [village]

theorem datagram_delivered_village : ∃ out, Travels village 2 (1, letter 64) (3, out) ∧ Carried 2 (letter 64) out ∧
    LinkAddressed (village.network 3) out ∧
    (0 < 2 ∨ Sealed (letter 64) → Sealed out ∧ (headerOctets (ofList (letter 64)) = 20 → HeaderVerifies (ofList out))) :=
  datagram_delivered village (ipOctets 10 1 0 9) 2 1 3
    (.take 1 1 2 3 ⟨1, 0, village_first_hop⟩ (.take 0 2 3 3 ⟨1, 0, village_second_hop⟩ (.stay 3))) (letter 64)
    (letter_datagram 64) (letter_addressed 64) (by rw [letter_ttl]; decide)

theorem datagram_routed (cfg : Network) (dest : IpAddr) (frame : List UInt8) (datagram : Datagram dest frame) (table : Table)
    (r : Reception) (octets : r.octets = frame) (s : Sent) (member : s ∈ (receive cfg table r).sent) :
    ∃ receiver, s = transitSent cfg frame.length (packetRouting cfg (ofList frame) ⟨1, 0⟩ receiver) ∧
      IpHeader.ttl (ofList frame) ≠ 0 ∧ isInterface cfg (IpHeader.destAddr (ofList frame)) = none := by
  rw [receive_octets cfg table r, octets] at member
  have fate := interface_receiver_fate cfg frame.length (ofList frame) 0 r.draws table
  generalize interfaceReceiver cfg frame.length (ofList frame) 0 r.draws table = e at fate member
  cases fate with
  | ignored => simp [noEffect] at member
  | arp _ _ type =>
      rw [datagram.ipv4] at type
      exact absurd type (by decide)
  | packet receiver _ _ _ _ =>
      have outcome := handle_packet_fate cfg r.draws frame.length (ofList frame) ⟨1, 0⟩ receiver table
      generalize handlePacket cfg r.draws frame.length (ofList frame) ⟨1, 0⟩ receiver table = e at outcome member
      cases outcome with
      | dropped => simp [noEffect] at member
      | segment _ _ tcp => exact absurd tcp datagram.other
      | routed filled alive other transit => exact ⟨receiver, List.mem_singleton.mp member, alive, transit⟩

theorem datagram_sent_on (cfg : Network) (dest : IpAddr) (frame : List UInt8) (datagram : Datagram dest frame) (table : Table)
    (r : Reception) (octets : r.octets = frame) (free : ¬ ErrorPending cfg (ofList frame)) (s : Sent)
    (member : s ∈ (receive cfg table r).sent) :
    Carried 1 frame s.frame ∧ 1 ≤ hopsLeft s.frame ∧ Sealed s.frame := by
  have long := datagram.long
  have short := datagram.short
  obtain ⟨receiver, rfl, alive, transit⟩ := datagram_routed cfg dest frame datagram table r octets s member
  have noError := packet_routing_no_error cfg (ofList frame) ⟨1, 0⟩ receiver alive free
  have onward := packet_routing_cases cfg (ofList frame) ⟨1, 0⟩ receiver transit
  have lasting : 2 ≤ IpHeader.ttl (ofList frame) := octet_two_le _ alive fun last => free (Or.inl last)
  clear member
  generalize packetRouting cfg (ofList frame) ⟨1, 0⟩ receiver = route at noError onward ⊢
  rcases onward with ⟨bad, -⟩ | ⟨-, one, mac, hop⟩
  · rw [noError] at bad
    cases bad
  · have carries : IpHeader.protocol route.frame ≠ 6 := by rw [one]; simpa using datagram.other
    have forwarded := transit_sent_forwarded cfg frame.length route long (by omega) noError carries mac hop _ one
    have less := one_hop_less _ lasting
    rw [← forwarded.ttl] at less
    refine ⟨⟨forwarded.size, less.1, fun k low high ttl upper lower => ?_⟩, UInt8.le_iff_toNat_le.mp less.2,
      transit_sent_sealed cfg frame.length route long (by omega)⟩
    rw [transit_sent_octet cfg frame.length route long (by omega) noError carries mac hop k (by omega) high, one]
    simp (disch := first | (simp; done) | (simp; omega))

def Onward {Station : Type} (net : Internet Station) (s t : Station × List UInt8) : Prop :=
  ¬ ErrorPending (net.network s.1) (ofList s.2) ∧ ∃ (table : Table) (r : Reception) (sent : Sent), r.octets = s.2 ∧
    sent ∈ (receive (net.network s.1) table r).sent ∧ sent.frame = t.2 ∧ net.linked s.1 sent.interface t.1

theorem datagram_wanders (Station : Type) (net : Internet Station) (dest : IpAddr) (hops : Nat) (s t : Station × List UInt8)
    (walk : Walk (Onward net) hops s t) (datagram : Datagram dest s.2) :
    Carried hops s.2 t.2 ∧ (0 < hops → hops < hopsLeft s.2 ∧ Sealed t.2) := by
  induction walk with
  | stay s => exact ⟨carried_refl s.2, fun positive => absurd positive (by omega)⟩
  | take n s mid t first rest ih =>
      obtain ⟨free, table, r, sent, octets, member, same, -⟩ := first
      obtain ⟨one, alive, whole⟩ := datagram_sent_on (net.network s.1) dest s.2 datagram table r octets free sent member
      rw [same] at one alive whole
      obtain ⟨carried, later⟩ := ih (carried_datagram 1 dest s.2 mid.2 one datagram)
      have ttl := one.ttl
      refine ⟨carried_trans 1 n s.2 mid.2 t.2 one carried, fun _ => ?_⟩
      cases rest with
      | stay => exact ⟨by omega, whole⟩
      | take n _ next _ _ _ =>
          obtain ⟨less, sealed⟩ := later (by omega)
          exact ⟨by omega, sealed⟩

theorem village_onward (a b : Fin 4) (i k : Nat) (hop : HopVia village (ipOctets 10 1 0 9) a b i k) (frame : List UInt8)
    (datagram : Datagram (ipOctets 10 1 0 9) frame) (lasting : 2 ≤ hopsLeft frame)
    (mine : LinkAddressed (village.network a) frame) : ∃ out, Onward village (a, frame) (b, out) ∧ Carried 1 frame out ∧
      LinkAddressed (village.network b) out := by
  obtain ⟨out, ⟨j, link, emits⟩, carried, between, -⟩ := hop_via_passes village _ a b i k hop frame datagram lasting mine
  have long := datagram.long
  have short := datagram.short
  have read : (⟨0, frame.length, ofList frame, 0, [], by omega, by omega⟩ : Reception).octets = frame := of_list_whole frame
  refine ⟨out, ⟨hop_via_free village _ a b i k hop frame datagram lasting, zeroTable, _, ⟨j, out⟩, read, ?_, rfl,
    link⟩, carried, between_addressed village a i b k out between⟩
  rw [emits zeroTable _ read]
  exact List.mem_singleton.mpr rfl

theorem datagram_wanders_village : ∃ out, Carried 2 (letter 64) out ∧ (0 < 2 → 2 < hopsLeft (letter 64) ∧ Sealed out) := by
  have hops := letter_ttl 64
  have start : (64 : UInt8).toNat = 64 := rfl
  have datagram := letter_datagram 64
  obtain ⟨mid, first, carried, addressed⟩ :=
    village_onward 1 2 1 0 village_first_hop (letter 64) datagram (by omega) (letter_addressed 64)
  have ttl := carried.ttl
  obtain ⟨out, second, -⟩ :=
    village_onward 2 3 1 0 village_second_hop mid (carried_datagram 1 _ _ mid carried datagram) (by omega) addressed
  exact ⟨out, datagram_wanders (Fin 4) village _ 2 (1, letter 64) (3, out)
    (.take 1 _ (2, mid) _ first (.take 0 _ (3, out) _ second (.stay _))) datagram⟩

end OsiStack
