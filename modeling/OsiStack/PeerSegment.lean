import OsiStack.Segment
import OsiStack.TcpChecksum

set_option autoImplicit false

namespace OsiStack

open Octets

def soloConfig : Config where
  routingTable := []
  arpCache := []
  interfaceList := [⟨tcpMac, tcpIp⟩]
  tcpIpLocal := tcp_ip_alone

structure PeerSegment where
  mac : MacAddr
  ipAddr : IpAddr
  port : UInt16
  seq : UInt32
  ack : UInt32
  bits : UInt16
  ttl : UInt8
  payload : List UInt8
  fits : payload.length ≤ 1460

namespace PeerSegment

def buffer (s : PeerSegment) : Memory :=
  let e1 := FrameFields.setDestAddr (fun _ => 0) tcpMac
  let e2 := FrameFields.setSrcAddr e1 s.mac
  let e3 := FrameFields.setType e2 (htons 0x0800)
  let i1 := IpHeader.setVersionIhl e3 0x45
  let i2 := IpHeader.setTotalLength i1 (htons (UInt16.ofNat (40 + s.payload.length)))
  let i3 := IpHeader.setTtl i2 s.ttl
  let i4 := IpHeader.setProtocol i3 6
  let i5 := IpHeader.setSrcAddr i4 s.ipAddr
  let i6 := IpHeader.setDestAddr i5 tcpIp
  let i7 := IpHeader.setHeaderChecksum i6 (htons (ipChecksum (fetch i6 14 20)))
  let t1 := Tcp.setSrcPort i7 (htons s.port)
  let t2 := Tcp.setDestPort t1 (htons hostTcpPort)
  let t3 := Tcp.setSeqNumber t2 (htonl s.seq)
  let t4 := Tcp.setAckNumber t3 (htonl s.ack)
  let t5 := Tcp.setFlag t4 (htons (flagWord 5 s.bits))
  let t6 := Tcp.setWindow t5 (htons 65535)
  let t7 := store t6 54 s.payload
  Tcp.setChecksum t7 (calculateTcpChecksum t7 (UInt16.ofNat (20 + s.payload.length)))

def arrival (s : PeerSegment) (draws : List UInt32) : Reception where
  netId := 0
  len := max 64 (54 + s.payload.length)
  buffer := s.buffer
  icmpCode := 0
  draws := draws
  lenLow := by omega
  lenHigh := by have := s.fits; omega

section
variable (s : PeerSegment) (draws : List UInt32)

theorem arrival_header (low : s.bits.toNat < 64) : readHeader (s.arrival draws).buffer =
    ⟨s.ipAddr, tcpIp, s.port, hostTcpPort, s.seq, s.ack, 5, s.bits.toUInt8, UInt16.ofNat (40 + s.payload.length)⟩ := by
  have offset := flag_word_offset 5 s.bits (by decide) low
  have bits := flag_word_bits 5 s.bits (by decide) low
  simp [readHeader, arrival, buffer, dataOffset, controlBits] at offset bits ⊢
  exact ⟨offset, bits⟩

omit draws in
theorem buffer_verifies : calculateTcpChecksum s.buffer (UInt16.ofNat (20 + s.payload.length)) = 0 := by
  have fits := s.fits
  apply set_checksum_verifies
  · rw [UInt16.toNat_ofNat']
    omega
  · refine fetch_congr _ (fun _ => 0) 50 2 fun i low high => ?_
    simp (disch := first | omega | (simp; omega))

theorem arrival_accepted (alive : s.ttl ≠ 0) : Accepted soloConfig (s.arrival draws) where
  long := by simp [arrival]
  unicast := by
    simp [arrival, buffer]
    decide
  forMe := by simp [arrival, buffer, ethCmp, soloConfig]
  ipv4 := by simp [arrival, buffer]
  filled := by
    have fits := s.fits
    simp [arrival, buffer]
    omega
  alive := by simpa [arrival, buffer] using alive
  tcp := by simp [arrival, buffer]
  heard := by simp [refusal_none, arrival, buffer]

theorem arrival_heard (low : s.bits.toNat < 64) : (s.arrival draws).heard =
    ⟨(s.ipAddr, s.port), s.mac, s.seq, s.ack, kindOf s.bits.toUInt8,
      (dataOctets (s.arrival draws).buffer (s.arrival draws).len).toUInt8.toInt8, 5,
      UInt16.ofNat (40 + s.payload.length)⟩ := by
  have header := arrival_header s draws low
  simp only [readHeader, Header.mk.injEq] at header
  obtain ⟨src, -, port, -, seq, ack, offset, bits, total⟩ := header
  simp only [Reception.heard, hear, src, port, seq, ack, offset, bits, total]
  simp [arrival, buffer]

theorem arrival_payload_len (low : s.bits.toNat < 64) : payloadLen (s.arrival draws).buffer = s.payload.length := by
  have fits := s.fits
  have five : (5 : UInt8).toNat = 5 := rfl
  rw [payload_len_header, arrival_header s draws low]
  simp only [UInt16.toNat_ofNat', five]
  omega

theorem arrival_well_formed (low : s.bits.toNat < 64) (lasting : 2 ≤ s.ttl) (unpadded : 10 ≤ s.payload.length) :
    WellFormed (s.arrival draws).buffer (s.arrival draws).len := by
  have fits := s.fits
  have header := arrival_header s draws low
  have offset : dataOffset (s.arrival draws).buffer = 5 := congrArg Header.offset header
  have total : ntohs (IpHeader.totalLength (s.arrival draws).buffer) = UInt16.ofNat (40 + s.payload.length) :=
    congrArg Header.totalLength header
  have five : (5 : UInt8).toNat = 5 := rfl
  refine ⟨by simp [arrival, buffer], ?_, by simp [arrival, buffer], by simp [arrival, buffer],
    by simp [arrival, buffer], by simpa [arrival, buffer] using lasting, ?_, ?_, ?_⟩
  · simp [arrival, buffer]
    decide
  · rw [offset, five]
  · rw [offset, total, five, UInt16.toNat_ofNat']
    omega
  · rw [total, UInt16.toNat_ofNat']
    simp only [arrival]
    omega

end

def visitor (seq ack : UInt32) (bits : UInt16) (payload : List UInt8) : PeerSegment where
  mac := macOctets 0x02 0x00 0x00 0x00 0x00 0x01
  ipAddr := ipOctets 0x0A 0x00 0x00 0x01
  port := 5000
  seq := seq
  ack := ack
  bits := bits
  ttl := 64
  payload := payload.take 1460
  fits := by simp

def arrives (seq ack : UInt32) (bits : UInt16) (payload : List UInt8) : Event :=
  .frame ((visitor seq ack bits payload).arrival [htonl 777])

def opening : List Event := [arrives 100 0 2 [], arrives 101 778 16 []]

end PeerSegment

open PeerSegment

def visited : Table := Runs.run (step soloConfig) zeroTable opening

def visitorText (bits : UInt16) : Reception := (visitor 101 778 bits (List.replicate 10 65)).arrival []

theorem visited_reachable : Reachable soloConfig visited := ⟨opening, rfl⟩

theorem visitor_text_well_formed (bits : UInt16) (low : bits.toNat < 64) :
    WellFormed (visitorText bits).buffer (visitorText bits).len :=
  arrival_well_formed _ [] low (show (2 : UInt8) ≤ 64 by decide) (by simp [visitor])

theorem visitor_text_len (bits : UInt16) (low : bits.toNat < 64) : payloadLen (visitorText bits).buffer = 10 :=
  (arrival_payload_len _ [] low).trans (by simp [visitor])

end OsiStack
