import OsiStack.Inert
import OsiStack.IpOptions
import OsiStack.TrailingOctets

set_option autoImplicit false

namespace OsiStack

open Octets PeerSegment

def datagramOctets (m : Memory) : Nat := (ntohs (IpHeader.totalLength m)).toNat

-- The segment stands behind the whole header, which handle_tcp takes to be twenty octets.
def SegmentVerifies (m : Memory) : Prop :=
  let size := datagramOctets m - headerOctets m
  ipChecksum (pseudoHeader m (UInt16.ofNat size) ++ fetch m (14 + headerOctets m) size ++
      if (12 + size) % 2 = 0 then [] else [0]) = 0

instance (m : Memory) : Decidable (SegmentVerifies m) := inferInstanceAs (Decidable (ipChecksum _ = 0))

inductive Damaged (len : Nat) (m : Memory) : Prop
  | frame (mismatch : ¬ CheckSequence (fetch m 0 len))
  | header (ipv4 : ntohs (FrameFields.type m) = 2048) (wrong : ¬ HeaderVerifies m)
  | segment (ipv4 : ntohs (FrameFields.type m) = 2048) (tcp : IpHeader.protocol m = 6) (exact : len = 14 + datagramOctets m)
      (carried : headerOctets m ≤ datagramOctets m) (wrong : ¬ SegmentVerifies m)

def DamageLeavesNoTrace (cfg : Network) (table : Table) : Event → Prop
  | .frame r => Damaged r.len r.buffer → NoTrace table (receive cfg table r)
  | .input _ => True

def DamagedIsInert (cfg : Network) (table : Table) : Event → Prop
  | .frame r => Damaged r.len r.buffer → Inert cfg table r.len r.buffer
  | .input _ => True

theorem exact_segment_len (len : Nat) (m : Memory) (long : 34 ≤ len) (exact : len = 14 + datagramOctets m) :
    tcpSegmentLen m len = UInt16.ofNat (datagramOctets m - 20) := by
  rw [tcp_segment_len m len long, exact]
  congr 1
  omega

theorem plain_segment_verifies (m : Memory) (plain : headerOctets m = 20) :
    SegmentVerifies m ↔ calculateTcpChecksum m (UInt16.ofNat (datagramOctets m - 20)) = 0 := by
  have bound : datagramOctets m < 65536 := (ntohs (IpHeader.totalLength m)).toNat_lt
  have size : (UInt16.ofNat (datagramOctets m - 20)).toNat = datagramOctets m - 20 := by
    rw [UInt16.toNat_ofNat']
    exact Nat.mod_eq_of_lt (by omega)
  rw [SegmentVerifies, calculateTcpChecksum, htons_zero, plain, size]

theorem damaged_segment_announced (cfg : Config) (table : Table) (r : Reception) (accepted : Accepted cfg r)
    (exact : r.len = 14 + datagramOctets r.buffer) (plain : headerOctets r.buffer = 20) :
    Notice.incorrectChecksum ∈ (receive cfg table r).notices ↔ ¬ SegmentVerifies r.buffer := by
  have long := accepted.long
  rw [receive_verdict cfg table r accepted, plain_segment_verifies r.buffer plain,
    ← exact_segment_len r.len r.buffer (by omega) exact, tcp_segment_len r.buffer r.len (by omega), ne_eq, tcp_checksum_zero]

theorem damage_leaves_no_trace_iff (cfg : Network) (table : Table) (e : Event) :
    DamageLeavesNoTrace cfg table e ↔ DamagedIsInert cfg table e := by
  cases e with
  | input u => exact Iff.rfl
  | frame r => exact imp_congr_right fun _ => no_trace_iff cfg r.len r.buffer r.icmpCode r.draws table

theorem damaged_frames_leave_no_trace (cfg : Network) (events : List Event) :
    Runs.Always (step cfg) (DamageLeavesNoTrace cfg) zeroTable events ↔
      Runs.Always (step cfg) (DamagedIsInert cfg) zeroTable events :=
  Runs.always_congr (step cfg) (DamageLeavesNoTrace cfg) (DamagedIsInert cfg) (damage_leaves_no_trace_iff cfg) zeroTable events

def unsealedSyn : Memory :=
  let e1 := FrameFields.setDestAddr (fun _ => 0) tcpMac
  let e2 := FrameFields.setType e1 (htons 2048)
  let i1 := IpHeader.setVersionIhl e2 0x45
  let i2 := IpHeader.setTotalLength i1 (htons 50)
  let i3 := IpHeader.setTtl i2 64
  let i4 := IpHeader.setProtocol i3 6
  let i5 := IpHeader.setSrcAddr i4 (ipOctets 10 0 0 1)
  let i6 := IpHeader.setDestAddr i5 tcpIp
  let t1 := Tcp.setSrcPort i6 (htons 5000)
  let t2 := Tcp.setDestPort t1 (htons hostTcpPort)
  Tcp.setFlag t2 (htons (flagWord 5 2))

def unsealedArrival : Reception := ⟨0, 64, unsealedSyn, 0, [], by omega, by omega⟩

theorem damaged_syn_answered : Reachable soloConfig zeroTable ∧ ¬ CheckSequence (fetch unsealedSyn 0 64) ∧
    ¬ HeaderVerifies unsealedSyn ∧ 64 = 14 + datagramOctets unsealedSyn ∧ ¬ SegmentVerifies unsealedSyn ∧
    (receive soloConfig zeroTable unsealedArrival).sent.length = 1 ∧
    ((receive soloConfig zeroTable unsealedArrival).table 0).connectionStatus = 2 ∧
    ¬ DamageLeavesNoTrace soloConfig zeroTable (.frame unsealedArrival) := by
  have wrong : ¬ HeaderVerifies unsealedSyn := by decide +kernel
  have answered : (receive soloConfig zeroTable unsealedArrival).sent.length = 1 := by decide +kernel
  refine ⟨reachable_zero soloConfig, by decide +kernel, wrong, by decide +kernel, by decide +kernel, answered,
    by decide +kernel, ?_⟩
  intro quiet
  rw [(quiet (.header (by decide +kernel) wrong)).sent] at answered
  exact absurd answered (by decide)

end OsiStack
