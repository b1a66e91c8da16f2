import OsiStack.Inert

set_option autoImplicit false

namespace OsiStack

open Octets PeerSegment

structure Malformed (len : Nat) (m : Memory) : Prop where
  ipv4 : ntohs (FrameFields.type m) = 2048
  tcp : IpHeader.protocol m = 6
  destAddr : IpHeader.destAddr m = tcpIp
  destPort : ntohs (Tcp.destPort m) = hostTcpPort
  lasting : 2 ≤ IpHeader.ttl m
  lengths : (dataOffset m).toNat < 5 ∨ (ntohs (IpHeader.totalLength m)).toNat < 20 + 4 * (dataOffset m).toNat ∨
    len < 14 + (ntohs (IpHeader.totalLength m)).toNat

-- Neither of the two subtractions of handle_tcp and handle_tcp_payload wraps: the
-- payload count's, and a PSH/ACK's new total_length.
structure Unwrapped (table : Table) (draws : List UInt32) (len : Nat) (m : Memory) : Prop where
  dataOctets : ((dataOctets m len).toNat : Int) = len - 14 - 20 - (tcpHeaderLen m).toNat
  totalLength : controlBits m = 24 → ∀ j, SenderSlot table (sender m) j →
    ((ntohs (IpHeader.totalLength (handleTcp draws len m table false).frame)).toNat : Int) =
      (ntohs (IpHeader.totalLength m)).toNat - (hear m len).octets.toInt

structure Rejected (cfg : Network) (table : Table) (draws : List UInt32) (len : Nat) (m : Memory) (e : Effects) : Prop where
  noTrace : NoTrace table e
  unwrapped : ForTcpPort cfg len m → Unwrapped table draws len m

structure Fits (table : Table) (len : Nat) (m : Memory) : Prop where
  header : 34 + 4 * (dataOffset m).toNat ≤ len
  total : controlBits m = 24 → ∀ j, SenderSlot table (sender m) j →
    (ntohs (IpHeader.totalLength m)).toNat - payloadCount m len < 65536

structure Harmless (cfg : Network) (table : Table) (len : Nat) (m : Memory) : Prop where
  inert : Inert cfg table len m
  fits : ForTcpPort cfg len m → Fits table len m

theorem data_octets_unwrapped (m : Memory) (len : Nat) (short : len < 65536) :
    ((dataOctets m len).toNat : Int) = len - 14 - 20 - (tcpHeaderLen m).toNat ↔ 34 + 4 * (dataOffset m).toNat ≤ len := by
  have four := data_offset_lt m
  rw [data_octets_toNat, tcp_header_len_toNat]
  omega

theorem sub16_unwrapped (x : UInt16) (n : Int) :
    ((x - UInt16.ofInt n).toNat : Int) = x.toNat - n ↔ 0 ≤ x.toNat - n ∧ x.toNat - n < 65536 := by
  have bound := x.toNat_lt
  rw [UInt16.toNat_sub, of_int16_toNat]
  omega

section
variable (draws : List UInt32) (len : Nat) (m : Memory) (table : Table) (j : Fin tcpConnectionLimit)

theorem pushed_total_length (heard : refusal m = none) (chosen : slotFor table (sender m) = some j)
    (psh : controlBits m = 24) : ntohs (IpHeader.totalLength (handleTcp draws len m table false).frame) =
      ntohs (IpHeader.totalLength m) - UInt16.ofInt (hear m len).octets.toInt := by
  have header : (readHeader (handleTcp draws len m table false).frame).totalLength =
      ntohs (IpHeader.totalLength m) - UInt16.ofInt (hear m len).octets.toInt := by
    rw [handle_tcp_heard draws len m table j heard chosen]
    simp only [finish_tcp_header, firstPayload, handle_tcp_payload_kind, (kind_of_psh_ack (controlBits m)).mpr psh,
      handlePshAck, set_total_length_header, ntohs_ntohs, acknowledge]
    simp
  exact header

theorem unwrapped_iff (short : len < 65536) (heard : refusal m = none) :
    Unwrapped table draws len m ↔ 34 + 4 * (dataOffset m).toNat ≤ len ∧
      (controlBits m = 24 → ∀ j, SenderSlot table (sender m) j →
        0 ≤ (ntohs (IpHeader.totalLength m)).toNat - payloadCount m len ∧
          (ntohs (IpHeader.totalLength m)).toNat - payloadCount m len < 65536) := by
  have count : (hear m len).octets.toInt = payloadCount m len := octets_toInt m len
  have total (k : Fin tcpConnectionLimit) (psh : controlBits m = 24) (slot : SenderSlot table (sender m) k) :
      ((ntohs (IpHeader.totalLength (handleTcp draws len m table false).frame)).toNat : Int) =
        (ntohs (IpHeader.totalLength m)).toNat - (hear m len).octets.toInt ↔
      0 ≤ (ntohs (IpHeader.totalLength m)).toNat - payloadCount m len ∧
        (ntohs (IpHeader.totalLength m)).toNat - payloadCount m len < 65536 := by
    rw [pushed_total_length draws len m table k heard (sender_slot_chosen table _ k slot) psh, sub16_unwrapped, count]
  constructor
  · intro unwrapped
    exact ⟨(data_octets_unwrapped m len short).mp unwrapped.dataOctets,
      fun psh k slot => (total k psh slot).mp (unwrapped.totalLength psh k slot)⟩
  · rintro ⟨room, bounds⟩
    exact ⟨(data_octets_unwrapped m len short).mpr room, fun psh k slot => (total k psh slot).mpr (bounds psh k slot)⟩

end

theorem rejected_iff (cfg : Network) (table : Table) (r : Reception) :
    Rejected cfg table r.draws r.len r.buffer (receive cfg table r) ↔ Harmless cfg table r.len r.buffer := by
  have high := r.lenHigh
  have trace : NoTrace table (receive cfg table r) ↔ Inert cfg table r.len r.buffer :=
    no_trace_iff cfg r.len r.buffer r.icmpCode r.draws table
  have numbers (port : ForTcpPort cfg r.len r.buffer) := unwrapped_iff r.draws r.len r.buffer table (by omega)
    ((refusal_none r.buffer).mpr ⟨port.destAddr, port.destPort⟩)
  constructor
  · intro rejected
    refine ⟨trace.mp rejected.noTrace, fun port => ?_⟩
    obtain ⟨room, bounds⟩ := (numbers port).mp (rejected.unwrapped port)
    exact ⟨room, fun psh j slot => (bounds psh j slot).2⟩
  · intro harmless
    refine ⟨trace.mpr harmless.inert, fun port => (numbers port).mpr ⟨(harmless.fits port).header, fun psh j slot => ?_⟩⟩
    have counted := ((harmless.inert.swallowed port j slot).pshAck psh).1
    exact ⟨by omega, (harmless.fits port).total psh j slot⟩

def MalformedRejected (cfg : Network) (table : Table) : Event → Prop
  | .frame r => Malformed r.len r.buffer → Rejected cfg table r.draws r.len r.buffer (receive cfg table r)
  | .input _ => True

def MalformedHarmless (cfg : Network) (table : Table) : Event → Prop
  | .frame r => Malformed r.len r.buffer → Harmless cfg table r.len r.buffer
  | .input _ => True

theorem malformed_rejected_iff (cfg : Network) (table : Table) (e : Event) :
    MalformedRejected cfg table e ↔ MalformedHarmless cfg table e := by
  cases e with
  | input u => exact Iff.rfl
  | frame r => exact imp_congr_right fun _ => rejected_iff cfg table r

theorem malformed_lengths_rejected (cfg : Network) (events : List Event) :
    Runs.Always (step cfg) (MalformedRejected cfg) zeroTable events ↔
      Runs.Always (step cfg) (MalformedHarmless cfg) zeroTable events :=
  Runs.always_congr (step cfg) (MalformedRejected cfg) (MalformedHarmless cfg) (malformed_rejected_iff cfg) zeroTable events

def overlongHeader : Memory :=
  let syn := (visitor 100 0 2 []).buffer
  Tcp.setFlag syn (htons (flagWord 15 2))

def overlongArrival : Reception := { (visitor 100 0 2 []).arrival [] with buffer := overlongHeader }

theorem overlong_malformed : Malformed 64 overlongHeader :=
  ⟨by decide +kernel, by decide +kernel, by decide +kernel, by decide +kernel, by decide +kernel, by decide +kernel⟩

theorem overlong_header_answered : Reachable soloConfig zeroTable ∧ Malformed 64 overlongHeader ∧
    dataOctets overlongHeader 64 = 65506 ∧ (receive soloConfig zeroTable overlongArrival).sent.length = 1 ∧
    ((receive soloConfig zeroTable overlongArrival).table 0).connectionStatus = 2 ∧
    ¬ MalformedRejected soloConfig zeroTable (.frame overlongArrival) := by
  have answered : (receive soloConfig zeroTable overlongArrival).sent.length = 1 := by decide +kernel
  refine ⟨reachable_zero soloConfig, overlong_malformed, by decide +kernel, answered, by decide +kernel, ?_⟩
  intro rejected
  rw [(rejected overlong_malformed).noTrace.sent] at answered
  exact absurd answered (by decide)

end OsiStack
