import OsiStack.Console

set_option autoImplicit false

namespace OsiStack

open Octets

def payloadLen (m : Memory) : Nat := (ntohs (IpHeader.totalLength m)).toNat - 20 - 4 * (dataOffset m).toNat

theorem payload_len_header (m : Memory) :
    payloadLen m = (readHeader m).totalLength.toNat - 20 - 4 * (readHeader m).offset.toNat := rfl

structure WellFormed (m : Memory) (len : Nat) : Prop where
  ipv4 : ntohs (FrameFields.type m) = 2048
  ihl : IpHeader.versionIhl m &&& 0xF = 5
  tcp : IpHeader.protocol m = 6
  destAddr : IpHeader.destAddr m = tcpIp
  destPort : ntohs (Tcp.destPort m) = hostTcpPort
  lasting : 2 ≤ IpHeader.ttl m
  offset : 5 ≤ (dataOffset m).toNat
  fits : 20 + 4 * (dataOffset m).toNat ≤ (ntohs (IpHeader.totalLength m)).toNat
  size : len = 14 + (ntohs (IpHeader.totalLength m)).toNat

structure Unpadded (m : Memory) (len : Nat) : Prop where
  offset : 5 ≤ (dataOffset m).toNat
  fits : 20 + 4 * (dataOffset m).toNat ≤ (ntohs (IpHeader.totalLength m)).toNat
  size : len = 14 + (ntohs (IpHeader.totalLength m)).toNat

namespace Unpadded

section
variable {m : Memory} {len : Nat} (whole : Unpadded m len)
include whole

theorem len_eq : len = 34 + 4 * (dataOffset m).toNat + payloadLen m := by
  have size := whole.size
  have fits := whole.fits
  rw [payloadLen]
  omega

-- The narrowed count is the payload's length modulo 256, as a signed octet.
theorem octets : (hear m len).octets.toInt = (payloadLen m : Int).bmod 256 := by
  rw [octets_toInt, whole.len_eq]
  congr 1
  omega

theorem octets_small (small : payloadLen m ≤ 127) : (hear m len).octets.toInt = payloadLen m := by
  rw [whole.octets, Int.bmod_def]
  split <;> omega

end

end Unpadded

namespace WellFormed

section
variable {m : Memory} {len : Nat} (wf : WellFormed m len)
include wf

theorem unpadded : Unpadded m len := ⟨wf.offset, wf.fits, wf.size⟩

theorem heard : refusal m = none := (refusal_none m).mpr ⟨wf.destAddr, wf.destPort⟩

theorem ttl_ne (v : UInt8) (low : v < 2) : IpHeader.ttl m ≠ v := octet_ne _ v wf.lasting low

theorem len_eq : len = 34 + 4 * (dataOffset m).toNat + payloadLen m := wf.unpadded.len_eq

theorem octets : (hear m len).octets.toInt = (payloadLen m : Int).bmod 256 := wf.unpadded.octets

theorem octets_small (small : payloadLen m ≤ 127) : (hear m len).octets.toInt = payloadLen m :=
  wf.unpadded.octets_small small

theorem handled (cfg : Config) (draws : List UInt32) (icmp : Icmp) (receiver : Nat) (table : Table) :
    handlePacket cfg draws len m icmp receiver table =
      handleTcpPacket cfg draws len (localRouting m icmp receiver) table :=
  handle_packet_tcp cfg draws len m icmp receiver table (by have := wf.fits; have := wf.offset; omega)
    (wf.ttl_ne 0 (by decide)) wf.tcp wf.destAddr

theorem routed (icmp : Icmp) (receiver : Nat) : (localRouting m icmp receiver).error = false := by
  simp [localRouting, wf.ttl_ne 1 (by decide)]

theorem answers (cfg : Config) (draws : List UInt32) (icmp : Icmp) (receiver : Nat) (table : Table) (short : len < 65000)
    (i : Fin tcpConnectionLimit) (chosen : slotFor table (hear m len).peer = some i) :
    List.Forall₂ (Answers (hear m len) draws len (localRouting m icmp receiver))
      (handlePacket cfg draws len m icmp receiver table).sent ((hear m len).flags (table i)) := by
  rw [wf.handled]
  exact handle_tcp_packet_answers cfg draws len (localRouting m icmp receiver) table i wf.heard chosen wf.tcp
    (wf.routed icmp receiver) (by have := wf.len_eq; have := wf.offset; omega) short

theorem table_heard (cfg : Config) (draws : List UInt32) (icmp : Icmp) (receiver : Nat) (table : Table)
    (i : Fin tcpConnectionLimit) (chosen : slotFor table (hear m len).peer = some i) :
    (handlePacket cfg draws len m icmp receiver table).table =
      Function.update table i ((hear m len).outcome (table i)) := by
  rw [wf.handled]
  exact handle_tcp_packet_heard cfg draws len (localRouting m icmp receiver) table i wf.heard chosen
    (by have := wf.len_eq; have := wf.offset; omega) (Or.inl (wf.routed icmp receiver))

theorem console (cfg : Config) (draws : List UInt32) (icmp : Icmp) (receiver : Nat) (table : Table)
    (i : Fin tcpConnectionLimit) (chosen : slotFor table (hear m len).peer = some i) :
    (handlePacket cfg draws len m icmp receiver table).console =
      fetch m (34 + 4 * (dataOffset m).toNat) ((hear m len).printed (table i)) := by
  rw [wf.handled]
  exact packet_console cfg draws len (localRouting m icmp receiver) table i wf.heard chosen
    (by have offset := wf.offset; exact Nat.le_of_lt offset)

theorem unanswered (cfg : Config) (draws : List UInt32) (icmp : Icmp) (receiver : Nat) (table : Table)
    (full : slotFor table (hear m len).peer = none) : (handlePacket cfg draws len m icmp receiver table).sent = [] := by
  rw [wf.handled, handle_tcp_packet_full cfg draws len (localRouting m icmp receiver) table wf.heard full]

end

end WellFormed

end OsiStack
