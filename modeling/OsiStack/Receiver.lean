import OsiStack.Packet
import OsiStack.Interaction
import OsiStack.Runs

set_option autoImplicit false

namespace OsiStack

open Octets

structure FrameFlags where
  isBroadcast : Bool
  isForMe : Bool
  checkSumMatch : Bool
  validLength : Bool
deriving DecidableEq

def broadcastAddr : MacAddr := macOctets 0xff 0xff 0xff 0xff 0xff 0xff

def ethCmp (cfg : Network) (m : Memory) : Option Nat :=
  cfg.interfaceList.findIdx? fun iface => decide (iface.macAddr = FrameFields.destAddr m)

def handleFrame (cfg : Network) (len : Nat) (m : Memory) : FrameFlags where
  isBroadcast := decide (FrameFields.destAddr m = broadcastAddr)
  isForMe := (ethCmp cfg m).isSome
  checkSumMatch := decide (load32 m (len - 4) = crc32 0 (fetch m 0 (len - 4)))
  validLength := decide (¬ (len : Int) - 14 - 4 < 46)

namespace Arp
abbrev opcode (m : Memory) : UInt16 := load16 m 20
abbrev senderIp (m : Memory) : IpAddr := loadOctets m 28 4
abbrev targetIp (m : Memory) : IpAddr := loadOctets m 38 4
abbrev setOpcode (m : Memory) (v : UInt16) : Memory := store16 m 20 v
abbrev setSenderMac (m : Memory) (v : MacAddr) : Memory := storeOctets m 22 v
abbrev setSenderIp (m : Memory) (v : IpAddr) : Memory := storeOctets m 28 v
abbrev setTargetMac (m : Memory) (v : MacAddr) : Memory := storeOctets m 32 v
abbrev setTargetIp (m : Memory) (v : IpAddr) : Memory := storeOctets m 38 v
end Arp

def handleArp (cfg : Network) (m : Memory) (len : Nat) : List Sent :=
  if ntohs (Arp.opcode m) = 1 then
    match isInterface cfg (Arp.targetIp m) with
    | none => []
    | some idx =>
        let iface := interfaceAt cfg idx
        let m1 := FrameFields.setDestAddr m (FrameFields.srcAddr m)
        let m2 := FrameFields.setSrcAddr m1 iface.macAddr
        let m3 := Arp.setTargetMac m2 (FrameFields.destAddr m2)
        let m4 := Arp.setTargetIp m3 (Arp.senderIp m3)
        let m5 := Arp.setSenderIp m4 iface.ipAddr
        let m6 := Arp.setSenderMac m5 iface.macAddr
        let m7 := Arp.setOpcode m6 (htons 2)
        let m8 := store32 m7 (len - 4) (crc32 0 (fetch m7 0 (len - 4)))
        [sendEthernetFrame idx m8 len]
  else []

-- The frame check result is computed but the branch on it is commented out.
-- `icmpCode` is what the uninitialised code of curr_packet_icmp holds.
def interfaceReceiver (cfg : Network) (len : Nat) (frame : Memory) (icmpCode : Nat) (draws : List UInt32)
    (table : Table) : Effects :=
  if len = 0 then noEffect table
  else
    let flags := handleFrame cfg len frame
    if ¬ flags.validLength then noEffect table
    else if flags.isBroadcast then
      if ntohs (FrameFields.type frame) = 2054 then ⟨table, handleArp cfg frame len, [], []⟩ else noEffect table
    else
      match ethCmp cfg frame with
      | none => noEffect table
      | some receiver =>
          if ntohs (FrameFields.type frame) = 2048 then handlePacket cfg draws len frame ⟨1, icmpCode⟩ receiver table
          else noEffect table

-- One frame read off interface `netId`. Only the first `len` octets of the stack
-- buffer come from the wire; the rest, and `icmpCode`, are whatever was there.
structure Reception where
  netId : Nat
  len : Nat
  buffer : Memory
  icmpCode : Nat
  draws : List UInt32
  lenLow : 4 ≤ len
  lenHigh : len ≤ 1596

structure UserRead where
  text : List UInt8
  fits : text.length ≤ 1023

inductive Event where
  | frame (r : Reception)
  | input (u : UserRead)

def receive (cfg : Network) (table : Table) (r : Reception) : Effects :=
  interfaceReceiver cfg r.len r.buffer r.icmpCode r.draws table

def interact (table : Table) (u : UserRead) : Interaction := interactionHandler 0 table u.text

def react (cfg : Network) (table : Table) : Event → Effects
  | .frame r => receive cfg table r
  | .input u => ⟨(interact table u).table, (interact table u).sent, [], []⟩

def step (cfg : Network) (table : Table) (e : Event) : Table := (react cfg table e).table

def Reachable (cfg : Network) (table : Table) : Prop := ∃ events, Runs.run (step cfg) zeroTable events = table

theorem reachable_zero (cfg : Network) : Reachable cfg zeroTable := ⟨[], rfl⟩

theorem reachable_invariant (cfg : Network) (Inv : Table → Prop) (start : Inv zeroTable)
    (preserved : ∀ table e, Inv table → Inv (step cfg table e)) (table : Table) (reached : Reachable cfg table) :
    Inv table := by
  obtain ⟨events, same⟩ := reached
  rw [← same]
  exact Runs.run_invariant (step cfg) Inv preserved zeroTable events start

end OsiStack
