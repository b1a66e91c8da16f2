import OsiStack.Answer
import OsiStack.Receiver
import OsiStack.TcpChecksum

set_option autoImplicit false

namespace OsiStack

open Octets

def CheckSequence (frame : List UInt8) : Prop :=
  frame.drop (frame.length - 4) = bytes32 (crc32 0 (frame.take (frame.length - 4)))

instance (frame : List UInt8) : Decidable (CheckSequence frame) := inferInstanceAs (Decidable (frame.drop _ = _))

structure Sealed (frame : List UInt8) : Prop where
  checkSequence : CheckSequence frame
  header : ipChecksum (fetch (ofList frame) 14 20) = 0

theorem fetch_take (m : Memory) (off n k : Nat) (inside : k ≤ n) : (fetch m off n).take k = fetch m off k := by
  obtain ⟨rest, rfl⟩ := Nat.exists_eq_add_of_le inside
  rw [fetch_add, List.take_left' (fetch_length m off k)]

theorem fetch_drop (m : Memory) (off n k : Nat) (inside : k ≤ n) : (fetch m off n).drop k = fetch m (off + k) (n - k) := by
  obtain ⟨rest, rfl⟩ := Nat.exists_eq_add_of_le inside
  rw [fetch_add, List.drop_left' (fetch_length m off k), Nat.add_sub_cancel_left]

theorem of_list_whole (bytes : List UInt8) : fetch (ofList bytes) 0 bytes.length = bytes := by
  apply List.ext_getElem (by simp)
  intro i _ bound
  simp [fetch, ofList, List.getD, bound]

theorem check_sequence_long (frame : List UInt8) (checked : CheckSequence frame) : 4 ≤ frame.length := by
  have size := congrArg List.length checked
  rw [List.length_drop, bytes32_length] at size
  omega

theorem check_sequence_match (cfg : Network) (frame : List UInt8) (checked : CheckSequence frame) :
    (handleFrame cfg frame.length (ofList frame)).checkSumMatch = true := by
  have long := check_sequence_long frame checked
  have tail : fetch (ofList frame) (frame.length - 4) 4 = frame.drop (frame.length - 4) := by
    conv_rhs => rw [← of_list_whole frame]
    rw [fetch_drop _ _ _ _ (by simp), Nat.zero_add, fetch_length]
    congr 1
    omega
  have head : fetch (ofList frame) 0 (frame.length - 4) = frame.take (frame.length - 4) := by
    conv_rhs => rw [← of_list_whole frame]
    rw [fetch_take _ _ _ _ (by simp), fetch_length]
  rw [handleFrame, decide_eq_true_iff, load32, tail, head, checked, word32_bytes32]

theorem emitted_check_sequence (interface : Nat) (m : Memory) (len : Nat) (long : 4 ≤ len) (short : len < 65536) :
    CheckSequence (sendEthernetFrame interface (store32 m (len - 4) (crc32 0 (fetch m 0 (len - 4)))) len).frame := by
  rw [CheckSequence, sent_length _ _ _ short, sendEthernetFrame, Nat.mod_eq_of_lt short, fetch_drop _ _ _ _ (by omega),
    fetch_take _ _ _ _ (by omega), fetch_store_outside _ 0 (len - 4) _ _ (by omega), Nat.zero_add]
  exact fetch_store_same m (len - 4) (len - (len - 4)) _ (by rw [bytes32_length]; omega)

theorem ip_checksum_store (m : Memory) (off n place : Nat) (even : place % 2 = 0) (blank : fetch m (off + place) 2 = [0, 0])
    (inside : place + 2 ≤ n) :
    ipChecksum (fetch (store16 m (off + place) (htons (ipChecksum (fetch m off n)))) off n) = 0 := by
  generalize sumEq : ipChecksum (fetch m off n) = sum
  generalize resultEq : store16 m (off + place) (htons sum) = result
  obtain ⟨rest, rfl⟩ := Nat.exists_eq_add_of_le inside
  have bound := sum.toNat_lt
  have filled : fetch result (off + place) 2 = [UInt8.ofNat (sum.toNat / 256), UInt8.ofNat sum.toNat] := by
    rw [← resultEq, fetch_store_same m (off + place) 2 (bytes16 (htons sum)) rfl, bytes16_htons]
  have before : fetch result off place = fetch m off place := by
    rw [← resultEq]
    exact fetch_store_outside m off place _ _ (by omega)
  have after : fetch result (off + (place + 2)) rest = fetch m (off + (place + 2)) rest := by
    rw [← resultEq]
    exact fetch_store_outside m _ rest _ _ (by simp; omega)
  have around (m' : Memory) : fetch m' off (place + 2 + rest) =
      fetch m' off place ++ fetch m' (off + place) 2 ++ fetch m' (off + (place + 2)) rest := by
    rw [fetch_add, fetch_add]
  rw [around, blank] at sumEq
  rw [around, before, filled, after]
  apply ip_checksum_fill _ _ _ _ (by rw [fetch_length]; exact even)
  rw [sumEq]
  simp only [UInt8.toNat_ofNat']
  omega

section
variable (m : Memory) (len : Nat) (flag : Bool)

theorem seal_frame_header (room : 38 ≤ (sealFrame m len flag).len) :
    ipChecksum (fetch (sealFrame m len flag).frame 14 20) = 0 := by
  generalize blankEq : store (IpHeader.setTtl m (IpHeader.ttl m)) 24 [0, 0] = blank
  have zero : fetch blank (14 + 10) 2 = [0, 0] := by
    rw [← blankEq]
    exact fetch_store_same _ 24 2 [0, 0] rfl
  have summed := ip_checksum_store blank 14 20 10 (by omega) zero (by omega)
  rw [← summed]
  congr 1
  simp only [sealFrame, blankEq] at room ⊢
  exact fetch_store_outside _ 14 20 _ _ (by omega)

theorem seal_frame_check_sequence (interface : Nat) (room : 4 ≤ (sealFrame m len flag).len)
    (short : (sealFrame m len flag).len < 65536) :
    CheckSequence (sendEthernetFrame interface (sealFrame m len flag).frame (sealFrame m len flag).len).frame :=
  emitted_check_sequence interface _ _ room short

theorem seal_frame_sealed (interface : Nat) (room : 38 ≤ (sealFrame m len flag).len)
    (short : (sealFrame m len flag).len < 65536) :
    Sealed (sendEthernetFrame interface (sealFrame m len flag).frame (sealFrame m len flag).len).frame where
  checkSequence := seal_frame_check_sequence m len flag interface (by omega) short
  header := by
    rw [← seal_frame_header m len flag room]
    congr 1
    exact fetch_congr _ _ 14 20 fun i _ high => sent_octet interface _ _ i (by omega) short

end

section
variable (cfg : Network) (m : Memory) (len : Nat) (destAddr : Option MacAddr) (icmp : Icmp) (error : Bool)
variable (transmitter : Nat) (flag : Bool)

theorem encapsulation_len_le : (encapsulation cfg m len destAddr icmp error transmitter flag).len ≤ max 74 (len + 4) ∧
    min 74 len ≤ (encapsulation cfg m len destAddr icmp error transmitter flag).len := by
  cases error with
  | true =>
      rw [(encapsulation_error cfg m len destAddr icmp transmitter flag).2]
      omega
  | false =>
      rw [encapsulation_len]
      split <;> omega

theorem encapsulation_sealed (interface : Nat) (room : 38 ≤ (encapsulation cfg m len destAddr icmp error transmitter flag).len)
    (short : (encapsulation cfg m len destAddr icmp error transmitter flag).len < 65536) :
    Sealed (sendEthernetFrame interface (encapsulation cfg m len destAddr icmp error transmitter flag).frame
      (encapsulation cfg m len destAddr icmp error transmitter flag).len).frame := by
  unfold encapsulation at room short ⊢
  cases error with
  | true => exact seal_frame_sealed _ 74 flag interface room short
  | false => exact seal_frame_sealed _ len flag interface room short

end

end OsiStack
