import OsiStack.Receiver
import OsiStack.ShiftRegister

set_option autoImplicit false

namespace OsiStack

open Octets ShiftRegister

def crc32Poly : BitVec 32 := 0xEDB88320

def octetBits (octet : UInt8) : List Bool := (List.range 8).map octet.toNat.testBit

-- Bit `b` of octet `off + i` is at place `8 * i + b`.
def frameBits (m : Memory) (off n : Nat) : List Bool :=
  (List.range (8 * n)).map fun place => (m (off + place / 8)).toNat.testBit (place % 8)

theorem crc32_tab_entry (k : Fin 256) :
    (crc32Tab.getD k 0).toBitVec = (bitStep crc32Poly)^[8] (BitVec.ofNat 32 k) := by
  revert k
  decide +kernel

theorem octet_bits_value (octet : UInt8) : bitValue (octetBits octet) = octet.toNat := by
  rw [octetBits, bit_value_digits]
  exact Nat.mod_eq_of_lt octet.toNat_lt

theorem octet_moved_out (octet : UInt8) : octet.toUInt32.toBitVec >>> 8 = 0#32 := by
  have bound := octet.toNat_lt
  apply BitVec.eq_of_toNat_eq
  rw [BitVec.toNat_ushiftRight, UInt32.toNat_toBitVec, UInt8.toNat_toUInt32, Nat.shiftRight_eq_div_pow]
  simp
  omega

theorem crc32_step_bits (crc : UInt32) (octet : UInt8) :
    (crc32Step crc octet).toBitVec = feed crc32Poly crc.toBitVec (octetBits octet) := by
  have size : (octetBits octet).length = 8 := by simp [octetBits]
  have fed := feed_word crc32Poly (octetBits octet) crc.toBitVec (by rw [size]; decide)
  have word : octet.toUInt32.toBitVec = BitVec.ofNat 32 octet.toNat := by
    apply BitVec.eq_of_toNat_eq
    have bound := octet.toNat_lt
    rw [UInt32.toNat_toBitVec, UInt8.toNat_toUInt32, BitVec.toNat_ofNat, Nat.mod_eq_of_lt (by omega)]
  have mixed : (crc ^^^ octet.toUInt32).toBitVec = crc.toBitVec ^^^ BitVec.ofNat 32 octet.toNat := by
    rw [UInt32.toBitVec_xor, word]
  have index : ((crc ^^^ octet.toUInt32) &&& 0xFF).toNat = (crc ^^^ octet.toUInt32).toNat % 2 ^ 8 := by
    rw [UInt32.toNat_and]
    exact Nat.and_two_pow_sub_one_eq_mod _ 8
  have entry := crc32_tab_entry ⟨(crc ^^^ octet.toUInt32).toNat % 2 ^ 8, Nat.mod_lt _ (by decide)⟩
  have moved : (crc ^^^ octet.toUInt32).toBitVec >>> 8 = crc.toBitVec >>> 8 := by
    rw [UInt32.toBitVec_xor, BitVec.ushiftRight_xor_distrib, octet_moved_out, BitVec.xor_zero]
  have looked : (crc32Step crc octet).toBitVec =
      (bitStep crc32Poly)^[8] (BitVec.ofNat 32 ((crc ^^^ octet.toUInt32).toBitVec.toNat % 2 ^ 8)) ^^^ crc.toBitVec >>> 8 := by
    rw [crc32Step, index, UInt32.toBitVec_xor, UInt32.toBitVec_shiftRight, entry]
    rfl
  rw [looked, fed, size, octet_bits_value, ← mixed, ← moved]
  exact (steps_split crc32Poly 8 (crc ^^^ octet.toUInt32).toBitVec).symm

theorem frame_bits_add (m : Memory) (off a b : Nat) :
    frameBits m off (a + b) = frameBits m off a ++ frameBits m (off + a) b := by
  rw [frameBits, Nat.mul_add, List.range_add, List.map_append, List.map_map]
  congr 1
  apply List.map_congr_left
  intro place _
  have octet : (8 * a + place) / 8 = a + place / 8 := by omega
  have bit : (8 * a + place) % 8 = place % 8 := by omega
  simp [octet, bit, Nat.add_assoc]

theorem frame_bits_octet (m : Memory) (off : Nat) : frameBits m off 1 = octetBits (m off) := by
  apply List.map_congr_left
  intro place member
  have bound := List.mem_range.mp member
  have octet : place / 8 = 0 := by omega
  have bit : place % 8 = place := by omega
  rw [octet, bit, Nat.add_zero]

theorem crc_register (m : Memory) (n : Nat) (crc : UInt32) :
    ((fetch m 0 n).foldl crc32Step crc).toBitVec = feed crc32Poly crc.toBitVec (frameBits m 0 n) := by
  induction n with
  | zero => rfl
  | succ n ih =>
      rw [fetch_add, List.foldl_append, frame_bits_add, feed_append, ← ih, frame_bits_octet, ← crc32_step_bits]
      rfl

theorem check_sequence_value (m : Memory) (off : Nat) : bitValue (frameBits m off 4) = (load32 m off).toNat := by
  have sizes (k : Nat) : (octetBits (m k)).length = 8 := by simp [octetBits]
  have first := (m off).toNat_lt
  have second := (m (off + 1)).toNat_lt
  have third := (m (off + 2)).toNat_lt
  have fourth := (m (off + 3)).toNat_lt
  rw [frame_bits_add m off 1 3, frame_bits_add m (off + 1) 1 2, frame_bits_add m (off + 2) 1 1]
  simp only [frame_bits_octet, bit_value_append, octet_bits_value, sizes, Nat.add_assoc, Nat.reduceAdd]
  simp [load32, word32, fetch, List.range_succ]
  omega

-- What the register holds after a frame that is accepted, whatever the frame.
def crc32Residue : BitVec 32 := (bitStep crc32Poly)^[32] 0xFFFFFFFF

theorem crc32_poly_monic : crc32Poly.getLsbD (32 - 1) = true := by decide

theorem check_sum_match_residue (cfg : Network) (m : Memory) (n : Nat) : (handleFrame cfg (n + 4) m).checkSumMatch = true ↔
    feed crc32Poly 0xFFFFFFFF (frameBits m 0 (n + 4)) = crc32Residue := by
  generalize registerEq : feed crc32Poly 0xFFFFFFFF (frameBits m 0 n) = register
  have size : (frameBits m n 4).length = 32 := by simp [frameBits]
  have computed : (crc32 0 (fetch m 0 n)).toBitVec = register ^^^ 0xFFFFFFFF := by
    rw [← registerEq, crc32, UInt32.toBitVec_xor, crc_register]
    rfl
  have fed := feed_word crc32Poly (frameBits m n 4) register (by rw [size])
  have word : BitVec.ofNat 32 (load32 m n).toNat = (load32 m n).toBitVec := by
    rw [← UInt32.toNat_toBitVec, BitVec.ofNat_toNat, BitVec.setWidth_eq]
  rw [frame_bits_add, feed_append, registerEq, Nat.zero_add, fed, size, check_sequence_value, word, handleFrame,
    decide_eq_true_iff, Nat.add_sub_cancel, ← UInt32.toBitVec_inj, computed, crc32Residue]
  constructor
  · intro same
    rw [same, ← BitVec.xor_assoc, BitVec.xor_self, BitVec.zero_xor]
  · intro same
    have ones := steps_injective crc32Poly crc32_poly_monic 32 _ _ same
    rw [← ones, ← BitVec.xor_assoc, BitVec.xor_self, BitVec.zero_xor]

def Burst (m m' : Memory) (len start : Nat) : Prop :=
  ∀ i b, i < len → b < 8 → (m i).toNat.testBit b ≠ (m' i).toNat.testBit b → start ≤ 8 * i + b ∧ 8 * i + b < start + 32

theorem frame_bits_same (m m' : Memory) (len : Nat) (same : frameBits m 0 len = frameBits m' 0 len) (i : Nat)
    (inside : i < len) : m i = m' i := by
  apply UInt8.toNat_inj.mp
  apply Nat.eq_of_testBit_eq
  intro b
  by_cases low : b < 8
  · have bits := congrArg (fun bits => bits.getD (8 * i + b) false) same
    have octet : (8 * i + b) / 8 = i := by omega
    have bit : (8 * i + b) % 8 = b := by omega
    have bound : 8 * i + b < 8 * len := by omega
    simpa [frameBits, List.getD, bound, octet, bit] using bits
  · have bound := (m i).toNat_lt
    have bound' := (m' i).toNat_lt
    have grows : 2 ^ 8 ≤ 2 ^ b := Nat.pow_le_pow_right (by decide) (by omega)
    rw [Nat.testBit_lt_two_pow (by omega), Nat.testBit_lt_two_pow (by omega)]

theorem frame_bits_outside (m m' : Memory) (len start : Nat) (burst : Burst m m' len start) (place : Nat)
    (inside : place < 8 * len) (outside : place < start ∨ start + 32 ≤ place) :
    (m (place / 8)).toNat.testBit (place % 8) = (m' (place / 8)).toNat.testBit (place % 8) := by
  by_contra differ
  have near := burst (place / 8) (place % 8) (by omega) (by omega) differ
  omega

theorem frame_bits_window (m : Memory) (len start : Nat) : frameBits m 0 len =
    (frameBits m 0 len).take start ++ ((frameBits m 0 len).drop start).take 32 ++ (frameBits m 0 len).drop (start + 32) := by
  rw [List.append_assoc, ← List.drop_drop, List.take_append_drop, List.take_append_drop]

theorem error_burst_detected (cfg cfg' : Network) (m m' : Memory) (len start : Nat) (long : 5 ≤ len)
    (accepted : (handleFrame cfg len m).checkSumMatch = true) (differ : ∃ i, i < len ∧ m i ≠ m' i)
    (burst : Burst m m' len start) : (handleFrame cfg' len m').checkSumMatch = false := by
  by_contra accepted'
  obtain ⟨n, rfl⟩ := Nat.exists_eq_add_of_le' (show 4 ≤ len by omega)
  have residue := (check_sum_match_residue cfg m n).mp accepted
  have residue' := (check_sum_match_residue cfg' m' n).mp (by simpa using accepted')
  obtain ⟨i, inside, octet⟩ := differ
  have size (m : Memory) : (frameBits m 0 (n + 4)).length = 8 * (n + 4) := by simp [frameBits]
  have before : (frameBits m 0 (n + 4)).take start = (frameBits m' 0 (n + 4)).take start := by
    apply List.ext_getElem (by simp [size])
    intro place bound _
    simp only [List.length_take, size] at bound
    simpa [frameBits] using frame_bits_outside m m' (n + 4) start burst place (by omega) (by omega)
  have behind : (frameBits m 0 (n + 4)).drop (start + 32) = (frameBits m' 0 (n + 4)).drop (start + 32) := by
    apply List.ext_getElem (by simp [size])
    intro place bound _
    simp only [List.length_drop, size] at bound
    simpa [frameBits] using frame_bits_outside m m' (n + 4) start burst (start + 32 + place) (by omega) (by omega)
  have window : ((frameBits m 0 (n + 4)).drop start).take 32 = ((frameBits m' 0 (n + 4)).drop start).take 32 := by
    rw [← residue', frame_bits_window m _ start, frame_bits_window m' _ start, ← before, ← behind] at residue
    exact burst_detected crc32Poly crc32_poly_monic _ _ _ _ _ (by simp [size]) (by simp) residue
  apply octet
  apply frame_bits_same m m' (n + 4) _ i inside
  rw [frame_bits_window m _ start, frame_bits_window m' _ start, before, window, behind]

def shortFrame : Memory := ofList [0, 0x8D, 0xEF, 0x02, 0xD2]
def damagedFrame : Memory := ofList [1, 0x8D, 0xEF, 0x82, 0xD2]

theorem damaged_frame_burst : Burst shortFrame damagedFrame 5 0 := by
  intro i b inside low differ
  by_cases last : i = 4
  · subst last
    exact absurd rfl differ
  · omega

theorem error_burst_detected_bits : (handleFrame ⟨[], [], []⟩ 5 damagedFrame).checkSumMatch = false :=
  error_burst_detected ⟨[], [], []⟩ ⟨[], [], []⟩ shortFrame damagedFrame 5 0 (by decide) (by decide +kernel)
    ⟨0, by decide, by decide⟩ damaged_frame_burst

end OsiStack
