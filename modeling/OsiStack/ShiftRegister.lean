import Mathlib.Data.Nat.Bitwise
import Mathlib.Logic.Function.Iterate
import Mathlib.Tactic.Common
import Mathlib.Tactic.Ring

set_option autoImplicit false

namespace ShiftRegister

section
variable {w : Nat} (poly : BitVec w)

def bitStep (c : BitVec w) : BitVec w := if c.getLsbD 0 then (c >>> 1) ^^^ poly else c >>> 1

def feed (c : BitVec w) (bits : List Bool) : BitVec w :=
  bits.foldl (fun c bit => bitStep poly (c ^^^ BitVec.ofNat w bit.toNat)) c

def bitValue : List Bool → Nat
  | [] => 0
  | bit :: rest => bit.toNat + 2 * bitValue rest

theorem bit_value_lt (bits : List Bool) : bitValue bits < 2 ^ bits.length := by
  induction bits with
  | nil => simp [bitValue]
  | cons bit rest ih =>
      have digit := Bool.toNat_le bit
      rw [bitValue, List.length_cons, Nat.pow_succ]
      omega

theorem bit_value_append (left right : List Bool) :
    bitValue (left ++ right) = bitValue left + 2 ^ left.length * bitValue right := by
  induction left with
  | nil => simp [bitValue]
  | cons bit rest ih =>
      rw [List.cons_append, bitValue, bitValue, ih, List.length_cons, Nat.pow_succ]
      ring

theorem bit_value_injective (left right : List Bool) (size : left.length = right.length)
    (same : bitValue left = bitValue right) : left = right := by
  induction left generalizing right with
  | nil => exact (List.eq_nil_of_length_eq_zero size.symm).symm
  | cons bit rest ih =>
      cases right with
      | nil => simp at size
      | cons other others =>
          have digit := Bool.toNat_le bit
          have digit' := Bool.toNat_le other
          rw [bitValue, bitValue] at same
          have tails := ih others (by simpa using size) (by omega)
          have heads : bit = other := by cases bit <;> cases other <;> simp at same <;> first | rfl | omega
          rw [tails, heads]

theorem bit_value_digits (n v : Nat) : bitValue ((List.range n).map v.testBit) = v % 2 ^ n := by
  induction n generalizing v with
  | zero => simp [bitValue, Nat.mod_one]
  | succ n ih =>
      have rest : (List.range n).map (v.testBit ∘ Nat.succ) = (List.range n).map (v / 2).testBit := by
        apply List.map_congr_left
        intro k _
        exact Nat.testBit_succ v k
      have low : (v.testBit 0).toNat = v % 2 := by rw [Nat.toNat_testBit]; simp
      rw [List.range_succ_eq_map, List.map_cons, List.map_map, rest, bitValue, ih, low, Nat.pow_succ', Nat.mod_mul]

theorem bit_step_xor (a b : BitVec w) : bitStep poly (a ^^^ b) = bitStep poly a ^^^ bitStep poly b := by
  simp only [bitStep, BitVec.getLsbD_xor, BitVec.ushiftRight_xor_distrib]
  cases a.getLsbD 0 <;> cases b.getLsbD 0
  · simp
  · simp [BitVec.xor_assoc]
  · simp only [Bool.xor_false, if_true, Bool.false_eq_true, if_false]
    rw [BitVec.xor_assoc, BitVec.xor_assoc, BitVec.xor_comm (b >>> 1)]
  · simp only [Bool.xor_self, Bool.false_eq_true, if_false, if_true]
    rw [BitVec.xor_assoc, BitVec.xor_comm poly, BitVec.xor_assoc (b >>> 1), BitVec.xor_self, BitVec.xor_zero]

theorem steps_xor (n : Nat) (a b : BitVec w) :
    (bitStep poly)^[n] (a ^^^ b) = (bitStep poly)^[n] a ^^^ (bitStep poly)^[n] b := by
  induction n generalizing a b with
  | zero => rfl
  | succ n ih => rw [Function.iterate_succ_apply, Function.iterate_succ_apply, Function.iterate_succ_apply, bit_step_xor, ih]

theorem bit_step_even (v : Nat) (small : 2 * v < 2 ^ w) : bitStep poly (BitVec.ofNat w (2 * v)) = BitVec.ofNat w v := by
  have low : (BitVec.ofNat w (2 * v)).getLsbD 0 = false := by simp [BitVec.getLsbD_ofNat]
  rw [bitStep, low]
  apply BitVec.eq_of_toNat_eq
  simp only [Bool.false_eq_true, if_false, BitVec.toNat_ushiftRight, BitVec.toNat_ofNat]
  rw [Nat.mod_eq_of_lt small, Nat.mod_eq_of_lt (by omega), Nat.shiftRight_eq_div_pow]
  omega

theorem steps_shift (n v : Nat) (small : 2 ^ n * v < 2 ^ w) :
    (bitStep poly)^[n] (BitVec.ofNat w (2 ^ n * v)) = BitVec.ofNat w v := by
  induction n with
  | zero => simp
  | succ n ih =>
      have double : 2 ^ (n + 1) * v = 2 * (2 ^ n * v) := by rw [Nat.pow_succ']; exact Nat.mul_assoc 2 (2 ^ n) v
      rw [double] at small ⊢
      rw [Function.iterate_succ_apply, bit_step_even poly _ small]
      exact ih (by omega)

-- `n` steps of a register: a table entry for its low `n` bits, and the rest moved down.
theorem steps_split (n : Nat) (c : BitVec w) :
    (bitStep poly)^[n] c = (bitStep poly)^[n] (BitVec.ofNat w (c.toNat % 2 ^ n)) ^^^ (c >>> n) := by
  have digits : c.toNat % 2 ^ n ^^^ 2 ^ n * (c.toNat / 2 ^ n) = c.toNat := by
    apply Nat.eq_of_testBit_eq
    intro k
    rw [Nat.testBit_xor, Nat.testBit_mod_two_pow, Nat.testBit_two_pow_mul, Nat.testBit_div_two_pow]
    by_cases low : k < n
    · simp [low, Nat.not_le.mpr low]
    · simp [low, Nat.not_lt.mp low]
  have whole : c = BitVec.ofNat w (c.toNat % 2 ^ n) ^^^ BitVec.ofNat w (2 ^ n * (c.toNat / 2 ^ n)) := by
    rw [← BitVec.ofNat_xor, digits, BitVec.ofNat_toNat, BitVec.setWidth_eq]
  have small : 2 ^ n * (c.toNat / 2 ^ n) < 2 ^ w := Nat.lt_of_le_of_lt (Nat.mul_div_le _ _) c.isLt
  have moved : BitVec.ofNat w (c.toNat / 2 ^ n) = c >>> n := by
    apply BitVec.eq_of_toNat_eq
    rw [BitVec.toNat_ushiftRight, BitVec.toNat_ofNat, Nat.shiftRight_eq_div_pow,
      Nat.mod_eq_of_lt (Nat.lt_of_le_of_lt (Nat.div_le_self _ _) c.isLt)]
  conv_lhs => rw [whole]
  rw [steps_xor, steps_shift poly n _ small, moved]

theorem of_nat_bit (bit : Bool) (v : Nat) :
    BitVec.ofNat w (bit.toNat + 2 * v) = BitVec.ofNat w bit.toNat ^^^ BitVec.ofNat w (2 * v) := by
  rw [← BitVec.ofNat_xor, Nat.xor_comm]
  cases bit with
  | false => simp
  | true => rw [Bool.toNat_true, Nat.xor_one_of_even (even_two_mul v), Nat.add_comm]

theorem feed_word (bits : List Bool) (c : BitVec w) (fits : bits.length ≤ w) :
    feed poly c bits = (bitStep poly)^[bits.length] (c ^^^ BitVec.ofNat w (bitValue bits)) := by
  induction bits generalizing c with
  | nil => simp [feed, bitValue]
  | cons bit rest ih =>
      have bound := bit_value_lt rest
      have smaller : rest.length + 1 ≤ w := fits
      have room : 2 * bitValue rest < 2 ^ w := by
        have grows : 2 ^ (rest.length + 1) ≤ 2 ^ w := Nat.pow_le_pow_right (by decide) smaller
        rw [Nat.pow_succ] at grows
        omega
      have fed : feed poly c (bit :: rest) = feed poly (bitStep poly (c ^^^ BitVec.ofNat w bit.toNat)) rest := rfl
      rw [fed, ih _ (by omega), bitValue, of_nat_bit, ← BitVec.xor_assoc, List.length_cons, Function.iterate_succ_apply,
        bit_step_xor poly _ (BitVec.ofNat w (2 * bitValue rest)), bit_step_even poly _ room]

theorem feed_append (c : BitVec w) (left right : List Bool) : feed poly c (left ++ right) =
    feed poly (feed poly c left) right :=
  List.foldl_append

section
variable (monic : poly.getLsbD (w - 1) = true)
include monic

theorem bit_step_injective (a b : BitVec w) (same : bitStep poly a = bitStep poly b) : a = b := by
  have clear (c : BitVec w) : (c >>> 1).getLsbD (w - 1) = false := by
    rw [BitVec.getLsbD_ushiftRight]
    exact BitVec.getLsbD_of_ge c _ (by omega)
  have top (c : BitVec w) : (bitStep poly c).getLsbD (w - 1) = c.getLsbD 0 := by
    rw [bitStep]
    cases low : c.getLsbD 0 with
    | false => simpa using clear c
    | true => rw [if_pos rfl, BitVec.getLsbD_xor, clear c, monic]; rfl
  have low : a.getLsbD 0 = b.getLsbD 0 := by rw [← top a, ← top b, same]
  have high : a >>> 1 = b >>> 1 := by
    rw [bitStep, bitStep, low] at same
    split at same
    · exact (BitVec.xor_left_inj poly).mp same
    · exact same
  apply BitVec.eq_of_getLsbD_eq
  intro k _
  cases k with
  | zero => exact low
  | succ k =>
      have bits := congrArg (fun c => c.getLsbD k) high
      simpa [Nat.add_comm] using bits

theorem steps_injective (n : Nat) (a b : BitVec w) (same : (bitStep poly)^[n] a = (bitStep poly)^[n] b) : a = b := by
  induction n generalizing a b with
  | zero => exact same
  | succ n ih => exact bit_step_injective poly monic a b (ih _ _ same)

theorem feed_injective (bits : List Bool) (a b : BitVec w) (same : feed poly a bits = feed poly b bits) : a = b := by
  induction bits generalizing a b with
  | nil => exact same
  | cons bit rest ih =>
      have stepped := bit_step_injective poly monic _ _ (ih _ _ same)
      exact (BitVec.xor_left_inj _).mp stepped

theorem burst_detected (c : BitVec w) (before left right behind : List Bool) (size : left.length = right.length)
    (fits : left.length ≤ w) (same : feed poly c (before ++ left ++ behind) = feed poly c (before ++ right ++ behind)) :
    left = right := by
  rw [feed_append, feed_append, feed_append, feed_append] at same
  have windows := feed_injective poly monic behind _ _ same
  rw [feed_word poly left _ fits, feed_word poly right _ (size ▸ fits), ← size] at windows
  have words := (BitVec.xor_right_inj _).mp (steps_injective poly monic _ _ _ windows)
  have values := congrArg BitVec.toNat words
  have grows : 2 ^ left.length ≤ 2 ^ w := Nat.pow_le_pow_right (by decide) fits
  have leftBound := bit_value_lt left
  have rightBound := bit_value_lt right
  rw [← size] at rightBound
  rw [BitVec.toNat_ofNat, BitVec.toNat_ofNat, Nat.mod_eq_of_lt (by omega), Nat.mod_eq_of_lt (by omega)] at values
  exact bit_value_injective left right size values

end

end

end ShiftRegister
