import OsiStack.TcpChecksum

set_option autoImplicit false

namespace OsiStack

open Octets OnesComplement

-- The accumulator is a long: a sum past its range is no result.
@[irreducible] def fitsLong (sum : Nat) : Bool := decide (sum < 2 ^ 63)

def longSumLoop : List UInt8 → Nat → Option Nat
  | [], sum => some sum
  | [last], sum =>
      let next := sum + (last.toNat <<< 8)
      if fitsLong next then some next else none
  | high :: low :: rest, sum =>
      let next := sum + (high.toNat <<< 8 ||| low.toNat)
      if fitsLong next then longSumLoop rest next else none

def longFoldLoop (sum : Nat) : Option Nat :=
  if sum >>> 16 = 0 then some sum
  else if fitsLong ((sum &&& 0xFFFF) + (sum >>> 16)) then longFoldLoop ((sum &&& 0xFFFF) + (sum >>> 16)) else none
termination_by sum
decreasing_by
  have low : sum &&& 0xFFFF = sum % 65536 := Nat.and_two_pow_sub_one_eq_mod sum 16
  simp only [Nat.shiftRight_eq_div_pow] at *
  omega

def longIpChecksum (bytes : List UInt8) : Option UInt16 :=
  ((longSumLoop bytes 0).bind longFoldLoop).map fun sum => ~~~(UInt16.ofNat sum)

theorem fits_long (sum : Nat) (room : sum < 2 ^ 63) : fitsLong sum = true := by
  rw [fitsLong, decide_eq_true_iff]
  exact room

theorem long_sum_loop (bytes : List UInt8) (sum : Nat) (room : sum + wordSum bytes < 2 ^ 63) :
    longSumLoop bytes sum = some (sumLoop bytes sum) := by
  induction bytes, sum using sumLoop.induct with
  | case1 sum => rfl
  | case2 last sum =>
      have word : last.toNat <<< 8 = 256 * last.toNat := by rw [Nat.shiftLeft_eq, Nat.mul_comm]
      rw [wordSum, ← word] at room
      rw [longSumLoop, fits_long _ room, sumLoop]
      rfl
  | case3 high low rest sum ih =>
      rw [wordSum, ← octet_pair_word, ← Nat.add_assoc] at room
      rw [longSumLoop, fits_long _ (by omega), sumLoop]
      exact ih room

theorem long_fold_loop (sum : Nat) (room : sum < 2 ^ 63) : longFoldLoop sum = some (foldLoop sum) := by
  induction sum using foldLoop.induct with
  | case1 sum done => rw [longFoldLoop, foldLoop, if_pos done, if_pos done]
  | case2 sum more ih =>
      have low : sum &&& 0xFFFF = sum % 65536 := Nat.and_two_pow_sub_one_eq_mod sum 16
      have smaller : (sum &&& 0xFFFF) + sum >>> 16 < 2 ^ 63 := by
        rw [Nat.shiftRight_eq_div_pow] at *
        omega
      rw [longFoldLoop, foldLoop, if_neg more, if_neg more, fits_long _ smaller]
      exact ih smaller

theorem long_ip_checksum (bytes : List UInt8) (short : bytes.length < 2 ^ 31) :
    longIpChecksum bytes = some (ipChecksum bytes) := by
  have bound := word_sum_lt bytes
  have room : sumLoop bytes 0 < 2 ^ 63 := by
    rw [sum_loop_refines]
    omega
  rw [longIpChecksum, long_sum_loop bytes 0 (by omega), Option.bind_some, long_fold_loop _ room]
  rfl

theorem ip_checksum_carry (bytes : List UInt8) : ipChecksum bytes = ~~~(UInt16.ofNat (carrySum bytes)) := by
  rw [ipChecksum, sum_loop_refines, fold_loop_refines, Nat.zero_add, carry_sum_eq]

theorem carry_sum_lt (bytes : List UInt8) : carrySum bytes < 65536 := by
  rw [carry_sum_eq]
  exact fold_carry_lt (wordSum bytes)

-- The version that crc32.c keeps in a comment, for a 20-octet header in a 32-bit sum.
def previousStep (sum : UInt32) (word : UInt16) : UInt32 :=
  let added : UInt32 := sum + word.toUInt32
  if (0xFFFF : UInt32) < added then (added &&& (0xFFFF : UInt32)) + (added >>> 16) else added

def previousLoop : List UInt8 → UInt32 → UInt32
  | high :: low :: rest, sum => previousLoop rest (previousStep sum (high.toUInt16 <<< 8 ||| low.toUInt16))
  | _, sum => sum

def previousIpChecksum (ipHeader : List UInt8) : UInt16 :=
  let sum := previousLoop (ipHeader.take 20) 0
  (~~~sum &&& (0xFFFF : UInt32)).toUInt16

theorem previous_word (high low : UInt8) :
    (high.toUInt16 <<< 8 ||| low.toUInt16).toNat = 256 * high.toNat + low.toNat := by
  have bound := high.toNat_lt
  have shifted : high.toNat <<< 8 < 65536 := by
    rw [Nat.shiftLeft_eq]
    omega
  rw [UInt16.toNat_or, UInt16.toNat_shiftLeft, ← octet_pair_word]
  simp [Nat.mod_eq_of_lt shifted]

theorem previous_step_toNat (sum : UInt32) (word : UInt16) (small : sum.toNat < 65536) :
    (previousStep sum word).toNat = addCarry sum.toNat word.toNat := by
  have bound := word.toNat_lt
  have added : (sum + word.toUInt32).toNat = sum.toNat + word.toNat := by
    rw [UInt32.toNat_add, UInt16.toNat_toUInt32]
    omega
  have limit : (0xFFFF : UInt32).toNat = 65535 := rfl
  rw [previousStep, addCarry]
  split
  next carry =>
    rw [UInt32.lt_iff_toNat_lt, added, limit] at carry
    have low : ((sum + word.toUInt32) &&& (0xFFFF : UInt32)).toNat = (sum.toNat + word.toNat) % 65536 := by
      rw [UInt32.toNat_and, added, limit]
      exact Nat.and_two_pow_sub_one_eq_mod _ 16
    have high : ((sum + word.toUInt32) >>> 16).toNat = (sum.toNat + word.toNat) / 65536 := by
      rw [UInt32.toNat_shiftRight, added]
      exact Nat.shiftRight_eq_div_pow _ 16
    rw [UInt32.toNat_add, low, high]
    omega
  next fits =>
    rw [UInt32.lt_iff_toNat_lt, added, limit] at fits
    rw [added]
    omega

theorem previous_loop_toNat (bytes : List UInt8) (sum : UInt32) (even : bytes.length % 2 = 0) (small : sum.toNat < 65536) :
    (previousLoop bytes sum).toNat = (words bytes).foldl addCarry sum.toNat := by
  induction bytes, sum using previousLoop.induct with
  | case1 high low rest sum ih =>
      have shorter : rest.length % 2 = 0 := by simp at even; omega
      have stepped := previous_step_toNat sum (high.toUInt16 <<< 8 ||| low.toUInt16) small
      have bound := (high.toUInt16 <<< 8 ||| low.toUInt16).toNat_lt
      have next : (previousStep sum (high.toUInt16 <<< 8 ||| low.toUInt16)).toNat < 65536 := by
        rw [stepped, addCarry]
        omega
      rw [previousLoop, ih shorter next, stepped, previous_word, words, List.foldl_cons]
  | case2 bytes sum single =>
      cases bytes with
      | nil => rfl
      | cons high rest =>
          cases rest with
          | nil => simp at even
          | cons low rest => exact absurd rfl (single high low rest)

theorem previous_ip_checksum (ipHeader : List UInt8) (size : ipHeader.length = 20) :
    previousIpChecksum ipHeader = ipChecksum ipHeader := by
  have value := previous_loop_toNat ipHeader 0 (by omega) (by decide)
  have bound := carry_sum_lt ipHeader
  have whole : (previousLoop ipHeader 0).toNat = carrySum ipHeader := value
  apply UInt16.toNat_inj.mp
  rw [previousIpChecksum, List.take_of_length_le (by omega), ip_checksum_carry, UInt32.toNat_toUInt16, UInt32.toNat_and,
    UInt32.toNat_not, whole, UInt16.toNat_not, UInt16.toNat_ofNat']
  have limit : (0xFFFF : UInt32).toNat = 2 ^ 16 - 1 := rfl
  rw [limit, Nat.and_two_pow_sub_one_eq_mod]
  simp only [UInt16.size, UInt32.size]
  omega

theorem ip_checksum_internet (bytes : List UInt8) (counted : bytes.length < 2 ^ 31) :
    longIpChecksum bytes = some (ipChecksum bytes) ∧
    ipChecksum bytes = ~~~(UInt16.ofNat (carrySum bytes)) ∧ carrySum bytes < 65536 ∧
    (bytes.length = 20 → previousIpChecksum bytes = ipChecksum bytes) :=
  ⟨long_ip_checksum bytes counted, ip_checksum_carry bytes, carry_sum_lt bytes, previous_ip_checksum bytes⟩

def sampleHeader : List UInt8 :=
  [0x45, 0, 0, 40, 0, 1, 0, 0, 64, 6, 0x66, 0xcd, 10, 0, 0, 1, 10, 0, 0, 2]

theorem ip_checksum_internet_header :
    longIpChecksum sampleHeader = some (ipChecksum sampleHeader) ∧
    ipChecksum sampleHeader = ~~~(UInt16.ofNat (carrySum sampleHeader)) ∧ carrySum sampleHeader < 65536 ∧
    (sampleHeader.length = 20 → previousIpChecksum sampleHeader = ipChecksum sampleHeader) :=
  ip_checksum_internet sampleHeader (by decide)

def storeBigEndian (bytes : List UInt8) (off : Nat) (sum : UInt16) : List UInt8 :=
  (bytes.set off ((sum >>> 8) &&& 0xFF).toUInt8).set (off + 1) (sum &&& 0xFF).toUInt8

theorem big_endian_octets (sum : UInt16) :
    256 * ((sum >>> 8) &&& 0xFF).toUInt8.toNat + (sum &&& 0xFF).toUInt8.toNat = sum.toNat := by
  have bound := sum.toNat_lt
  have shifted : (sum >>> 8).toNat = sum.toNat / 256 := by
    rw [UInt16.toNat_shiftRight]
    exact Nat.shiftRight_eq_div_pow sum.toNat 8
  have mask (v : UInt16) : (v &&& 0xFF).toUInt8.toNat = v.toNat % 256 := by
    have masked : v.toNat &&& (0xFF : UInt16).toNat = v.toNat % 256 := Nat.and_two_pow_sub_one_eq_mod v.toNat 8
    rw [UInt16.toNat_toUInt8, UInt16.toNat_and, masked, Nat.mod_mod]
  rw [mask, mask, shifted]
  omega

theorem store_big_endian_split (left right : List UInt8) (high low : UInt8) (sum : UInt16) :
    storeBigEndian (left ++ [high, low] ++ right) left.length sum =
      left ++ [((sum >>> 8) &&& 0xFF).toUInt8, (sum &&& 0xFF).toUInt8] ++ right := by
  simp [storeBigEndian]

theorem around_pair (bytes : List UInt8) (off : Nat) (inside : off + 2 ≤ bytes.length) :
    ∃ left right high low, left.length = off ∧ bytes = left ++ [high, low] ++ right := by
  have size : (bytes.drop off).length = bytes.length - off := List.length_drop
  cases behind : bytes.drop off with
  | nil => simp only [behind, List.length_nil] at size; omega
  | cons high rest =>
      cases rest with
      | nil => simp only [behind, List.length_singleton] at size; omega
      | cons low right =>
          refine ⟨bytes.take off, right, high, low, by simp; omega, ?_⟩
          rw [List.append_assoc]
          change bytes = bytes.take off ++ high :: low :: right
          rw [← behind, List.take_append_drop]

theorem stored_checksum_verifies (bytes : List UInt8) (off : Nat) (even : off % 2 = 0) (inside : off + 2 ≤ bytes.length) :
    ipChecksum (storeBigEndian bytes off (ipChecksum (storeBigEndian bytes off 0))) = 0 := by
  obtain ⟨left, right, high, low, rfl, rfl⟩ := around_pair bytes off inside
  rw [store_big_endian_split, store_big_endian_split]
  exact ip_checksum_fill left right _ _ even (big_endian_octets _)

def fillTcpChecksum (m : Memory) (tcpLen : UInt16) : Memory :=
  let blank := Tcp.setChecksum m 0
  Tcp.setChecksum blank (calculateTcpChecksum blank tcpLen)

theorem stored_tcp_checksum_verifies (m : Memory) (tcpLen : UInt16) (whole : 18 ≤ tcpLen.toNat) :
    calculateTcpChecksum (fillTcpChecksum m tcpLen) tcpLen = 0 :=
  set_checksum_verifies (Tcp.setChecksum m 0) tcpLen whole (fetch_store_same m 50 2 (bytes16 0) rfl)

theorem generated_checksum_verifies :
    (∀ (bytes : List UInt8) (off : Nat), off % 2 = 0 → off + 2 ≤ bytes.length →
      ipChecksum (storeBigEndian bytes off (ipChecksum (storeBigEndian bytes off 0))) = 0) ∧
    ∀ (m : Memory) (tcpLen : UInt16), 18 ≤ tcpLen.toNat → calculateTcpChecksum (fillTcpChecksum m tcpLen) tcpLen = 0 :=
  ⟨stored_checksum_verifies, stored_tcp_checksum_verifies⟩

theorem generated_checksum_verifies_header :
    ipChecksum (storeBigEndian sampleHeader 10 (ipChecksum (storeBigEndian sampleHeader 10 0))) = 0 ∧
    calculateTcpChecksum (fillTcpChecksum (ofList (List.replicate 14 0 ++ sampleHeader)) 21) 21 = 0 :=
  ⟨generated_checksum_verifies.1 sampleHeader 10 (by decide) (by decide),
    generated_checksum_verifies.2 (ofList (List.replicate 14 0 ++ sampleHeader)) 21 (by decide)⟩

end OsiStack
