import OsiStack.TcpReceive

set_option autoImplicit false

namespace OsiStack

open Octets OnesComplement

theorem pseudo_header_length (m : Memory) (tcpLen : UInt16) : (pseudoHeader m tcpLen).length = 12 := by
  simp [pseudoHeader]

theorem pseudo_header_congr (m m' : Memory) (tcpLen : UInt16) (same : ∀ i, 26 ≤ i → i < 34 → m i = m' i) :
    pseudoHeader m tcpLen = pseudoHeader m' tcpLen := by
  have src : IpHeader.srcAddr m = IpHeader.srcAddr m' :=
    load_octets_congr m m' 26 4 fun i low high => same i low (by omega)
  have dest : IpHeader.destAddr m = IpHeader.destAddr m' :=
    load_octets_congr m m' 30 4 fun i low high => same i (by omega) (by omega)
  rw [pseudoHeader, pseudoHeader, src, dest]

def segmentSum (m : Memory) (tcpLen : UInt16) : Nat := wordSum (pseudoHeader m tcpLen ++ fetch m 34 tcpLen.toNat)

theorem tcp_checksum_congr (m m' : Memory) (tcpLen : UInt16) (same : ∀ i, 26 ≤ i → i < 34 + tcpLen.toNat → m i = m' i) :
    calculateTcpChecksum m tcpLen = calculateTcpChecksum m' tcpLen := by
  rw [calculateTcpChecksum, calculateTcpChecksum,
    pseudo_header_congr m m' tcpLen fun i low high => same i low (by omega),
    fetch_congr m m' 34 tcpLen.toNat fun i low high => same i (by omega) high]

theorem htons_zero (v : UInt16) : htons v = 0 ↔ v = 0 := by
  constructor
  · intro zero
    have back := ntohs_ntohs v
    rw [show ntohs v = 0 from zero] at back
    exact back.symm
  · intro zero
    rw [zero]
    rfl

theorem bytes16_htons (v : UInt16) : bytes16 (htons v) = [UInt8.ofNat (v.toNat / 256), UInt8.ofNat v.toNat] := by
  have bound := v.toNat_lt
  have low : UInt8.ofNat (256 * (v.toNat % 256) + v.toNat / 256) = UInt8.ofNat (v.toNat / 256) := by
    apply UInt8.toNat_inj.mp
    simp only [UInt8.toNat_ofNat']
    omega
  have high : UInt8.ofNat ((256 * (v.toNat % 256) + v.toNat / 256) / 256) = UInt8.ofNat v.toNat := by
    have digit : (256 * (v.toNat % 256) + v.toNat / 256) / 256 = v.toNat % 256 := by omega
    apply UInt8.toNat_inj.mp
    simp only [UInt8.toNat_ofNat', digit]
    omega
  rw [bytes16, ntohs_toNat, low, high]

theorem pseudo_header_sum (m : Memory) (tcpLen : UInt16) : wordSum (pseudoHeader m tcpLen) =
    wordSum (IpHeader.srcAddr m).val + wordSum (IpHeader.destAddr m).val + 6 + tcpLen.toNat := by
  have bound := tcpLen.toNat_lt
  have length : wordSum (bytes16 (htons tcpLen)) = tcpLen.toNat := by
    rw [bytes16_htons, word_sum_pair, UInt8.toNat_ofNat', UInt8.toNat_ofNat']
    omega
  rw [pseudoHeader, word_sum_append _ _ (by simp), word_sum_append _ _ (by simp), word_sum_append _ _ (by simp), length]
  simp [wordSum]

-- A checksum verifies when the sum is a multiple of 65535: it is never zero, as
-- the protocol number is part of it.
theorem tcp_checksum_zero (m : Memory) (tcpLen : UInt16) :
    calculateTcpChecksum m tcpLen = 0 ↔ segmentSum m tcpLen % 65535 = 0 := by
  have even : (pseudoHeader m tcpLen).length % 2 = 0 := by simp [pseudo_header_length]
  have positive : segmentSum m tcpLen ≠ 0 := by
    rw [segmentSum, word_sum_append _ _ even, pseudo_header_sum]
    omega
  have padded : wordSum (pseudoHeader m tcpLen ++ fetch m 34 tcpLen.toNat ++
      (if (12 + tcpLen.toNat) % 2 = 0 then [] else [0])) = segmentSum m tcpLen := by
    split
    · rw [List.append_nil, segmentSum]
    · rw [word_sum_pad _ (by simp [pseudo_header_length]; omega), segmentSum]
  rw [calculateTcpChecksum, htons_zero, ip_checksum_zero, padded]
  exact and_iff_right positive

theorem fetch_around (m : Memory) (n : Nat) (whole : 18 ≤ n) :
    fetch m 34 n = fetch m 34 16 ++ fetch m 50 2 ++ fetch m 52 (n - 18) := by
  rw [← fetch_add, ← fetch_add]
  congr 1
  omega

theorem set_checksum_verifies (m : Memory) (tcpLen : UInt16) (whole : 18 ≤ tcpLen.toNat) (blank : fetch m 50 2 = [0, 0]) :
    calculateTcpChecksum (Tcp.setChecksum m (calculateTcpChecksum m tcpLen)) tcpLen = 0 := by
  generalize padEq : (if (12 + tcpLen.toNat) % 2 = 0 then [] else [(0 : UInt8)]) = padding
  generalize sumEq : ipChecksum (pseudoHeader m tcpLen ++ fetch m 34 tcpLen.toNat ++ padding) = sum
  have stored : calculateTcpChecksum m tcpLen = htons sum := by rw [← sumEq, ← padEq]; rfl
  have bound := sum.toNat_lt
  generalize resultEq : Tcp.setChecksum m (calculateTcpChecksum m tcpLen) = result
  have filled : fetch result 50 2 = [UInt8.ofNat (sum.toNat / 256), UInt8.ofNat sum.toNat] := by
    rw [← resultEq, stored, ← bytes16_htons]
    exact fetch_store_same m 50 2 (bytes16 (htons sum)) rfl
  have before : fetch result 34 16 = fetch m 34 16 := by
    rw [← resultEq]
    exact fetch_store_outside m 34 16 50 _ (by simp)
  have after : fetch result 52 (tcpLen.toNat - 18) = fetch m 52 (tcpLen.toNat - 18) := by
    rw [← resultEq]
    exact fetch_store_outside m 52 _ 50 _ (by simp)
  have pseudo : pseudoHeader result tcpLen = pseudoHeader m tcpLen := by
    rw [← resultEq]
    exact pseudo_header_congr _ m tcpLen fun i _ _ => store_outside m 50 i _ (by omega)
  have value : (UInt8.ofNat (sum.toNat / 256)).toNat * 256 + (UInt8.ofNat sum.toNat).toNat = sum.toNat := by
    simp only [UInt8.toNat_ofNat']
    omega
  have fill := ip_checksum_fill (pseudoHeader m tcpLen ++ fetch m 34 16) (fetch m 52 (tcpLen.toNat - 18) ++ padding)
    (UInt8.ofNat (sum.toNat / 256)) (UInt8.ofNat sum.toNat) (by simp [pseudo_header_length])
  rw [fetch_around m tcpLen.toNat whole, blank] at sumEq
  simp only [List.append_assoc] at fill sumEq
  rw [sumEq] at fill
  rw [calculateTcpChecksum, htons_zero]
  simp only [padEq]
  rw [pseudo, fetch_around result tcpLen.toNat whole, before, filled, after]
  simp only [List.append_assoc]
  exact fill (by omega)

theorem finish_tcp_verifies (out : TcpOutcome) (segmentLen octets : UInt16) (flag : Bool) (checked : UInt16)
    (same : checked = if 1 ≤ out.status then segmentLen - octets else segmentLen) (whole : 18 ≤ checked.toNat) :
    calculateTcpChecksum (finishTcp out segmentLen octets flag) checked = 0 := by
  subst same
  exact set_checksum_verifies _ _ whole (fetch_store_same _ 50 2 [0, 0] rfl)

theorem tcp_segment_len (m : Memory) (len : Nat) (long : 34 ≤ len) : tcpSegmentLen m len = UInt16.ofNat (len - 34) := by
  have fourteen : (14 : UInt16).toNat = 14 := rfl
  have twenty : (20 : UInt16).toNat = 20 := rfl
  have rest : tcpSegmentLen m len = UInt16.ofNat len - 14 - 20 := by
    rw [tcpSegmentLen, dataOctets, UInt16.add_comm, UInt16.sub_add_cancel]
  apply UInt16.toNat_inj.mp
  rw [rest, UInt16.toNat_sub, UInt16.toNat_sub, UInt16.toNat_ofNat', UInt16.toNat_ofNat', fourteen, twenty]
  omega

structure OneWordApart (left right : List UInt8) (k w w' : Nat) : Prop where
  even : left.length % 2 = 0
  size : right.length = left.length
  here : (words left)[k]? = some w
  there : (words right)[k]? = some w'
  apart : w ≠ w'
  others : ∀ j, j ≠ k → (words left)[j]? = (words right)[j]?

def OtherWordNonzero (bytes : List UInt8) (k : Nat) : Prop := ∃ j, j ≠ k ∧ ∃ v, (words bytes)[j]? = some v ∧ v ≠ 0

theorem ip_checksum_same (left right : List UInt8) :
    ipChecksum left = ipChecksum right ↔ foldCarry (wordSum left) = foldCarry (wordSum right) := by
  have leftBound := fold_carry_lt (wordSum left)
  have rightBound := fold_carry_lt (wordSum right)
  rw [← UInt16.toNat_inj, ip_checksum_toNat, ip_checksum_toNat]
  omega

theorem other_words_same (left right : List UInt8) (k : Nat)
    (others : ∀ j, j ≠ k → (words left)[j]? = (words right)[j]?) : otherWords left k = otherWords right k := by
  apply List.ext_getElem?
  intro j
  rw [otherWords, otherWords, List.getElem?_eraseIdx, List.getElem?_eraseIdx]
  split
  · exact others j (by omega)
  · exact others (j + 1) (by omega)

theorem word_change_missed (left right : List UInt8) (k w w' : Nat) (change : OneWordApart left right k w w') :
    ipChecksum left = ipChecksum right ↔
      (w = 0x0000 ∧ w' = 0xFFFF ∨ w = 0xFFFF ∧ w' = 0x0000) ∧ OtherWordNonzero left k := by
  have small := words_small left w (List.mem_of_getElem? change.here)
  have small' := words_small right w' (List.mem_of_getElem? change.there)
  rw [ip_checksum_same, other_words_sum left k w change.here, other_words_sum right k w' change.there,
    ← other_words_same left right k change.others, fold_carry_word _ w w' small small' change.apart, other_words_nonzero,
    OtherWordNonzero]

def blankWord : List UInt8 := [0x45, 0x00, 0x00, 0x00]
def fullWord : List UInt8 := [0x45, 0x00, 0xFF, 0xFF]

theorem word_change_missed_ones : ipChecksum blankWord = ipChecksum fullWord ↔
    ((0 : Nat) = 0x0000 ∧ (0xFFFF : Nat) = 0xFFFF ∨ (0 : Nat) = 0xFFFF ∧ (0xFFFF : Nat) = 0x0000) ∧
      OtherWordNonzero blankWord 1 :=
  word_change_missed blankWord fullWord 1 0 0xFFFF
    ⟨by decide, by decide, by decide, by decide, by decide, fun j apart => by
      match j with
      | 0 => rfl
      | 1 => exact absurd rfl apart
      | n + 2 => rfl⟩

end OsiStack
