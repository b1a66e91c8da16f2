import Mathlib.Data.List.Perm.Basic
import Mathlib.Data.Nat.ModEq
import Mathlib.Tactic.Common

set_option autoImplicit false

namespace OnesComplement

def wordSum : List UInt8 → Nat
  | [] => 0
  | [last] => 256 * last.toNat
  | high :: low :: rest => 256 * high.toNat + low.toNat + wordSum rest

theorem word_sum_append (left right : List UInt8) (even : left.length % 2 = 0) :
    wordSum (left ++ right) = wordSum left + wordSum right := by
  induction left using wordSum.induct with
  | case1 => simp [wordSum]
  | case2 last => simp at even
  | case3 high low rest ih =>
      have shorter : rest.length % 2 = 0 := by simp at even; omega
      simp [wordSum, ih shorter, Nat.add_assoc]

theorem word_sum_append_odd (left right : List UInt8) (odd : left.length % 2 = 1) :
    wordSum (left ++ right) = wordSum left + wordSum (0 :: right) := by
  induction left using wordSum.induct with
  | case1 => simp at odd
  | case2 last => cases right <;> simp [wordSum, Nat.add_assoc]
  | case3 high low rest ih =>
      have shorter : rest.length % 2 = 1 := by simp at odd; omega
      simp [wordSum, ih shorter, Nat.add_assoc]

theorem word_sum_pad (bytes : List UInt8) (odd : bytes.length % 2 = 1) : wordSum (bytes ++ [0]) = wordSum bytes := by
  induction bytes using wordSum.induct with
  | case1 => simp at odd
  | case2 last => simp [wordSum]
  | case3 high low rest ih =>
      have shorter : rest.length % 2 = 1 := by simp at odd; omega
      simp [wordSum, ih shorter]

theorem word_sum_pair (high low : UInt8) : wordSum [high, low] = 256 * high.toNat + low.toNat := by
  simp [wordSum]

def foldCarry (sum : Nat) : Nat :=
  if sum < 65536 then sum else foldCarry (sum % 65536 + sum / 65536)
termination_by sum
decreasing_by omega

theorem fold_carry_small (sum : Nat) (small : sum < 65536) : foldCarry sum = sum := by
  rw [foldCarry, if_pos small]

theorem fold_carry_step (sum : Nat) (big : ¬ sum < 65536) : foldCarry sum = foldCarry (sum % 65536 + sum / 65536) := by
  rw [foldCarry, if_neg big]

-- One carry moves a multiple of 65536 to the units, so it keeps the sum modulo
-- 65535; that and the range determine the result up to the two zeros.
theorem fold_carry_mod (sum : Nat) : foldCarry sum % 65535 = sum % 65535 := by
  induction sum using foldCarry.induct with
  | case1 sum small => rw [fold_carry_small sum small]
  | case2 sum big ih =>
      rw [fold_carry_step sum big, ih]
      omega

theorem fold_carry_lt (sum : Nat) : foldCarry sum < 65536 := by
  induction sum using foldCarry.induct with
  | case1 sum small => rw [fold_carry_small sum small]; exact small
  | case2 sum big ih => rw [fold_carry_step sum big]; exact ih

theorem fold_carry_zero (sum : Nat) : foldCarry sum = 0 ↔ sum = 0 := by
  induction sum using foldCarry.induct with
  | case1 sum small => rw [fold_carry_small sum small]
  | case2 sum big ih =>
      rw [fold_carry_step sum big, ih]
      omega

theorem fold_carry_full (sum : Nat) : foldCarry sum = 65535 ↔ sum ≠ 0 ∧ sum % 65535 = 0 := by
  have same := fold_carry_mod sum
  have bound := fold_carry_lt sum
  have zero := fold_carry_zero sum
  omega

theorem fold_carry_fill (sum : Nat) : foldCarry (sum + (65535 - foldCarry sum)) = 65535 := by
  have same := fold_carry_mod sum
  have bound := fold_carry_lt sum
  have zero := fold_carry_zero sum
  rw [fold_carry_full]
  omega

def words : List UInt8 → List Nat
  | [] => []
  | [last] => [256 * last.toNat]
  | high :: low :: rest => (256 * high.toNat + low.toNat) :: words rest

def addCarry (sum word : Nat) : Nat := (sum + word) % 65536 + (sum + word) / 65536

def carrySum (bytes : List UInt8) : Nat := (words bytes).foldl addCarry 0

theorem words_small (bytes : List UInt8) (word : Nat) (member : word ∈ words bytes) : word < 65536 := by
  induction bytes using words.induct with
  | case1 => simp [words] at member
  | case2 last =>
      have bound := last.toNat_lt
      simp only [words, List.mem_singleton] at member
      omega
  | case3 high low rest ih =>
      have highBound := high.toNat_lt
      have lowBound := low.toNat_lt
      rcases List.mem_cons.mp member with here | later
      · omega
      · exact ih later

theorem words_sum (bytes : List UInt8) : (words bytes).sum = wordSum bytes := by
  induction bytes using words.induct with
  | case1 => rfl
  | case2 last => simp [words, wordSum]
  | case3 high low rest ih => rw [words, List.sum_cons, ih, wordSum]

theorem word_sum_lt (bytes : List UInt8) : wordSum bytes ≤ 65535 * (bytes.length + 1) := by
  induction bytes using words.induct with
  | case1 => simp [wordSum]
  | case2 last =>
      have bound := last.toNat_lt
      simp only [wordSum, List.length_singleton]
      omega
  | case3 high low rest ih =>
      have highBound := high.toNat_lt
      have lowBound := low.toNat_lt
      simp only [wordSum, List.length_cons]
      omega

theorem fold_carry_congr (left right : Nat) (same : left % 65535 = right % 65535) (zero : left = 0 ↔ right = 0) :
    foldCarry left = foldCarry right := by
  have leftMod := fold_carry_mod left
  have rightMod := fold_carry_mod right
  have leftBound := fold_carry_lt left
  have rightBound := fold_carry_lt right
  have leftZero := fold_carry_zero left
  have rightZero := fold_carry_zero right
  omega

theorem fold_carry_same (left right : Nat) :
    foldCarry left = foldCarry right ↔ left % 65535 = right % 65535 ∧ (left = 0 ↔ right = 0) := by
  constructor
  · intro same
    have leftMod := fold_carry_mod left
    have leftZero := fold_carry_zero left
    rw [same] at leftMod leftZero
    exact ⟨leftMod.symm.trans (fold_carry_mod right), leftZero.symm.trans (fold_carry_zero right)⟩
  · rintro ⟨same, zero⟩
    exact fold_carry_congr left right same zero

theorem fold_carry_word (others word word' : Nat) (small : word < 65536) (small' : word' < 65536) (apart : word ≠ word') :
    foldCarry (others + word) = foldCarry (others + word') ↔
      (word = 0 ∧ word' = 65535 ∨ word = 65535 ∧ word' = 0) ∧ others ≠ 0 := by
  rw [fold_carry_same]
  omega

theorem add_carry_fold (sum word : Nat) (small : word < 65536) : addCarry (foldCarry sum) word = foldCarry (sum + word) := by
  have bound := fold_carry_lt sum
  have once : addCarry (foldCarry sum) word < 65536 := by
    rw [addCarry]
    omega
  rw [← fold_carry_small _ once]
  have same := fold_carry_mod sum
  have zero := fold_carry_zero sum
  apply fold_carry_congr
  · rw [addCarry]
    omega
  · rw [addCarry]
    omega

theorem carry_sum_fold (rest : List Nat) (small : ∀ word ∈ rest, word < 65536) (sum : Nat) :
    rest.foldl addCarry (foldCarry sum) = foldCarry (sum + rest.sum) := by
  induction rest generalizing sum with
  | nil => simp
  | cons word rest ih =>
      rw [List.foldl_cons, add_carry_fold sum word (small word List.mem_cons_self),
        ih (fun later member => small later (List.mem_cons_of_mem word member)), List.sum_cons, Nat.add_assoc]

theorem carry_sum_eq (bytes : List UInt8) : carrySum bytes = foldCarry (wordSum bytes) := by
  have folded := carry_sum_fold (words bytes) (words_small bytes) 0
  rw [fold_carry_small 0 (by decide), Nat.zero_add, words_sum] at folded
  exact folded

def otherWords (bytes : List UInt8) (k : Nat) : List Nat := (words bytes).eraseIdx k

theorem other_words_sum (bytes : List UInt8) (k word : Nat) (here : (words bytes)[k]? = some word) :
    wordSum bytes = (otherWords bytes k).sum + word := by
  obtain ⟨bound, rfl⟩ := List.getElem?_eq_some_iff.mp here
  have whole := (List.getElem_cons_eraseIdx_perm bound).sum_nat
  rw [List.sum_cons, words_sum] at whole
  rw [otherWords, ← whole, Nat.add_comm]

theorem other_words_nonzero (bytes : List UInt8) (k : Nat) :
    (otherWords bytes k).sum ≠ 0 ↔ ∃ j, j ≠ k ∧ ∃ word, (words bytes)[j]? = some word ∧ word ≠ 0 := by
  have mem (word : Nat) : word ∈ otherWords bytes k ↔ ∃ j, j ≠ k ∧ (words bytes)[j]? = some word :=
    List.mem_eraseIdx_iff_getElem?
  rw [ne_eq, List.sum_eq_zero_iff_forall_eq_nat]
  constructor
  · intro positive
    push Not at positive
    obtain ⟨word, member, nonzero⟩ := positive
    obtain ⟨j, apart, here⟩ := (mem word).mp member
    exact ⟨j, apart, word, here, nonzero⟩
  · rintro ⟨j, apart, word, here, nonzero⟩ zeros
    exact nonzero (zeros word ((mem word).mpr ⟨j, apart, here⟩))

end OnesComplement
