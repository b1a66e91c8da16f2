import OsiStack.HexText

set_option autoImplicit false

namespace OsiStack

open Octets

inductive Conversion where
  | overflow
  | null
  | done (decoded : Decoded)

-- hex_to_binary with the size of its block: octet `i` is written where the text has
-- its next pair.
def hexLoopIn (size : Nat) : List UInt8 → Nat → Memory → Conversion
  | [], i, buffer => .done ⟨buffer, i⟩
  | [c], i, buffer => if isSpaceChar c then .done ⟨buffer, i⟩ else .null
  | high :: low :: rest, i, buffer =>
      if isSpaceChar high then hexLoopIn size (low :: rest) i buffer
      else if nonHex high || nonHex low then .null
      else if size ≤ i then .overflow
      else hexLoopIn size rest (i + 1) (store buffer i [hexValue high <<< 4 ||| hexValue low])

def hexToBinaryIn (hex : List UInt8) (heap : Memory) (binBytes : Int) : Conversion :=
  if getSize hex = 0 then .done ⟨heap, binBytes⟩ else hexLoopIn (getSize hex) hex 0 heap

def conversion : Option Decoded → Conversion
  | none => .null
  | some decoded => .done decoded

def IsHexDigit (c : UInt8) : Prop := 48 ≤ c ∧ c ≤ 57 ∨ 65 ≤ c ∧ c ≤ 70 ∨ 97 ≤ c ∧ c ≤ 102

instance (c : UInt8) : Decidable (IsHexDigit c) := inferInstanceAs (Decidable (_ ∨ _))

abbrev HexDigit := { c : UInt8 // IsHexDigit c }
abbrev Blank := { text : List UInt8 // ∀ c ∈ text, isSpaceChar c = true }

structure DigitPair where
  high : HexDigit
  low : HexDigit
  behind : Blank

def digitValue (c : UInt8) : Nat := if c ≤ 57 then c.toNat - 48 else if c ≤ 70 then c.toNat - 55 else c.toNat - 87

namespace DigitPair
def text (pair : DigitPair) : List UInt8 := pair.high.val :: pair.low.val :: pair.behind.val
def value (pair : DigitPair) : Nat := 16 * digitValue pair.high.val + digitValue pair.low.val
def octet (pair : DigitPair) : UInt8 := UInt8.ofNat pair.value
end DigitPair

def hexText (lead : Blank) (pairs : List DigitPair) : List UInt8 := lead.val ++ pairs.flatMap DigitPair.text

theorem non_hex_iff (c : UInt8) : nonHex c = false ↔ IsHexDigit c := by
  rw [nonHex, decide_eq_false_iff_not, not_not, IsHexDigit]

theorem hex_digit_facts (c : UInt8) (digit : IsHexDigit c) :
    isSpaceChar c = false ∧ digitValue c < 16 ∧ hexValue c = UInt8.ofNat (digitValue c) := by
  have all := every_octet (fun c => IsHexDigit c →
      isSpaceChar c = false ∧ digitValue c < 16 ∧ hexValue c = UInt8.ofNat (digitValue c)) (by decide +kernel)
  exact all c digit

theorem nibbles_value (high low : Nat) (highBound : high < 16) (lowBound : low < 16) :
    UInt8.ofNat high <<< 4 ||| UInt8.ofNat low = UInt8.ofNat (16 * high + low) := by
  have all : ∀ a b : Fin 16, UInt8.ofNat a <<< 4 ||| UInt8.ofNat b = UInt8.ofNat (16 * a + b) := by decide +kernel
  exact all ⟨high, highBound⟩ ⟨low, lowBound⟩

theorem digit_pair_octet (pair : DigitPair) :
    pair.octet.toNat = pair.value ∧ hexValue pair.high.val <<< 4 ||| hexValue pair.low.val = pair.octet := by
  obtain ⟨-, highBound, high⟩ := hex_digit_facts pair.high.val pair.high.property
  obtain ⟨-, lowBound, low⟩ := hex_digit_facts pair.low.val pair.low.property
  constructor
  · rw [DigitPair.octet, UInt8.toNat_ofNat', DigitPair.value]
    omega
  · rw [high, low, nibbles_value _ _ highBound lowBound]
    rfl

theorem hex_to_binary_digit_pair (pair : DigitPair) (rest : List UInt8) :
    hexToBinaryLoop (pair.text ++ rest) = (hexToBinaryLoop rest).map fun octets => pair.octet :: octets := by
  have space := (hex_digit_facts pair.high.val pair.high.property).1
  have high := (non_hex_iff pair.high.val).mpr pair.high.property
  have low := (non_hex_iff pair.low.val).mpr pair.low.property
  rw [DigitPair.text, List.cons_append, List.cons_append, hexToBinaryLoop]
  simp only [space, high, low, Bool.or_self, Bool.false_eq_true, if_false, (digit_pair_octet pair).2]
  rw [hex_to_binary_blank pair.behind.val rest pair.behind.property]

theorem hex_to_binary_pairs (lead : Blank) (pairs : List DigitPair) :
    hexToBinaryLoop (hexText lead pairs) = some (pairs.map DigitPair.octet) := by
  rw [hexText, hex_to_binary_blank lead.val _ lead.property]
  induction pairs with
  | nil => rfl
  | cons pair pairs ih => rw [List.flatMap_cons, hex_to_binary_digit_pair, ih, Option.map_some, List.map_cons]

theorem hex_to_binary_only_pairs (hex octets : List UInt8) (accepted : hexToBinaryLoop hex = some octets) :
    ∃ lead pairs, hex = hexText lead pairs := by
  induction hex using hexToBinaryLoop.induct generalizing octets with
  | case1 => exact ⟨⟨[], by simp⟩, [], rfl⟩
  | case2 c space => exact ⟨⟨[c], by simpa using space⟩, [], rfl⟩
  | case3 c other => simp [hexToBinaryLoop, other] at accepted
  | case4 high low rest space ih =>
      rw [hexToBinaryLoop, if_pos space] at accepted
      obtain ⟨lead, pairs, text⟩ := ih octets accepted
      refine ⟨⟨high :: lead.val, ?_⟩, pairs, by rw [text]; rfl⟩
      intro c member
      rcases List.mem_cons.mp member with rfl | later
      · exact space
      · exact lead.property c later
  | case5 high low rest other bad =>
      rw [hexToBinaryLoop, if_neg other, if_pos bad] at accepted
      cases accepted
  | case6 high low rest other good ih =>
      rw [hexToBinaryLoop, if_neg other, if_neg good] at accepted
      obtain ⟨behind, decoded, -⟩ := Option.map_eq_some_iff.mp accepted
      obtain ⟨lead, pairs, text⟩ := ih behind decoded
      simp only [Bool.or_eq_true, not_or, Bool.not_eq_true] at good
      refine ⟨⟨[], by simp⟩, ⟨⟨high, (non_hex_iff high).mp good.1⟩, ⟨low, (non_hex_iff low).mp good.2⟩, lead⟩ :: pairs, ?_⟩
      rw [text]
      simp [hexText, DigitPair.text]

theorem get_size_hex_text (lead : Blank) (pairs : List DigitPair) : getSize (hexText lead pairs) = 2 * pairs.length := by
  rw [hexText, get_size_append, get_size_blank lead.val lead.property]
  induction pairs with
  | nil => rfl
  | cons pair pairs ih =>
      have high := (hex_digit_facts pair.high.val pair.high.property).1
      have low := (hex_digit_facts pair.low.val pair.low.property).1
      have behind := get_size_blank pair.behind.val pair.behind.property
      have two : getSize pair.text = 2 := by
        rw [getSize] at behind ⊢
        simp [DigitPair.text, high, low, behind]
      rw [List.flatMap_cons, get_size_append, two, List.length_cons]
      omega

theorem get_size_cons (c : UInt8) (text : List UInt8) (other : isSpaceChar c = false) :
    getSize (c :: text) = getSize text + 1 := by
  simp [getSize, other]

theorem hex_loop_inside (size : Nat) (hex : List UInt8) (i : Nat) (buffer : Memory) (room : i + getSize hex ≤ size) :
    hexLoopIn size hex i buffer =
      conversion ((hexToBinaryLoop hex).map fun octets => ⟨store buffer i octets, (i + octets.length : Nat)⟩) := by
  induction hex using hexToBinaryLoop.induct generalizing i buffer with
  | case1 => simp [hexLoopIn, hexToBinaryLoop, conversion, store_nil]
  | case2 c space => simp [hexLoopIn, hexToBinaryLoop, space, conversion, store_nil]
  | case3 c other => simp [hexLoopIn, hexToBinaryLoop, other, conversion]
  | case4 high low rest space ih =>
      rw [hexLoopIn, if_pos space, hexToBinaryLoop, if_pos space]
      apply ih
      have behind : getSize (low :: rest) ≤ getSize (high :: low :: rest) :=
        List.Sublist.countP_le (List.sublist_cons_self high _)
      omega
  | case5 high low rest other bad =>
      rw [hexLoopIn, if_neg other, if_pos bad, hexToBinaryLoop, if_neg other, if_pos bad]
      rfl
  | case6 high low rest other good ih =>
      have digits := good
      simp only [Bool.or_eq_true, not_or, Bool.not_eq_true] at digits
      have lowSpace := (hex_digit_facts low ((non_hex_iff low).mp digits.2)).1
      rw [get_size_cons high _ (by simpa using other), get_size_cons low _ lowSpace] at room
      rw [hexLoopIn, if_neg other, if_neg good, if_neg (by omega), hexToBinaryLoop, if_neg other, if_neg good,
        ih (i + 1) _ (by omega)]
      cases hexToBinaryLoop rest with
      | none => rfl
      | some octets =>
          have count : i + 1 + octets.length = i + (octets.length + 1) := by omega
          simp only [Option.map_some, store_cons, List.length_cons, count]

theorem hex_to_binary_inside (hex : List UInt8) (heap : Memory) (binBytes : Int) :
    hexToBinaryIn hex heap binBytes = conversion (hexToBinary hex heap binBytes) := by
  unfold hexToBinaryIn hexToBinary
  split
  · rfl
  · have inside := hex_loop_inside (getSize hex) hex 0 heap (by omega)
    simpa using inside

theorem hex_to_binary_grammar (hex : List UInt8) (counted : getSize hex ≠ 0) (heap : Memory) (binBytes : Int) :
    ((∃ decoded, hexToBinary hex heap binBytes = some decoded) ↔ ∃ lead pairs, hex = hexText lead pairs) ∧
      (∀ lead pairs, hex = hexText lead pairs → ∃ decoded, hexToBinary hex heap binBytes = some decoded ∧
        decoded.binBytes = pairs.length ∧ pairs.length ≤ getSize hex ∧
        (∀ (k : Nat) (pair : DigitPair), pairs[k]? = some pair → (decoded.buffer k).toNat = pair.value) ∧
        ∀ k, pairs.length ≤ k → decoded.buffer k = heap k) ∧
      hexToBinaryIn hex heap binBytes = conversion (hexToBinary hex heap binBytes) := by
  have decodes (lead : Blank) (pairs : List DigitPair) (text : hex = hexText lead pairs) : hexToBinary hex heap binBytes =
      some ⟨store heap 0 (pairs.map DigitPair.octet), (pairs.map DigitPair.octet).length⟩ := by
    rw [hexToBinary, if_neg counted, text, hex_to_binary_pairs]
    rfl
  refine ⟨⟨?_, ?_⟩, ?_, hex_to_binary_inside hex heap binBytes⟩
  · rintro ⟨decoded, accepted⟩
    rw [hexToBinary, if_neg counted] at accepted
    obtain ⟨octets, looped, -⟩ := Option.map_eq_some_iff.mp accepted
    exact hex_to_binary_only_pairs hex octets looped
  · rintro ⟨lead, pairs, text⟩
    exact ⟨_, decodes lead pairs text⟩
  · intro lead pairs text
    have size := get_size_hex_text lead pairs
    rw [← text] at size
    refine ⟨_, decodes lead pairs text, by simp, by omega, ?_, ?_⟩
    · intro k pair here
      obtain ⟨bound, rfl⟩ := List.getElem?_eq_some_iff.mp here
      have octet : store heap 0 (pairs.map DigitPair.octet) k = pairs[k].octet := by
        rw [store_inside heap 0 k _ (by omega) (by simpa using bound)]
        simp [bound]
      rw [← (digit_pair_octet pairs[k]).1, ← octet]
    · intro k behind
      exact store_outside heap 0 k _ (Or.inr (by simpa using behind))

theorem hex_to_binary_grammar_two : ∃ decoded, hexToBinary [32, 52, 102, 10, 52, 49] (fun _ => 0) 0 = some decoded ∧
    decoded.binBytes = 2 ∧ (decoded.buffer 0).toNat = 0x4F ∧ (decoded.buffer 1).toNat = 0x41 := by
  have whole := hex_to_binary_grammar [32, 52, 102, 10, 52, 49] (by decide) (fun _ => 0) 0
  obtain ⟨decoded, accepted, count, -, octets, -⟩ := whole.2.1 ⟨[32], by simp [isSpaceChar]⟩
    [⟨⟨52, by decide⟩, ⟨102, by decide⟩, ⟨[10], by simp [isSpaceChar]⟩⟩, ⟨⟨52, by decide⟩, ⟨49, by decide⟩, ⟨[], by simp⟩⟩] rfl
  exact ⟨decoded, accepted, count, octets 0 _ rfl, octets 1 _ rfl⟩

end OsiStack
