import OsiStack.HexGrammar

set_option autoImplicit false

namespace OsiStack

open Octets

def isLowerChar (c : UInt8) : Bool := 97 ≤ c && c ≤ 122

def capital (c : UInt8) : UInt8 := if isLowerChar c then c - 32 else c

-- Pair `k` of the digits and its separator: a newline behind the last pair and
-- behind every sixteenth, a space behind the others.
def laidOut : List UInt8 → Nat → List UInt8
  | high :: low :: rest, k => high :: low :: (if rest = [] ∨ (k + 1) % 16 = 0 then 10 else 32) :: laidOut rest (k + 1)
  | _, _ => []

def normalised (text : List UInt8) : List UInt8 := laidOut ((text.filter fun c => !isSpaceChar c).map capital) 0

theorem hex_digit_capital (c : UInt8) (digit : IsHexDigit c) : hexDigit (UInt8.ofNat (digitValue c)) = capital c := by
  have all := every_octet (fun c => IsHexDigit c → hexDigit (UInt8.ofNat (digitValue c)) = capital c) (by decide +kernel)
  exact all c digit

theorem value_nibbles (high low : Nat) (highBound : high < 16) (lowBound : low < 16) :
    (UInt8.ofNat (16 * high + low) >>> 4) &&& 0xF = UInt8.ofNat high ∧
      UInt8.ofNat (16 * high + low) &&& 0xF = UInt8.ofNat low := by
  have all : ∀ a b : Fin 16, (UInt8.ofNat (16 * a + b) >>> 4) &&& 0xF = UInt8.ofNat a ∧
      UInt8.ofNat (16 * a + b) &&& 0xF = UInt8.ofNat b := by decide +kernel
  exact all ⟨high, highBound⟩ ⟨low, lowBound⟩

theorem hex_pair_octet (pair : DigitPair) : hexPair pair.octet = [capital pair.high.val, capital pair.low.val] := by
  have highBound := (hex_digit_facts pair.high.val pair.high.property).2.1
  have lowBound := (hex_digit_facts pair.low.val pair.low.property).2.1
  obtain ⟨high, low⟩ := value_nibbles _ _ highBound lowBound
  rw [hexPair, DigitPair.octet, DigitPair.value, high, low, hex_digit_capital _ pair.high.property,
    hex_digit_capital _ pair.low.property]

theorem blank_filter (blank : Blank) : blank.val.filter (fun c => !isSpaceChar c) = [] := by
  rw [List.filter_eq_nil_iff]
  intro c member
  simp [blank.property c member]

theorem hex_text_digits (lead : Blank) (pairs : List DigitPair) :
    ((hexText lead pairs).filter fun c => !isSpaceChar c).map capital = (pairs.map DigitPair.octet).flatMap hexPair := by
  rw [hexText, List.filter_append, blank_filter, List.nil_append]
  induction pairs with
  | nil => rfl
  | cons pair pairs ih =>
      have high := (hex_digit_facts pair.high.val pair.high.property).1
      have low := (hex_digit_facts pair.low.val pair.low.property).1
      have behind := blank_filter pair.behind
      rw [List.flatMap_cons, List.filter_append, List.map_append, ih, List.map_cons, List.flatMap_cons, hex_pair_octet]
      simp [DigitPair.text, high, low, behind]

theorem binary_to_hex_laid_out (data : List UInt8) (hexCounter : Nat) (filled : data ≠ []) :
    binaryToHexLoop data hexCounter ++ [10] =
      (if hexCounter % 16 = 0 ∧ hexCounter ≠ 0 then [10] else []) ++ laidOut (data.flatMap hexPair) hexCounter := by
  induction data using spaced.induct generalizing hexCounter with
  | case1 => exact absurd rfl filled
  | case2 octet => simp [binaryToHexLoop, hexPair, laidOut]
  | case3 octet next rest ih =>
      have later := ih (hexCounter + 1) (by simp)
      have more : (next :: rest).flatMap hexPair ≠ [] := by simp [hexPair]
      rw [binaryToHexLoop, List.append_assoc, later, List.flatMap_cons]
      by_cases full : (hexCounter + 1) % 16 = 0
      · simp [hexPair, laidOut, full]
      · simp [hexPair, laidOut, full]

theorem binary_to_hex_pairs (data : List UInt8) (filled : data ≠ []) :
    binaryToHex data = laidOut (data.flatMap hexPair) 0 := by
  have text := binary_to_hex_laid_out data 0 filled
  rw [if_neg (by simp), List.nil_append] at text
  exact text

theorem hex_to_binary_laid_out (data : List UInt8) (k : Nat) : hexToBinaryLoop (laidOut (data.flatMap hexPair) k) =
    some data := by
  induction data generalizing k with
  | nil => rfl
  | cons octet data ih =>
      have blank : isSpaceChar (if data.flatMap hexPair = [] ∨ (k + 1) % 16 = 0 then 10 else 32) = true := by
        split <;> decide
      have split : laidOut ((octet :: data).flatMap hexPair) k = hexPair octet ++
          (if data.flatMap hexPair = [] ∨ (k + 1) % 16 = 0 then 10 else 32) :: laidOut (data.flatMap hexPair) (k + 1) := rfl
      rw [split, hex_to_binary_pair, hex_to_binary_space _ _ blank, ih]
      rfl

theorem laid_out_nonzero (data : List UInt8) (k : Nat) (c : UInt8) (member : c ∈ laidOut (data.flatMap hexPair) k) :
    c ≠ 0 := by
  induction data generalizing k with
  | nil => simp [laidOut] at member
  | cons octet data ih =>
      obtain ⟨high, low, pair, -, -, -, -, highSome, lowSome, -⟩ := hex_pair_digits octet
      rw [List.flatMap_cons, pair, List.cons_append, List.cons_append, List.nil_append, laidOut, List.mem_cons, List.mem_cons,
        List.mem_cons] at member
      rcases member with rfl | rfl | rfl | later
      · exact highSome
      · exact lowSome
      · split <;> decide
      · exact ih (k + 1) later

theorem get_size_laid_out (data : List UInt8) (k : Nat) : getSize (laidOut (data.flatMap hexPair) k) = 2 * data.length := by
  obtain ⟨lead, pairs, text⟩ := hex_to_binary_only_pairs _ data (hex_to_binary_laid_out data k)
  have octets := hex_to_binary_laid_out data k
  rw [text, hex_to_binary_pairs, Option.some.injEq] at octets
  rw [text, get_size_hex_text, ← octets, List.length_map]

theorem hex_round_trip :
    (∀ data heap binBytes, data ≠ [] → (∀ c ∈ binaryToHex data, c ≠ 0) ∧
      ∃ decoded, hexToBinary (binaryToHex data) heap binBytes = some decoded ∧ decoded.binBytes = data.length ∧
        fetch decoded.buffer 0 data.length = data) ∧
      ∀ text heap binBytes decoded, getSize text ≠ 0 → hexToBinary text heap binBytes = some decoded →
        binaryToHex (fetch decoded.buffer 0 decoded.binBytes.toNat) = normalised text := by
  constructor
  · intro data heap binBytes filled
    have size := get_size_laid_out data 0
    have positive := List.length_pos_of_ne_nil filled
    rw [binary_to_hex_pairs data filled]
    refine ⟨laid_out_nonzero data 0, ⟨store heap 0 data, data.length⟩, ?_, rfl, fetch_store_same heap 0 _ data rfl⟩
    rw [hexToBinary, if_neg (by omega), hex_to_binary_laid_out]
    rfl
  · intro text heap binBytes decoded counted accepted
    rw [hexToBinary, if_neg counted] at accepted
    obtain ⟨octets, looped, rfl⟩ := Option.map_eq_some_iff.mp accepted
    obtain ⟨lead, pairs, rfl⟩ := hex_to_binary_only_pairs text octets looped
    rw [hex_to_binary_pairs, Option.some.injEq] at looped
    subst looped
    have digits := get_size_hex_text lead pairs
    have nonempty : pairs.map DigitPair.octet ≠ [] := by
      intro empty
      rw [List.map_eq_nil_iff] at empty
      rw [empty, List.length_nil] at digits
      rw [empty] at counted
      exact counted digits
    have whole : fetch (store heap 0 (pairs.map DigitPair.octet)) 0 (pairs.map DigitPair.octet).length =
        pairs.map DigitPair.octet := fetch_store_same heap 0 _ _ rfl
    rw [Int.toNat_natCast, whole, normalised, hex_text_digits, binary_to_hex_pairs _ nonempty]

theorem hex_round_trip_two :
    (∃ decoded, hexToBinary (binaryToHex [0x4F, 0x81]) (fun _ => 0) 0 = some decoded ∧ decoded.binBytes = 2 ∧
      fetch decoded.buffer 0 2 = [0x4F, 0x81]) ∧
      binaryToHex (fetch (store (fun _ => 0) 0 [0x4F, 0x41]) 0 2) = normalised [32, 52, 102, 10, 52, 49] ∧
      normalised [32, 52, 102, 10, 52, 49] = [52, 70, 32, 52, 49, 10] := by
  refine ⟨(hex_round_trip.1 [0x4F, 0x81] (fun _ => 0) 0 (by decide)).2, ?_, by decide⟩
  exact hex_round_trip.2 [32, 52, 102, 10, 52, 49] (fun _ => 0) 0 ⟨store (fun _ => 0) 0 [0x4F, 0x41], 2⟩ (by decide) rfl

end OsiStack
