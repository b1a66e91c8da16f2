import OsiStack.Interaction

set_option autoImplicit false

namespace OsiStack

open Octets

def nonHex (x : UInt8) : Bool := decide (¬ (48 ≤ x ∧ x ≤ 57 ∨ 65 ≤ x ∧ x ≤ 70 ∨ 97 ≤ x ∧ x ≤ 102))

def upperCase (c : UInt8) : UInt8 := c &&& ~~~32

def getSize (hex : List UInt8) : Nat := hex.countP fun c => !isSpaceChar c

def hexDigit (nibble : UInt8) : UInt8 := if nibble < 10 then nibble + 48 else nibble - 10 + 65

def hexPair (octet : UInt8) : List UInt8 := [hexDigit ((octet >>> 4) &&& 0xF), hexDigit (octet &&& 0xF)]

-- A newline goes before every sixteenth pair but the first, a space after every
-- pair that is neither the last of the data nor of a line.
def binaryToHexLoop : List UInt8 → Nat → List UInt8
  | [], _ => []
  | octet :: rest, hexCounter =>
      let newline := if hexCounter % 16 = 0 ∧ hexCounter ≠ 0 then [10] else []
      let gap := if rest = [] ∨ (hexCounter + 1) % 16 = 0 then [] else [32]
      newline ++ hexPair octet ++ gap ++ binaryToHexLoop rest (hexCounter + 1)

def binaryToHex (data : List UInt8) : List UInt8 := binaryToHexLoop data 0 ++ [10]

def hexValue (digit : UInt8) : UInt8 := if 48 ≤ digit ∧ digit ≤ 57 then digit - 48 else upperCase digit + 10 - 65

def hexToBinaryLoop : List UInt8 → Option (List UInt8)
  | [] => some []
  | [c] => if isSpaceChar c then some [] else none
  | high :: low :: rest =>
      if isSpaceChar high then hexToBinaryLoop (low :: rest)
      else if nonHex high || nonHex low then none
      else (hexToBinaryLoop rest).map fun octets => (hexValue high <<< 4 ||| hexValue low) :: octets

structure Decoded where
  buffer : Memory
  binBytes : Int

-- `heap` is what the block from malloc holds. Text without a digit returns before
-- bin_bytes is set.
def hexToBinary (hex : List UInt8) (heap : Memory) (binBytes : Int) : Option Decoded :=
  if getSize hex = 0 then some ⟨heap, binBytes⟩
  else (hexToBinaryLoop hex).map fun octets => ⟨store heap 0 octets, octets.length⟩

def spaced : List UInt8 → List UInt8
  | [] => []
  | [octet] => hexPair octet
  | octet :: next :: rest => hexPair octet ++ 32 :: spaced (next :: rest)

theorem binary_to_hex_inner (line rest : List UInt8) (hexCounter : Nat) (filled : line ≠ [])
    (ends : hexCounter % 16 + line.length = 16 ∨ rest = [] ∧ hexCounter % 16 + line.length ≤ 16) :
    binaryToHexLoop (line ++ rest) hexCounter =
      (if hexCounter % 16 = 0 ∧ hexCounter ≠ 0 then [10] else []) ++ spaced line ++
        binaryToHexLoop rest (hexCounter + line.length) := by
  induction line using spaced.induct generalizing hexCounter with
  | case1 => exact absurd rfl filled
  | case2 octet =>
      have last : rest = [] ∨ (hexCounter + 1) % 16 = 0 := by
        simp only [List.length_singleton] at ends
        rcases ends with full | ⟨empty, -⟩
        · exact Or.inr (by omega)
        · exact Or.inl empty
      rw [List.singleton_append, binaryToHexLoop]
      simp [last, spaced]
  | case3 octet next line ih =>
      simp only [List.length_cons] at ends ih
      have inner : ¬ (next :: (line ++ rest) = [] ∨ (hexCounter + 1) % 16 = 0) := by
        simp only [List.cons_ne_nil, false_or]
        omega
      have newline : ¬ ((hexCounter + 1) % 16 = 0 ∧ hexCounter + 1 ≠ 0) := by omega
      have later := ih (hexCounter + 1) (by simp) (ends.imp (fun full => by omega) fun short => ⟨short.1, by omega⟩)
      have size : hexCounter + (line.length + 1 + 1) = hexCounter + 1 + (line.length + 1) := by omega
      rw [if_neg newline, List.nil_append] at later
      rw [List.cons_append, binaryToHexLoop]
      simp only [List.cons_append] at inner later ⊢
      simp only [if_neg inner, later, size, spaced, List.append_assoc, List.cons_append, List.nil_append, List.length_cons]

theorem binary_to_hex_line (data : List UInt8) (hexCounter : Nat) (line : hexCounter + data.length ≤ 16) :
    binaryToHexLoop data hexCounter = spaced data := by
  by_cases empty : data = []
  · rw [empty]
    rfl
  · have positive := List.length_pos_of_ne_nil empty
    have first : ¬ (hexCounter % 16 = 0 ∧ hexCounter ≠ 0) := by omega
    have inner := binary_to_hex_inner data [] hexCounter empty (Or.inr ⟨rfl, by omega⟩)
    rw [if_neg first, List.append_nil, List.nil_append] at inner
    rw [inner, binaryToHexLoop, List.append_nil]

theorem hex_pair_digits (octet : UInt8) : ∃ high low, hexPair octet = [high, low] ∧ isSpaceChar high = false ∧
    isSpaceChar low = false ∧ nonHex high = false ∧ nonHex low = false ∧ high ≠ 0 ∧ low ≠ 0 ∧
    hexValue high <<< 4 ||| hexValue low = octet := by
  have all := every_octet (fun octet =>
      let high := hexDigit ((octet >>> 4) &&& 0xF)
      let low := hexDigit (octet &&& 0xF)
      isSpaceChar high = false ∧ isSpaceChar low = false ∧ nonHex high = false ∧ nonHex low = false ∧ high ≠ 0 ∧ low ≠ 0 ∧
      hexValue high <<< 4 ||| hexValue low = octet) (by decide +kernel)
  exact ⟨_, _, rfl, all octet⟩

theorem hex_to_binary_space (c : UInt8) (rest : List UInt8) (space : isSpaceChar c = true) :
    hexToBinaryLoop (c :: rest) = hexToBinaryLoop rest := by
  cases rest with
  | nil => simp [hexToBinaryLoop, space]
  | cons low rest => rw [hexToBinaryLoop, if_pos space]

theorem hex_to_binary_blank (lead rest : List UInt8) (blank : ∀ c ∈ lead, isSpaceChar c = true) :
    hexToBinaryLoop (lead ++ rest) = hexToBinaryLoop rest := by
  induction lead with
  | nil => rfl
  | cons c lead ih =>
      rw [List.cons_append, hex_to_binary_space c _ (blank c List.mem_cons_self)]
      exact ih fun later member => blank later (List.mem_cons_of_mem c member)

theorem hex_to_binary_pair (octet : UInt8) (rest : List UInt8) :
    hexToBinaryLoop (hexPair octet ++ rest) = (hexToBinaryLoop rest).map fun octets => octet :: octets := by
  obtain ⟨high, low, pair, highSpace, _, highHex, lowHex, _, _, value⟩ := hex_pair_digits octet
  simp only [pair, List.cons_append, List.nil_append, hexToBinaryLoop, highSpace, highHex, lowHex, value]
  rfl

theorem hex_to_binary_line (data behind : List UInt8) (blank : ∀ c ∈ behind, isSpaceChar c = true) :
    hexToBinaryLoop (spaced data ++ behind) = some data := by
  induction data using spaced.induct with
  | case1 =>
      have empty := hex_to_binary_blank behind [] blank
      rw [List.append_nil] at empty
      exact empty
  | case2 octet =>
      have empty := hex_to_binary_blank behind [] blank
      rw [List.append_nil] at empty
      rw [spaced, hex_to_binary_pair, empty]
      rfl
  | case3 octet next rest ih =>
      rw [spaced, List.append_assoc, hex_to_binary_pair, List.cons_append, hex_to_binary_space 32 _ (by decide), ih]
      rfl

theorem get_size_append (left right : List UInt8) : getSize (left ++ right) = getSize left + getSize right :=
  List.countP_append

theorem get_size_pair (octet : UInt8) : getSize (hexPair octet) = 2 := by
  obtain ⟨high, low, pair, highSpace, lowSpace, _⟩ := hex_pair_digits octet
  simp [getSize, pair, highSpace, lowSpace]

theorem get_size_blank (lead : List UInt8) (blank : ∀ c ∈ lead, isSpaceChar c = true) : getSize lead = 0 := by
  rw [getSize, List.countP_eq_zero]
  intro c member
  simp [blank c member]

theorem get_size_spaced (data : List UInt8) : getSize (spaced data) = 2 * data.length := by
  induction data using spaced.induct with
  | case1 => rfl
  | case2 octet => rw [spaced, get_size_pair]; rfl
  | case3 octet next rest ih =>
      have gap : getSize (32 :: spaced (next :: rest)) = getSize (spaced (next :: rest)) := by simp [getSize, isSpaceChar]
      rw [spaced, get_size_append, get_size_pair, gap, ih]
      simp only [List.length_cons]
      omega

theorem spaced_length (data : List UInt8) : (spaced data).length ≤ 3 * data.length - 1 := by
  induction data using spaced.induct with
  | case1 => simp [spaced]
  | case2 octet => simp [spaced, hexPair]
  | case3 octet next rest ih =>
      simp only [spaced, hexPair, List.length_append, List.length_cons, List.length_nil] at ih ⊢
      omega

theorem spaced_nonzero (data : List UInt8) (c : UInt8) (member : c ∈ spaced data) : c ≠ 0 := by
  have pairNonzero (octet : UInt8) (inside : c ∈ hexPair octet) : c ≠ 0 := by
    obtain ⟨high, low, pair, _, _, _, _, highSome, lowSome, _⟩ := hex_pair_digits octet
    rw [pair] at inside
    simp only [List.mem_cons, List.not_mem_nil, or_false] at inside
    rcases inside with rfl | rfl
    · exact highSome
    · exact lowSome
  induction data using spaced.induct with
  | case1 => simp [spaced] at member
  | case2 octet => exact pairNonzero octet member
  | case3 octet next rest ih =>
      rw [spaced, List.mem_append, List.mem_cons] at member
      rcases member with first | gap | later
      · exact pairNonzero octet first
      · rw [gap]; decide
      · exact ih later

theorem spaced_last (data : List UInt8) (filled : data ≠ []) :
    ∃ init low, spaced data = init ++ [low] ∧ isSpaceChar low = false := by
  induction data using spaced.induct with
  | case1 => exact absurd rfl filled
  | case2 octet =>
      obtain ⟨high, low, pair, _, lowSpace, _⟩ := hex_pair_digits octet
      exact ⟨[high], low, by rw [spaced, pair]; rfl, lowSpace⟩
  | case3 octet next rest ih =>
      obtain ⟨init, low, text, lowSpace⟩ := ih (by simp)
      exact ⟨hexPair octet ++ 32 :: init, low, by rw [spaced, text]; simp, lowSpace⟩

theorem hex_to_binary_text (data lead behind : List UInt8) (filled : data ≠ []) (heap : Memory) (binBytes : Int)
    (blank : ∀ c ∈ lead, isSpaceChar c = true) (blankBehind : ∀ c ∈ behind, isSpaceChar c = true) :
    hexToBinary (lead ++ spaced data ++ behind) heap binBytes = some ⟨store heap 0 data, data.length⟩ := by
  have positive := List.length_pos_of_ne_nil filled
  have size : getSize (lead ++ spaced data ++ behind) ≠ 0 := by
    rw [get_size_append, get_size_append, get_size_spaced]
    omega
  rw [hexToBinary, if_neg size, List.append_assoc, hex_to_binary_blank lead _ blank,
    hex_to_binary_line data behind blankBehind]
  rfl

end OsiStack
