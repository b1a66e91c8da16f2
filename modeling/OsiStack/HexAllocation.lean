import OsiStack.HexRoundTrip

set_option autoImplicit false

namespace OsiStack

open Octets

-- Octets written one after another from index j on; none at an index beyond the block.
def writeAll (size : Nat) : List UInt8 → Nat → Memory → Option Memory
  | [], _, buffer => some buffer
  | octet :: rest, j, buffer => if j < size then writeAll size rest (j + 1) (store buffer j [octet]) else none

def hexLoopBlock (size : Nat) : List UInt8 → Nat → Nat → Memory → Option (Nat × Memory)
  | [], _, j, buffer => some (j, buffer)
  | octet :: rest, hexCounter, j, buffer =>
      let newline := if hexCounter % 16 = 0 ∧ hexCounter ≠ 0 then [10] else []
      let gap := if rest = [] ∨ (hexCounter + 1) % 16 = 0 then [] else [32]
      (writeAll size newline j buffer).bind fun buffer =>
        (writeAll size (hexPair octet) (j + newline.length) buffer).bind fun buffer =>
          (writeAll size gap (j + newline.length + 2) buffer).bind fun buffer =>
            hexLoopBlock size rest (hexCounter + 1) (j + newline.length + 2 + gap.length) buffer

def hexBlock (n : Nat) : Nat :=
  let nLine := n / 16 + 1
  n * 3 + nLine + 1

def binaryToHexIn (data : List UInt8) (heap : Memory) : Option Memory :=
  (hexLoopBlock (hexBlock data.length) data 0 0 heap).bind fun (j, buffer) =>
    writeAll (hexBlock data.length) [10, 0] j buffer

theorem store_append (m : Memory) (off : Nat) (front back : List UInt8) :
    store (store m off front) (off + front.length) back = store m off (front ++ back) := by
  induction front generalizing m off with
  | nil => rw [store_nil, List.length_nil, Nat.add_zero, List.nil_append]
  | cons b front ih =>
      have place : off + (b :: front).length = off + 1 + front.length := by
        rw [List.length_cons]
        omega
      rw [← store_cons, place, ih, List.cons_append, store_cons]

theorem write_all_room (size : Nat) (octets : List UInt8) (j : Nat) (buffer : Memory) (room : j + octets.length ≤ size) :
    writeAll size octets j buffer = some (store buffer j octets) := by
  induction octets generalizing j buffer with
  | nil => rw [writeAll, store_nil]
  | cons octet rest ih =>
      rw [List.length_cons] at room
      rw [writeAll, if_pos (by omega), ih (j + 1) _ (by omega), store_cons]

theorem hex_loop_block_room (size : Nat) (data : List UInt8) (hexCounter j : Nat) (buffer : Memory)
    (room : j + (binaryToHexLoop data hexCounter).length ≤ size) :
    hexLoopBlock size data hexCounter j buffer =
      some (j + (binaryToHexLoop data hexCounter).length, store buffer j (binaryToHexLoop data hexCounter)) := by
  induction data generalizing hexCounter j buffer with
  | nil =>
      rw [binaryToHexLoop, store_nil]
      rfl
  | cons octet rest ih =>
      rw [hexLoopBlock]
      rw [binaryToHexLoop] at room ⊢
      generalize (if hexCounter % 16 = 0 ∧ hexCounter ≠ 0 then [10] else [] : List UInt8) = newline at room ⊢
      generalize (if rest = [] ∨ (hexCounter + 1) % 16 = 0 then [] else [32] : List UInt8) = gap at room ⊢
      have pair : (hexPair octet).length = 2 := rfl
      have digits : j + newline.length + 2 = j + (newline ++ hexPair octet).length := by
        rw [List.length_append, pair, Nat.add_assoc]
      have behind : j + newline.length + 2 + gap.length = j + (newline ++ hexPair octet ++ gap).length := by
        rw [List.length_append, ← Nat.add_assoc, ← digits]
      have whole (tail : List UInt8) : j + (newline ++ hexPair octet ++ gap).length + tail.length =
          j + (newline ++ hexPair octet ++ gap ++ tail).length := by
        simp only [List.length_append, Nat.add_assoc]
      simp only [List.length_append, pair] at room
      rw [write_all_room size newline j buffer (by omega), Option.bind_some,
        write_all_room size (hexPair octet) _ _ (by omega), Option.bind_some, store_append,
        write_all_room size gap _ _ (by omega), Option.bind_some, digits, store_append,
        ih _ _ _ (by omega), ← digits, behind, store_append, whole]

theorem length_binary_to_hex_loop (data : List UInt8) (hexCounter : Nat) (filled : data ≠ []) :
    (binaryToHexLoop data hexCounter).length + 1 = 3 * data.length +
      if hexCounter % 16 = 0 ∧ hexCounter ≠ 0 then 1 else 0 := by
  induction data generalizing hexCounter with
  | nil => exact absurd rfl filled
  | cons octet rest ih =>
      have pair : (hexPair octet).length = 2 := rfl
      rw [binaryToHexLoop]
      simp only [List.length_append, pair, List.length_cons]
      by_cases last : rest = []
      · rw [last, if_pos (Or.inl rfl), binaryToHexLoop]
        split <;> simp
      · have later := ih (hexCounter + 1) last
        by_cases lineEnd : (hexCounter + 1) % 16 = 0
        · rw [if_pos ⟨lineEnd, Nat.succ_ne_zero _⟩] at later
          rw [if_pos (Or.inr lineEnd)]
          split <;> simp <;> omega
        · have inside : ¬ (rest = [] ∨ (hexCounter + 1) % 16 = 0) := not_or.mpr ⟨last, lineEnd⟩
          rw [if_neg fun both => lineEnd both.1] at later
          rw [if_neg inside]
          split <;> simp <;> omega

theorem binary_to_hex_size (data : List UInt8) :
    (binaryToHex data).length = if data = [] then 1 else 3 * data.length := by
  by_cases empty : data = []
  · rw [if_pos empty, empty]
    rfl
  · have length := length_binary_to_hex_loop data 0 empty
    rw [if_neg fun both => both.2 rfl] at length
    rw [if_neg empty, binaryToHex, List.length_append, List.length_singleton, length, Nat.add_zero]

theorem binary_to_hex_nonzero (data : List UInt8) (c : UInt8) (member : c ∈ binaryToHex data) : c ≠ 0 := by
  by_cases empty : data = []
  · rw [empty] at member
    rw [List.mem_singleton.mp member]
    decide
  · rw [binary_to_hex_pairs data empty] at member
    exact laid_out_nonzero data 0 c member

theorem binary_to_hex_in (data : List UInt8) (heap : Memory) :
    binaryToHexIn data heap = some (store heap 0 (binaryToHex data ++ [0])) := by
  have size := binary_to_hex_size data
  have within : (binaryToHex data).length + 1 ≤ hexBlock data.length := by
    simp only [hexBlock]
    split at size <;> omega
  rw [binaryToHex, List.length_append, List.length_singleton] at within
  rw [binaryToHexIn, hex_loop_block_room _ data 0 0 heap (by omega), Option.bind_some]
  simp only
  rw [write_all_room _ [10, 0] _ _ (by simp only [List.length_cons, List.length_nil]; omega), store_append,
    binaryToHex, List.append_assoc]
  rfl

theorem binary_to_hex_allocation (data : List UInt8) (heap : Memory) :
    ∃ buffer length, binaryToHexIn data heap = some buffer ∧ length = (if data = [] then 1 else 3 * data.length) ∧
      fetch buffer 0 length = binaryToHex data ∧ (∀ k, k < length → buffer k ≠ 0) ∧ buffer length = 0 := by
  have split : store heap 0 (binaryToHex data ++ [0]) =
      store (store heap 0 (binaryToHex data)) (binaryToHex data).length [0] := by
    rw [← store_append, Nat.zero_add]
  refine ⟨_, _, binary_to_hex_in data heap, binary_to_hex_size data, ?_, ?_, ?_⟩
  · rw [split, fetch_store_outside _ _ _ _ _ (Or.inl (by omega)), fetch_store_same _ _ _ _ rfl]
  · intro k inside
    have octet : (binaryToHex data).getD k 0 = (binaryToHex data)[k] := by simp [List.getD, inside]
    rw [split, store_outside _ _ _ _ (Or.inl inside), store_inside _ _ _ _ (Nat.zero_le k) (by omega), Nat.sub_zero, octet]
    exact binary_to_hex_nonzero data _ (List.getElem_mem inside)
  · rw [split, store_octet_same]

end OsiStack
