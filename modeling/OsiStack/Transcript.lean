import OsiStack.HexAllocation
import OsiStack.HexRoundTrip
import OsiStack.NumberText
import OsiStack.Pipe

set_option autoImplicit false

namespace OsiStack

open Octets

def frameHeading (len : Nat) : List UInt8 :=
  NumberText.ascii "received frame, length " ++ (NumberText.decimal len ++ NumberText.ascii ":\n")

def frameReport (len : Nat) (frame : List UInt8) : List UInt8 := frameHeading len ++ (binaryToHex frame ++ [10])

-- The loop over the calls of receive_ethernet_frame, up to the first that has no frame.
def receiverLoop : List Reads → (Nat → Stale) → List UInt8 → List UInt8
  | [], _, _ => []
  | reads :: rest, stale, pipe =>
      let received := receiveEthernetFrame reads (stale 0) pipe
      if 0 < received.len then
        frameReport received.len (fetch received.buf 0 received.len) ++
          receiverLoop rest (fun call => stale (call + 1)) received.pipe
      else []

def transcript (frames : List (List UInt8)) : List UInt8 := frames.flatMap fun frame => frameReport frame.length frame

theorem receiver_loop_prints (reads : List Reads) (frames : List (List UInt8))
    (sizes : ∀ frame ∈ frames, 0 < frame.length ∧ frame.length < 65536) (full : List.Forall₂ FullReads reads frames)
    (stale : Nat → Stale) : receiverLoop reads stale (wire frames) = transcript frames := by
  induction full generalizing stale with
  | nil => rfl
  | @cons reads frame rest frames first others ih =>
      obtain ⟨filled, short⟩ := sizes frame List.mem_cons_self
      have received := pipe_full reads (stale 0) frame (wire frames) short first
      have split : wire (frame :: frames) = wireOctets frame ++ wire frames := rfl
      rw [receiverLoop, split, received]
      simp only
      rw [if_pos filled, ih (fun later member => sizes later (List.mem_cons_of_mem frame member)),
        fetch_store_same _ 0 _ _ rfl]
      rfl

theorem binary_to_hex_injective (left right : List UInt8) (filled : left ≠ []) (filled' : right ≠ [])
    (same : binaryToHex left = binaryToHex right) : left = right := by
  have decoded := congrArg hexToBinaryLoop same
  rw [binary_to_hex_pairs left filled, binary_to_hex_pairs right filled', hex_to_binary_laid_out,
    hex_to_binary_laid_out] at decoded
  exact Option.some.inj decoded

theorem heading_length (m n : Nat) (rest rest' : List UInt8) (same : frameHeading m ++ rest = frameHeading n ++ rest') :
    m = n ∧ rest = rest' := by
  have colon : NumberText.ascii ":\n" = 58 :: [10] := rfl
  simp only [frameHeading, colon, List.append_assoc, List.cons_append, List.nil_append] at same
  obtain ⟨number, behind⟩ := NumberText.piece_first 58 _ _ _ _ (NumberText.decimal_other m 58 (by decide))
    (NumberText.decimal_other n 58 (by decide)) (List.append_cancel_left same)
  exact ⟨NumberText.decimal_injective m n number, (List.cons_eq_cons.mp behind).2⟩

theorem report_first (frame frame' rest rest' : List UInt8) (filled : frame ≠ []) (filled' : frame' ≠ [])
    (same : frameReport frame.length frame ++ rest = frameReport frame'.length frame' ++ rest') :
    frame = frame' ∧ rest = rest' := by
  rw [frameReport, frameReport, List.append_assoc, List.append_assoc (frameHeading frame'.length)] at same
  obtain ⟨lengths, behind⟩ := heading_length _ _ _ _ same
  have size : (binaryToHex frame ++ [10]).length = (binaryToHex frame' ++ [10]).length := by
    rw [List.length_append, List.length_append, binary_to_hex_size, binary_to_hex_size, if_neg filled, if_neg filled', lengths]
  obtain ⟨line, later⟩ := List.append_inj behind size
  exact ⟨binary_to_hex_injective frame frame' filled filled' (List.append_cancel_right line), later⟩

theorem report_filled (frame : List UInt8) (rest : List UInt8) : frameReport frame.length frame ++ rest ≠ [] := by
  simp [frameReport]

theorem transcript_injective (frames frames' : List (List UInt8)) (filled : ∀ frame ∈ frames, frame ≠ [])
    (filled' : ∀ frame ∈ frames', frame ≠ []) (same : transcript frames = transcript frames') : frames = frames' := by
  induction frames generalizing frames' with
  | nil =>
      cases frames' with
      | nil => rfl
      | cons frame' frames' => exact absurd same.symm (report_filled frame' _)
  | cons frame frames ih =>
      cases frames' with
      | nil => exact absurd same (report_filled frame _)
      | cons frame' frames' =>
          obtain ⟨first, later⟩ := report_first frame frame' _ _ (filled frame List.mem_cons_self)
            (filled' frame' List.mem_cons_self) same
          rw [first, ih frames' (fun x member => filled x (List.mem_cons_of_mem frame member))
            (fun x member => filled' x (List.mem_cons_of_mem frame' member)) later]

theorem receiver_prints_frames (reads : List Reads) (frames : List (List UInt8)) (stale : Nat → Stale)
    (sizes : ∀ frame ∈ frames, 0 < frame.length ∧ frame.length ≤ 1600) (full : List.Forall₂ FullReads reads frames) :
    receiverLoop reads stale (wire frames) = transcript frames ∧
      ∀ frames', (∀ frame ∈ frames', frame ≠ []) → transcript frames' = receiverLoop reads stale (wire frames) →
        frames' = frames := by
  have prints := receiver_loop_prints reads frames (fun frame member => by
    obtain ⟨filled, short⟩ := sizes frame member
    exact ⟨filled, by omega⟩) full stale
  refine ⟨prints, fun frames' filled' same => ?_⟩
  rw [prints] at same
  exact transcript_injective frames' frames filled' (fun frame member => List.ne_nil_of_length_pos (sizes frame member).1) same

theorem receiver_prints_two : receiverLoop [⟨2, 3, by decide, by decide⟩, ⟨9, 1, by decide, by decide⟩]
    (fun _ => ⟨7, fun _ => 1⟩) (wire [[1, 2, 3], [255]]) = transcript [[1, 2, 3], [255]] :=
  (receiver_prints_frames _ [[1, 2, 3], [255]] _ (by decide) (.cons ⟨by decide, by decide⟩
    (.cons ⟨by decide, by decide⟩ .nil))).1

end OsiStack
