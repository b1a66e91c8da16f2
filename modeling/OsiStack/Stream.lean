import Mathlib.Tactic.Common

set_option autoImplicit false

namespace Stream

section
variable {α : Type}

abbrev Piece (α : Type) := UInt32 × List α

def content (pieces : List (Piece α)) : List α := (pieces.map Prod.snd).flatten

def lastEnd (first : UInt32) (pieces : List (Piece α)) : UInt32 :=
  pieces.foldl (fun _ piece => piece.1 + UInt32.ofNat piece.2.length) first

def InOrder (first : UInt32) (stream : List α) : Nat → List (Piece α) → Prop
  | _, [] => True
  | n, piece :: rest => piece.1 = first + UInt32.ofNat n ∧ piece.2 <+: stream.drop n ∧
      InOrder first stream (n + piece.2.length) rest

theorem last_end_append (first : UInt32) (pieces : List (Piece α)) (piece : Piece α) :
    lastEnd first (pieces ++ [piece]) = piece.1 + UInt32.ofNat piece.2.length := by
  simp [lastEnd]

theorem last_end_mem (first : UInt32) (pieces : List (Piece α)) : lastEnd first pieces = first ∨
    ∃ piece ∈ pieces, lastEnd first pieces = piece.1 + UInt32.ofNat piece.2.length := by
  rcases List.eq_nil_or_concat pieces with rfl | ⟨before, piece, rfl⟩
  · exact Or.inl rfl
  · rw [List.concat_eq_append]
    exact Or.inr ⟨piece, by simp, last_end_append first before piece⟩

theorem content_append (before after : List (Piece α)) : content (before ++ after) = content before ++ content after := by
  simp [content]

theorem content_cons (piece : Piece α) (rest : List (Piece α)) : content (piece :: rest) = piece.2 ++ content rest := by
  simp [content]

theorem in_order_append (first : UInt32) (stream : List α) (n : Nat) (before after : List (Piece α))
    (ordered : InOrder first stream n (before ++ after)) : InOrder first stream n before := by
  induction before generalizing n with
  | nil => trivial
  | cons piece rest ih => exact ⟨ordered.1, ordered.2.1, ih (n + piece.2.length) ordered.2.2⟩

theorem in_order_prefix (first : UInt32) (stream : List α) (n : Nat) (pieces : List (Piece α))
    (ordered : InOrder first stream n pieces) : content pieces <+: stream.drop n := by
  induction pieces generalizing n with
  | nil => exact List.nil_prefix
  | cons piece rest ih =>
      obtain ⟨-, ⟨tail, split⟩, later⟩ := ordered
      have behind := ih (n + piece.2.length) later
      have dropped : stream.drop (n + piece.2.length) = tail := by
        rw [← List.drop_drop, ← split, List.drop_left]
      rw [content_cons, ← split, List.prefix_append_right_inj, ← dropped]
      exact behind

theorem in_order_end (first : UInt32) (stream : List α) (n : Nat) (pieces : List (Piece α))
    (ordered : InOrder first stream n pieces) :
    lastEnd (first + UInt32.ofNat n) pieces = first + UInt32.ofNat (n + (content pieces).length) := by
  induction pieces generalizing n with
  | nil => rfl
  | cons piece rest ih =>
      have next : piece.1 + UInt32.ofNat piece.2.length = first + UInt32.ofNat (n + piece.2.length) := by
        rw [ordered.1, UInt32.ofNat_add, UInt32.add_assoc]
      have later := ih (n + piece.2.length) ordered.2.2
      rw [← next] at later
      rw [content_cons, List.length_append, ← Nat.add_assoc, ← later]
      rfl

theorem in_order_mem (first : UInt32) (stream : List α) (n : Nat) (pieces : List (Piece α))
    (ordered : InOrder first stream n pieces) (piece : Piece α) (member : piece ∈ pieces) :
    ∃ k, k ≤ (content pieces).length ∧ piece.1 + UInt32.ofNat piece.2.length = first + UInt32.ofNat (n + k) := by
  induction pieces generalizing n with
  | nil => cases member
  | cons head rest ih =>
      rw [content_cons, List.length_append]
      rcases List.mem_cons.mp member with rfl | later
      · refine ⟨piece.2.length, by omega, ?_⟩
        rw [ordered.1, UInt32.ofNat_add, UInt32.add_assoc]
      · obtain ⟨k, inside, number⟩ := ih (n + head.2.length) ordered.2.2 later
        exact ⟨head.2.length + k, by omega, by rw [number, Nat.add_assoc]⟩

end

end Stream
