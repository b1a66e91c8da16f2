import OsiStack.Frame
import OsiStack.TcpChecksum

set_option autoImplicit false

namespace OsiStack

open Octets

def wireOctets (frame : List UInt8) : List UInt8 := bytes16 (htons (UInt16.ofNat frame.length)) ++ frame

def readSome (cap want : Nat) (pipe : List UInt8) : List UInt8 × List UInt8 :=
  (pipe.take (min cap want), pipe.drop (min cap want))

-- How many octets the system is ready to give in the two reads of one call.
structure Reads where
  lengthCap : Nat
  frameCap : Nat
  lengthSome : 0 < lengthCap
  frameSome : 0 < frameCap

-- What nbo_len and the caller's buffer hold before the call; neither is initialised.
structure Stale where
  nboLen : UInt16
  buf : Memory

structure Received where
  len : Nat
  buf : Memory
  pipe : List UInt8

-- The results of both reads are ignored.
def receiveEthernetFrame (reads : Reads) (stale : Stale) (pipe : List UInt8) : Received :=
  let first := readSome reads.lengthCap 2 pipe
  let nboLen := load16 (store (ofList (bytes16 stale.nboLen)) 0 first.1) 0
  let len := (ntohs nboLen).toNat
  let second := readSome reads.frameCap len first.2
  ⟨len, store stale.buf 0 second.1, second.2⟩

def receiveAll : List Reads → (Nat → Stale) → List UInt8 → List (List UInt8)
  | [], _, _ => []
  | reads :: rest, stale, pipe =>
      let received := receiveEthernetFrame reads (stale 0) pipe
      fetch received.buf 0 received.len :: receiveAll rest (fun call => stale (call + 1)) received.pipe

def FullReads (reads : Reads) (frame : List UInt8) : Prop := 2 ≤ reads.lengthCap ∧ frame.length ≤ reads.frameCap

section
variable (reads : Reads) (stale : Stale) (frame behind : List UInt8)

theorem read_some_whole (cap : Nat) (octets : List UInt8) (full : octets.length ≤ cap) :
    readSome cap octets.length (octets ++ behind) = (octets, behind) := by
  rw [readSome, Nat.min_eq_right full, List.take_left, List.drop_left]

theorem pipe_length (short : frame.length < 65536) (whole : 2 ≤ reads.lengthCap) :
    receiveEthernetFrame reads stale (wireOctets frame ++ behind) =
      ⟨frame.length, store stale.buf 0 (readSome reads.frameCap frame.length (frame ++ behind)).1,
        (readSome reads.frameCap frame.length (frame ++ behind)).2⟩ := by
  have first := read_some_whole (frame ++ behind) reads.lengthCap (bytes16 (htons (UInt16.ofNat frame.length))) whole
  have len : (ntohs (htons (UInt16.ofNat frame.length))).toNat = frame.length := by
    rw [ntohs_ntohs, UInt16.toNat_ofNat']
    omega
  rw [bytes16_length] at first
  rw [receiveEthernetFrame, wireOctets, List.append_assoc, first]
  simp only [load16_store16, len]

theorem pipe_full (short : frame.length < 65536) (full : FullReads reads frame) :
    receiveEthernetFrame reads stale (wireOctets frame ++ behind) = ⟨frame.length, store stale.buf 0 frame, behind⟩ := by
  rw [pipe_length reads stale frame behind short full.1, read_some_whole behind reads.frameCap frame full.2]

end

theorem split_length_value (high second : UInt8) :
    (ntohs (word16 [high, second])).toNat = 256 * high.toNat + second.toNat := by
  have highBound := high.toNat_lt
  have secondBound := second.toNat_lt
  have value : (word16 [high, second]).toNat = high.toNat + 256 * second.toNat := by
    simp [word16]
    omega
  rw [ntohs_toNat, value]
  omega

theorem pipe_split_length (reads : Reads) (frame behind : List UInt8) (split : reads.lengthCap < 2) :
    ∃ stale, (receiveEthernetFrame reads stale (wireOctets frame ++ behind)).len ≠ frame.length := by
  have one : reads.lengthCap = 1 := by have positive := reads.lengthSome; omega
  refine ⟨⟨UInt16.ofNat (256 * ((frame.length + 1) % 256)), fun _ => 0⟩, ?_⟩
  generalize highEq : UInt8.ofNat ((UInt16.ofNat frame.length).toNat / 256) = high
  have first : readSome 1 2 (wireOctets frame ++ behind) = ([high], (wireOctets frame ++ behind).tail) := by
    rw [wireOctets, bytes16_htons, highEq]
    rfl
  have second : (UInt8.ofNat ((UInt16.ofNat (256 * ((frame.length + 1) % 256))).toNat / 256)).toNat =
      (frame.length + 1) % 256 := by
    rw [UInt8.toNat_ofNat', UInt16.toNat_ofNat']
    omega
  have overlaid (n : UInt16) : load16 (store (ofList (bytes16 n)) 0 [high]) 0 =
    word16 [high, UInt8.ofNat (n.toNat / 256)] := rfl
  simp only [receiveEthernetFrame, one, first, overlaid, split_length_value, second]
  omega

theorem pipe_split_frame (reads : Reads) (frame behind : List UInt8) (short : frame.length < 65536)
    (whole : 2 ≤ reads.lengthCap) (split : reads.frameCap < frame.length) :
    ∃ stale, fetch (receiveEthernetFrame reads stale (wireOctets frame ++ behind)).buf 0 frame.length ≠ frame := by
  refine ⟨⟨0, fun _ => frame.getD reads.frameCap 0 + 1⟩, fun same => ?_⟩
  rw [pipe_length reads _ frame behind short whole] at same
  have given : (readSome reads.frameCap frame.length (frame ++ behind)).1.length = reads.frameCap := by
    simp [readSome]
    omega
  have octet := congrArg (fun octets => octets.getD reads.frameCap 0) same
  simp only [fetch_getD _ _ _ _ split, Nat.zero_add] at octet
  rw [store_outside _ _ _ _ (by omega)] at octet
  simp at octet

def wire (frames : List (List UInt8)) : List UInt8 := (frames.map wireOctets).flatten

theorem pipe_all_full (reads : List Reads) (frames : List (List UInt8)) (short : ∀ frame ∈ frames, frame.length < 65536)
    (full : List.Forall₂ FullReads reads frames) (stale : Nat → Stale) : receiveAll reads stale (wire frames) = frames := by
  induction full generalizing stale with
  | nil => rfl
  | @cons reads frame rest frames first others ih =>
      have received := pipe_full reads (stale 0) frame (wire frames) (short frame List.mem_cons_self) first
      have split : wire (frame :: frames) = wireOctets frame ++ wire frames := rfl
      rw [receiveAll, split, received]
      simp only
      rw [ih (fun later member => short later (List.mem_cons_of_mem frame member)), fetch_store_same _ 0 _ _ rfl]

theorem pipe_all_split (reads : List Reads) (frames : List (List UInt8)) (calls : reads.length = frames.length)
    (short : ∀ frame ∈ frames, frame.length < 65536) (survive : ∀ stale, receiveAll reads stale (wire frames) = frames) :
    List.Forall₂ FullReads reads frames := by
  induction frames generalizing reads with
  | nil =>
      rw [List.eq_nil_of_length_eq_zero calls]
      exact .nil
  | cons frame frames ih =>
      cases reads with
      | nil => simp at calls
      | cons reads rest =>
          have split : wire (frame :: frames) = wireOctets frame ++ wire frames := rfl
          have small := short frame List.mem_cons_self
          have head (stale : Nat → Stale) : (receiveEthernetFrame reads (stale 0) (wireOctets frame ++ wire frames)).len =
              frame.length ∧ fetch (receiveEthernetFrame reads (stale 0) (wireOctets frame ++ wire frames)).buf 0
                (receiveEthernetFrame reads (stale 0) (wireOctets frame ++ wire frames)).len = frame := by
            have first := (List.cons.inj (split ▸ survive stale)).1
            have size := congrArg List.length first
            rw [fetch_length] at size
            exact ⟨size, first⟩
          have whole : 2 ≤ reads.lengthCap := by
            by_contra partly
            obtain ⟨stale, wrong⟩ := pipe_split_length reads frame (wire frames) (by omega)
            exact wrong (head fun _ => stale).1
          have filled : frame.length ≤ reads.frameCap := by
            by_contra partly
            obtain ⟨stale, wrong⟩ := pipe_split_frame reads frame (wire frames) small whole (by omega)
            have octets := (head fun _ => stale).2
            rw [(head fun _ => stale).1] at octets
            exact wrong octets
          refine .cons ⟨whole, filled⟩ (ih rest (by simpa using calls) ?_ ?_)
          · exact fun later member => short later (List.mem_cons_of_mem frame member)
          · intro stale
            have survives := survive fun call => if call = 0 then stale 0 else stale (call - 1)
            have received := pipe_full reads (stale 0) frame (wire frames) small ⟨whole, filled⟩
            rw [receiveAll, split] at survives
            have tail := (List.cons.inj survives).2
            simp only [if_true, received] at tail
            simpa using tail

theorem frames_survive_iff (reads : List Reads) (frames : List (List UInt8)) (calls : reads.length = frames.length)
    (sizes : ∀ frame ∈ frames, 1 ≤ frame.length ∧ frame.length ≤ 1600) :
    (∀ stale, receiveAll reads stale (wire frames) = frames) ↔ List.Forall₂ FullReads reads frames := by
  have short : ∀ frame ∈ frames, frame.length < 65536 := fun frame member => by have size := sizes frame member; omega
  exact ⟨pipe_all_split reads frames calls short, pipe_all_full reads frames short⟩

def splitReads : List Reads := [⟨2, 1, by decide, by decide⟩, ⟨2, 2, by decide, by decide⟩]

theorem frames_survive_iff_split :
    (∀ stale, receiveAll splitReads stale (wire [[1, 2], [3, 4]]) = [[1, 2], [3, 4]]) ↔
      List.Forall₂ FullReads splitReads [[1, 2], [3, 4]] :=
  frames_survive_iff splitReads [[1, 2], [3, 4]] rfl (by decide)

theorem frames_lost : ¬ ∀ (reads : List Reads) (stale : Nat → Stale) (frames : List (List UInt8)),
    reads.length = frames.length → (∀ frame ∈ frames, 1 ≤ frame.length ∧ frame.length ≤ 1600) →
      receiveAll reads stale (wire frames) = frames := by
  intro survive
  have lost := survive splitReads (fun _ => ⟨0, fun _ => 0⟩) [[1, 2], [3, 4]] rfl (by decide)
  revert lost
  decide

end OsiStack
