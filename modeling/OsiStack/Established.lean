import OsiStack.PeerSegment
import OsiStack.Segment

set_option autoImplicit false

namespace OsiStack

open Octets PeerSegment

def Acknowledges (seq : UInt32) (frame : List UInt8) : Prop :=
  0 < ((readHeader (ofList frame)).ack - seq).toNat ∧ ((readHeader (ofList frame)).ack - seq).toNat < 2 ^ 31

def Handshake (table : Table) (r : Reception) (i : Fin tcpConnectionLimit) : Prop :=
  controlBits r.buffer = 16 ∧ payloadLen r.buffer = 0 ∧ (table i).connectionStatus = 2 ∧ peerOf (table i) = r.heard.peer

structure DataRefused (cfg : Config) (table : Table) (r : Reception) : Prop where
  console : (receive cfg table r).console = []
  unacknowledged : ∀ s ∈ (receive cfg table r).sent, TcpFrame s.frame → ¬ Acknowledges r.heard.seq s.frame
  numbers : ∀ i, ¬ Handshake table r i → ((receive cfg table r).table i).nextSeq = (table i).nextSeq ∧
    ((receive cfg table r).table i).currSeq = (table i).currSeq

def NumbersAgree (table : Table) (r : Reception) (i : Fin tcpConnectionLimit) : Prop :=
  (table i).nextSeq = r.heard.seq + UInt32.ofInt r.heard.octets.toInt ∧ (table i).currSeq = r.heard.ack

def KeptOut (cfg : Config) (table : Table) (r : Reception) : Prop :=
  ¬ Accepted cfg r ∨ slotFor table r.heard.peer = none ∨ ∃ i, slotFor table r.heard.peer = some i ∧
    (controlBits r.buffer = 16 ∧ (table i).connectionStatus = 0 ∨ Handshake table r i ∨
      (controlBits r.buffer = 16 ∨ r.heard.octets.toInt ≤ 0) ∧ NumbersAgree table r i)

section
variable (cfg : Config) (table : Table) (r : Reception)

theorem refused_when_ignored (ignored : ¬ Accepted cfg r) : DataRefused cfg table r := by
  have quiet := receive_ignored cfg table r ignored
  refine ⟨quiet.console, fun s member tcp => absurd tcp (quiet.sent s member), fun i _ => ?_⟩
  rw [quiet.table]
  exact ⟨rfl, rfl⟩

theorem refused_when_full (accepted : Accepted cfg r) (full : slotFor table r.heard.peer = none) :
    DataRefused cfg table r := by
  have nothing := receive_full cfg table r accepted full
  refine ⟨by rw [nothing], fun s member => ?_, fun i _ => ?_⟩
  · simp [nothing] at member
  · rw [nothing]
    exact ⟨rfl, rfl⟩

end

theorem not_acknowledged (seq : UInt32) (octets : Int8) (nothing : octets.toInt ≤ 0) :
    ¬ (0 < (seq + UInt32.ofInt octets.toInt - seq).toNat ∧ (seq + UInt32.ofInt octets.toInt - seq).toNat < 2 ^ 31) := by
  have low := octets.le_toInt
  have back : seq + UInt32.ofInt octets.toInt - seq = UInt32.ofInt octets.toInt := by
    rw [UInt32.add_comm, UInt32.add_sub_cancel]
  rw [back, of_int32_toNat]
  omega

section
variable (cfg : Config) (table : Table) (r : Reception) (accepted : Accepted cfg r)
variable (segment : r.heard.kind = .ack ∨ r.heard.kind = .pshAck) (lasting : IpHeader.ttl r.buffer ≠ 1)
variable (unestablished : ∀ i, peerOf (table i) = r.heard.peer → (table i).connectionStatus ≠ 1)
variable (i : Fin tcpConnectionLimit) (chosen : slotFor table r.heard.peer = some i)

include unestablished chosen in
theorem chosen_down : (table i).connectionStatus ≠ 1 := by
  intro up
  have live : isLive (table i) = true := by rw [is_live_iff, up]; decide
  exact unestablished i (SlotTable.choose_live peerOf isLive table _ i chosen live).1 up

include accepted segment chosen in
theorem kept_out_of_refused (refused : DataRefused cfg table r) :
    controlBits r.buffer = 16 ∧ (table i).connectionStatus = 0 ∨ Handshake table r i ∨
      (controlBits r.buffer = 16 ∨ r.heard.octets.toInt ≤ 0) ∧ NumbersAgree table r i := by
  by_cases closed : controlBits r.buffer = 16 ∧ (table i).connectionStatus = 0
  · exact Or.inl closed
  · by_cases handshake : Handshake table r i
    · exact Or.inr (Or.inl handshake)
    · have ackBits : r.heard.kind = .ack → controlBits r.buffer = 16 := (kind_of_ack _).mp
      have takes : r.heard.kind = .ack ∧ (table i).connectionStatus ≠ 0 ∨ r.heard.kind = .pshAck :=
        segment.imp (fun ack => ⟨ack, fun dead => closed ⟨ackBits ack, dead⟩⟩) id
      have numbers := refused.numbers i handshake
      have written := receive_numbers cfg table r accepted i chosen
      have applied := apply_numbers r.heard (table i) takes
      refine Or.inr (Or.inr ⟨segment.imp ackBits ?_, ?_, ?_⟩)
      · intro psh
        have silent := receive_console_length cfg table r accepted i chosen
        have count : r.heard.octets.toInt.toNat = 0 := by simpa [refused.console, Heard.printed, psh] using silent.symm
        exact Int.toNat_eq_zero.mp count
      · rw [← numbers.1, written.1, applied.1]
      · rw [← numbers.2, written.2, applied.2]

variable (kept : controlBits r.buffer = 16 ∧ (table i).connectionStatus = 0 ∨ Handshake table r i ∨
  (controlBits r.buffer = 16 ∨ r.heard.octets.toInt ≤ 0) ∧ NumbersAgree table r i)

include kept in
theorem kept_out_count (psh : r.heard.kind = .pshAck) : r.heard.octets.toInt ≤ 0 := by
  have notAck : controlBits r.buffer ≠ 16 := by
    intro bits
    have ack : r.heard.kind = .ack := (kind_of_ack _).mpr bits
    rw [psh] at ack
    cases ack
  rcases kept with ⟨bits, -⟩ | ⟨bits, -⟩ | ⟨bits | nothing, -⟩
  · exact absurd bits notAck
  · exact absurd bits notAck
  · exact absurd bits notAck
  · exact nothing

include accepted segment unestablished chosen kept in
theorem kept_out_silent : (receive cfg table r).console = [] := by
  have down := chosen_down table r unestablished i chosen
  rw [← List.length_eq_zero_iff, receive_console_length cfg table r accepted i chosen, Heard.printed]
  rcases segment with ack | psh
  · simp [ack, down]
  · simp only [psh]
    exact Int.toNat_of_nonpos (kept_out_count table r i kept psh)

include accepted segment lasting unestablished chosen kept in
theorem kept_out_unacknowledged (s : Sent) (member : s ∈ (receive cfg table r).sent) (tcp : TcpFrame s.frame) :
    ¬ Acknowledges r.heard.seq s.frame := by
  intro acknowledges
  have down := chosen_down table r unestablished i chosen
  obtain ⟨receiver, -, answers⟩ := receive_answers cfg table r accepted i chosen lasting
  obtain ⟨bits, listed, answer⟩ := related_of_mem _ _ _ answers s member
  have header := answer.header (by have := tcp.1; omega)
  rcases segment with ack | psh
  · simp [Heard.flags, ack, down] at listed
  · have number : (readHeader (ofList s.frame)).ack = r.heard.seq + UInt32.ofInt r.heard.octets.toInt := by
      simp [header, Heard.reply, Heard.nextSeq, psh]
    rw [Acknowledges, number] at acknowledges
    exact not_acknowledged r.heard.seq r.heard.octets (kept_out_count table r i kept psh) acknowledges

include segment kept in
theorem kept_out_apply (notHandshake : ¬ Handshake table r i) :
    (r.heard.apply (table i)).nextSeq = (table i).nextSeq ∧ (r.heard.apply (table i)).currSeq = (table i).currSeq := by
  rcases kept with ⟨bits, dead⟩ | handshake | ⟨-, next, curr⟩
  · rw [apply_closed_ack r.heard (table i) ((kind_of_ack _).mpr bits) dead]
    exact ⟨rfl, rfl⟩
  · exact absurd handshake notHandshake
  · by_cases closed : r.heard.kind = .ack ∧ (table i).connectionStatus = 0
    · rw [apply_closed_ack r.heard (table i) closed.1 closed.2]
      exact ⟨rfl, rfl⟩
    · have applied := apply_numbers r.heard (table i) (segment.imp (fun ack => ⟨ack, fun dead => closed ⟨ack, dead⟩⟩) id)
      rw [applied.1, applied.2, next, curr]
      exact ⟨rfl, rfl⟩

include accepted segment lasting unestablished chosen kept in
theorem refused_of_kept_out : DataRefused cfg table r := by
  refine ⟨kept_out_silent cfg table r accepted segment unestablished i chosen kept,
    kept_out_unacknowledged cfg table r accepted segment lasting unestablished i chosen kept, ?_⟩
  intro j notHandshake
  by_cases here : j = i
  · subst here
    have written := receive_numbers cfg table r accepted j chosen
    rw [written.1, written.2]
    exact kept_out_apply table r segment j kept notHandshake
  · exact receive_numbers_other cfg table r accepted i j chosen here

end

theorem data_refused_iff_kept_out (cfg : Config) (table : Table) (r : Reception)
    (segment : controlBits r.buffer = 16 ∨ controlBits r.buffer = 24) (lasting : 2 ≤ IpHeader.ttl r.buffer)
    (unestablished : ∀ i, peerOf (table i) = r.heard.peer → (table i).connectionStatus ≠ 1) :
    DataRefused cfg table r ↔ KeptOut cfg table r := by
  have ttl : IpHeader.ttl r.buffer ≠ 1 := fun one => by rw [one] at lasting; exact absurd lasting (by decide)
  have kinds : r.heard.kind = .ack ∨ r.heard.kind = .pshAck :=
    segment.imp (kind_of_ack _).mpr (kind_of_psh_ack _).mpr
  by_cases accepted : Accepted cfg r
  · cases chosen : slotFor table r.heard.peer with
    | none => exact ⟨fun _ => Or.inr (Or.inl chosen), fun _ => refused_when_full cfg table r accepted chosen⟩
    | some i =>
        constructor
        · intro refused
          exact Or.inr (Or.inr ⟨i, chosen, kept_out_of_refused cfg table r accepted kinds i chosen refused⟩)
        · rintro (ignored | full | ⟨j, chosenJ, kept⟩)
          · exact absurd accepted ignored
          · rw [chosen] at full
            cases full
          · have same : j = i := Option.some.inj (chosenJ.symm.trans chosen)
            rw [same] at kept
            exact refused_of_kept_out cfg table r accepted kinds ttl unestablished i chosen kept
  · exact ⟨fun _ => Or.inl accepted, fun _ => refused_when_ignored cfg table r accepted⟩

theorem zero_table_down (peer : Peer) (i : Fin tcpConnectionLimit) (_ : peerOf (zeroTable i) = peer) :
    (zeroTable i).connectionStatus ≠ 1 := by
  simp [zeroTable, zeroConnection]

def strangerText (bits : UInt16) : Reception := (visitor 1 1 bits (List.replicate 10 65)).arrival []

theorem data_refused_stranger_ack : DataRefused soloConfig zeroTable (strangerText 16) :=
  (data_refused_iff_kept_out soloConfig zeroTable (strangerText 16) (Or.inl (by decide +kernel)) (by decide +kernel)
    (zero_table_down _)).mpr (Or.inr (Or.inr ⟨0, by decide +kernel, Or.inl ⟨by decide +kernel, rfl⟩⟩))

theorem stranger_data_printed : Reachable soloConfig zeroTable ∧ controlBits (strangerText 24).buffer = 24 ∧
    2 ≤ IpHeader.ttl (strangerText 24).buffer ∧ 0 < payloadLen (strangerText 24).buffer ∧
    (∀ i, peerOf (zeroTable i) = (strangerText 24).heard.peer → (zeroTable i).connectionStatus ≠ 1) ∧
    ¬ DataRefused soloConfig zeroTable (strangerText 24) := by
  refine ⟨reachable_zero soloConfig, by decide +kernel, by decide +kernel, by decide +kernel, zero_table_down _, ?_⟩
  intro refused
  exact absurd refused.console (by decide +kernel)

end OsiStack
