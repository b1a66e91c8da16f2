import OsiStack.TableInvariant
import OsiStack.Mirror

set_option autoImplicit false

namespace OsiStack

open Octets PeerSegment

def FinAckFrame (frame : List UInt8) : Prop := TcpFrame frame ∧ controlBits (ofList frame) = 0x11

def Reason (cfg : Config) (table : Table) (i : Fin tcpConnectionLimit) : Event → Prop
  | .frame r => Accepted cfg r ∧ HasFin r.buffer ∧ r.heard.peer = peerOf (table i)
  | .input u => intent table u = .quit i

structure ClosesForAReason (cfg : Config) (table : Table) (e : Event) : Prop where
  closed : ∀ i, (table i).connectionStatus = 1 ∨ (table i).connectionStatus = 2 →
    (step cfg table e i).connectionStatus = 0 → Reason cfg table i e
  answered : ∀ r, e = .frame r → ∀ s ∈ (receive cfg table r).sent, FinAckFrame s.frame → HasFin r.buffer

-- A payload count that reads as TCP_FIN_ACK once it is narrowed to an int8_t.
def CountsAsFin (m : Memory) (len : Nat) : Prop := (dataOctets m len).toNat % 256 = 253

def ReadsAsFin (table : Table) (r : Reception) (i : Fin tcpConnectionLimit) : Prop :=
  controlBits r.buffer = 17 ∧ (table i).connectionStatus ≠ 0 ∨ controlBits r.buffer = 24 ∧ CountsAsFin r.buffer r.len

-- The segments that go wrong: a PSH/ACK with such a count, and a segment that
-- closes with TTL 1 while a live slot has the stack's own address for its peer's.
def Undisguised (cfg : Config) (table : Table) : Event → Prop
  | .input _ => True
  | .frame r => Accepted cfg r → ∀ i, slotFor table r.heard.peer = some i →
      (controlBits r.buffer = 24 ∧ CountsAsFin r.buffer r.len → IpHeader.ttl r.buffer = 1) ∧
        (IpHeader.ttl r.buffer = 1 → ReadsAsFin table r i →
          ∀ j, (table j).connectionStatus ≠ 0 → (table j).hostIpAddr ≠ tcpIp)

theorem counts_as_fin_iff (m : Memory) (len : Nat) : (hear m len).octets = -3 ↔ CountsAsFin m len := by
  have narrow : (hear m len).octets.toInt = ((dataOctets m len).toNat : Int).bmod 256 := to_int8_toInt _
  have code : (-3 : Int8).toInt = -3 := rfl
  rw [← Int8.toInt_inj, narrow, code, CountsAsFin, Int.bmod_def]
  split <;> omega

theorem closing_bits (table : Table) (r : Reception) (i : Fin tcpConnectionLimit) :
    r.heard.status (table i) = tcpFinAck ↔ ReadsAsFin table r i := by
  have kind : r.heard.kind = kindOf (controlBits r.buffer) := rfl
  rw [ReadsAsFin, Heard.closing_iff, counts_as_fin_iff, kind, kind_of_fin_ack, kind_of_psh_ack]

theorem stray_other (table : Table) (r : Reception) (i : Fin tcpConnectionLimit)
    (closing : r.heard.status (table i) = tcpFinAck) (port : UInt16) (j : Fin tcpConnectionLimit)
    (live : (table j).connectionStatus ≠ 0) (other : (table j).hostIpAddr ≠ tcpIp) :
    peerOf (closeAt (Function.update table i (r.heard.apply (table i))) (tcpIp, port) j) = peerOf (table j) ∧
      isLive (closeAt (Function.update table i (r.heard.apply (table i))) (tcpIp, port) j) = isLive (table j) := by
  have later := closing_later _ _ closing
  have key := SlotTable.update_key peerOf table i _ (apply_key r.heard (table i) later) j
  have alive := SlotTable.update_key isLive table i _ (apply_live r.heard (table i) later) j
  rw [close_at_other _ (tcpIp, port) j (by rw [alive, is_live_iff]; exact live)
    (by rw [key]; exact fun same => other (congrArg Prod.fst same))]
  exact ⟨key, alive⟩

section
variable (cfg : Config) (table : Table) (r : Reception) (i : Fin tcpConnectionLimit) (accepted : Accepted cfg r)
variable (chosen : slotFor table r.heard.peer = some i) (guarded : Undisguised cfg table (.frame r))
include accepted chosen guarded

theorem closing_has_fin (lasting : IpHeader.ttl r.buffer ≠ 1) (closing : r.heard.status (table i) = tcpFinAck) :
    HasFin r.buffer := by
  rcases (closing_bits table r i).mp closing with ⟨fin, -⟩ | disguised
  · exact has_fin_of_kind r.buffer ((kind_of_fin_ack _).mpr fin)
  · exact absurd ((guarded accepted i chosen).1 disguised) lasting

theorem heard_reason (regular : IpHeader.ttl r.buffer ≠ 1 ∨ r.heard.status (table i) ≠ tcpFinAck)
    (j : Fin tcpConnectionLimit) (live : (table j).connectionStatus ≠ 0)
    (dead : (Function.update table i (r.heard.outcome (table i)) j).connectionStatus = 0) :
    Reason cfg table j (.frame r) := by
  by_cases here : j = i
  · subst here
    rw [Function.update_self] at dead
    have closing : r.heard.status (table j) = tcpFinAck := by
      by_contra other
      rw [Heard.outcome, if_neg other, ← is_dead_iff] at dead
      by_cases syn : r.heard.kind = .syn
      · simp [Heard.apply, syn, isLive] at dead
      · rw [apply_live _ _ syn, is_dead_iff] at dead
        exact live dead
    have fin := closing_has_fin cfg table r j accepted chosen guarded
      (regular.resolve_right (not_not_intro closing)) closing
    have key := (SlotTable.choose_live peerOf isLive table _ j chosen ((is_live_iff (table j)).mpr live)).1
    exact ⟨accepted, fin, key.symm⟩
  · rw [Function.update_of_ne here] at dead
    exact absurd dead live

theorem stray_keeps (expired : IpHeader.ttl r.buffer = 1) (closing : r.heard.status (table i) = tcpFinAck) (port : UInt16)
    (j : Fin tcpConnectionLimit) (live : (table j).connectionStatus ≠ 0) :
    (closeAt (Function.update table i (r.heard.apply (table i))) (tcpIp, port) j).connectionStatus ≠ 0 := by
  have noneThere := (guarded accepted i chosen).2 expired ((closing_bits table r i).mp closing) j live
  have kept := stray_other table r i closing port j live noneThere
  rw [← is_live_iff, kept.2, is_live_iff]
  exact live

end

theorem closes_for_a_reason (cfg : Config) (table : Table) (e : Event) (guarded : Undisguised cfg table e)
    (i : Fin tcpConnectionLimit)
    (live : (table i).connectionStatus ≠ 0) (dead : (step cfg table e i).connectionStatus = 0) : Reason cfg table i e := by
  have transition := step_transition cfg table e
  generalize step cfg table e = next at transition dead
  cases transition with
  | ignored => exact absurd dead live
  | full => exact absurd dead live
  | heard r j accepted chosen regular => exact heard_reason cfg table r j accepted chosen guarded regular i live dead
  | stray r j port accepted chosen expired closing =>
      exact absurd dead (stray_keeps cfg table r j accepted chosen guarded expired closing port i live)
  | user u meant =>
      change intent table u = .quit i
      by_contra other
      rw [effect_status table u _ i other] at dead
      exact live dead

theorem answers_for_a_reason (cfg : Config) (table : Table) (r : Reception) (guarded : Undisguised cfg table (.frame r))
    (s : Sent) (member : s ∈ (receive cfg table r).sent) (finAck : FinAckFrame s.frame) : HasFin r.buffer := by
  by_cases accepted : Accepted cfg r
  · cases chosen : slotFor table r.heard.peer with
    | none => simp [receive_full cfg table r accepted chosen] at member
    | some i =>
        by_cases expired : IpHeader.ttl r.buffer = 1
        · have icmp := receive_expired cfg table r accepted expired s member
          rw [finAck.1.2.2] at icmp
          exact absurd icmp (by decide)
        · obtain ⟨receiver, -, answers⟩ := receive_answers cfg table r accepted i chosen expired
          obtain ⟨bits, listed, answer⟩ := related_of_mem _ _ _ answers s member
          have header := answer.header (by have := finAck.1.1; omega)
          have seventeen : bits = 0x11 := by
            rw [← finAck.2]
            exact (congrArg Header.bits header).symm
          rw [seventeen] at listed
          exact closing_has_fin cfg table r i accepted chosen guarded expired (flags_closing _ _ listed)
  · exact absurd finAck.1 ((receive_ignored cfg table r accepted).sent s member)

theorem undisguised_step (cfg : Config) (table : Table) (e : Event) (guarded : Undisguised cfg table e) :
    ClosesForAReason cfg table e where
  closed := by
    intro i live dead
    apply closes_for_a_reason cfg table e guarded i _ dead
    rcases live with up | half
    · rw [up]; decide
    · rw [half]; decide
  answered := by
    intro r frame s member finAck
    subst frame
    exact answers_for_a_reason cfg table r guarded s member finAck

theorem live_connections_close_for_a_reason (cfg : Config) (events : List Event)
    (guarded : Runs.Always (step cfg) (Undisguised cfg) zeroTable events) :
    Runs.Always (step cfg) (ClosesForAReason cfg) zeroTable events :=
  Runs.always_of_invariant (step cfg) (fun _ => True) (Undisguised cfg) (ClosesForAReason cfg) (fun _ _ _ _ => trivial)
    (fun table e _ guard => undisguised_step cfg table e guard) zeroTable events trivial guarded

theorem live_connections_close_for_a_reason_visit :
    Runs.Always (step soloConfig) (ClosesForAReason soloConfig) zeroTable (opening ++ [arrives 101 778 17 []]) := by
  have calm (table : Table) (seq ack : UInt32) (bits : UInt16) (other : bits.toUInt8 ≠ 24) (low : bits.toNat < 64) :
      Undisguised soloConfig table (arrives seq ack bits []) := by
    intro _ i _
    have received := congrArg Header.bits (arrival_header (visitor seq ack bits []) [htonl 777] low)
    refine ⟨fun disguised => absurd (received.symm.trans disguised.1) other, ?_⟩
    intro expired
    simp [arrival, buffer, visitor] at expired
  exact live_connections_close_for_a_reason soloConfig _
    ⟨calm _ _ _ _ (by decide) (by decide), calm _ _ _ _ (by decide) (by decide), calm _ _ _ _ (by decide) (by decide), trivial⟩

theorem data_closes_connection : ¬ Runs.Always (step soloConfig) (ClosesForAReason soloConfig) zeroTable
    (opening ++ [arrives 101 778 24 (List.replicate 253 65)]) := by
  intro always
  obtain ⟨-, -, third, -⟩ := always
  have reason := third.closed 0 (Or.inl (by decide +kernel)) (by decide +kernel)
  exact reason.2.1 (by decide +kernel)

end OsiStack
