import OsiStack.Isolation

set_option autoImplicit false

namespace OsiStack

open Octets PeerSegment

abbrev Seats := Fin tcpConnectionLimit → Peer

def Seated (seats : Seats) (table : Table) : Prop := ∀ i, (table i).connectionStatus ≠ 0 ∧ peerOf (table i) = seats i

def StaySeated (cfg : Config) (seats : Seats) (table : Table) : Event → Prop
  | .frame r => Accepted cfg r → (∃ i, seats i = r.heard.peer) →
      r.heard.kind ≠ .finAck ∧ (r.heard.kind = .pshAck → r.heard.octets ≠ -3)
  | .input u => ∀ i, intent table u ≠ .quit i

def TurnedAway (cfg : Config) (seats : Seats) (table : Table) : Event → Prop
  | .frame r => Accepted cfg r → (∀ i, seats i ≠ r.heard.peer) →
      receive cfg table r = ⟨table, [], [], checksumNotices r.buffer r.len ++ [.connectionLimit]⟩
  | .input _ => True

section
variable (cfg : Config) (seats : Seats) (table : Table) (seated : Seated seats table)
include seated

theorem seated_chosen (peer : Peer) (i : Fin tcpConnectionLimit) (chosen : slotFor table peer = some i) : seats i = peer := by
  obtain ⟨live, seat⟩ := seated i
  rw [← seat]
  exact (SlotTable.choose_live peerOf isLive table peer i chosen ((is_live_iff _).mpr live)).1

theorem seated_update (i : Fin tcpConnectionLimit) (conn : TcpConnection) (live : conn.connectionStatus ≠ 0)
    (seat : peerOf conn = seats i) : Seated seats (Function.update table i conn) := by
  intro j
  by_cases here : j = i
  · subst here
    rw [Function.update_self]
    exact ⟨live, seat⟩
  · rw [Function.update_of_ne here]
    exact seated j

theorem seated_apply (h : Heard) (i : Fin tcpConnectionLimit) (own : seats i = h.peer) :
    Seated seats (Function.update table i (h.apply (table i))) := by
  obtain ⟨live, seat⟩ := seated i
  by_cases syn : h.kind = .syn
  · apply seated_update seats table seated i
    · simp [Heard.apply, syn]
    · rw [apply_syn_key h (table i) syn, own]
  · apply seated_update seats table seated i
    · have same := apply_live h (table i) syn
      exact (is_live_iff _).mp (same.trans ((is_live_iff _).mpr live))
    · rw [apply_key h (table i) syn, seat]

theorem staying_open (r : Reception) (i : Fin tcpConnectionLimit) (accepted : Accepted cfg r)
    (chosen : slotFor table r.heard.peer = some i) (stay : StaySeated cfg seats table (.frame r)) :
    r.heard.status (table i) ≠ tcpFinAck := by
  obtain ⟨open', short⟩ := stay accepted ⟨i, seated_chosen seats table seated r.heard.peer i chosen⟩
  intro closing
  cases (Heard.closing_iff _ _).mp closing with
  | inl fin => exact open' fin.1
  | inr psh => exact short psh.1 psh.2

theorem seated_step (e : Event) (stay : StaySeated cfg seats table e) : Seated seats (step cfg table e) := by
  have transition := step_transition cfg table e
  generalize step cfg table e = next at transition ⊢
  cases transition with
  | ignored => exact seated
  | full => exact seated
  | heard r i accepted chosen regular =>
      rw [Heard.outcome, if_neg (staying_open cfg seats table seated r i accepted chosen stay)]
      exact seated_apply seats table seated r.heard i (seated_chosen seats table seated r.heard.peer i chosen)
  | stray r i port accepted chosen expired closing =>
      exact absurd closing (staying_open cfg seats table seated r i accepted chosen stay)
  | user u meant =>
      intro i
      rw [effect_status table u _ i (stay i), (effect_kept table u _ i).1]
      exact seated i

theorem seated_turns_away (e : Event) : TurnedAway cfg seats table e := by
  cases e with
  | input u => trivial
  | frame r =>
      intro accepted stranger
      apply receive_full cfg table r accepted
      refine sender_slot_none table r.heard.peer (fun i same => ?_) fun i => (seated i).1
      exact stranger i ((seated i).2.symm.trans same)

theorem full_table_turns_away (events : List Event) (stay : Runs.Always (step cfg) (StaySeated cfg seats) table events) :
    Runs.Always (step cfg) (TurnedAway cfg seats) table events ∧ Seated seats (Runs.run (step cfg) table events) :=
  ⟨Runs.always_of_invariant (step cfg) (Seated seats) (StaySeated cfg seats) (TurnedAway cfg seats)
      (fun now e seated stay => seated_step cfg seats now seated e stay)
      (fun now e seated _ => seated_turns_away cfg seats now seated e) table events seated stay,
    Runs.always_invariant (step cfg) (Seated seats) (StaySeated cfg seats)
      (fun now e seated stay => seated_step cfg seats now seated e stay) table events seated stay⟩

end

def guestAddr (k : Nat) : IpAddr := ipOctets 10 0 1 (UInt8.ofNat k)

def guestSegment (k : Nat) (seq ack : UInt32) (bits : UInt16) : Reception :=
  ({ visitor seq ack bits [] with ipAddr := guestAddr k } : PeerSegment).arrival [htonl 888]

def guestSeats : Seats := fun i => sender (guestSegment i.val 200 0 2).buffer

def guestsSeated : Table :=
  Runs.run (step soloConfig) zeroTable ((List.range 10).map fun k => .frame (guestSegment k 200 0 2))

instance decidableStaySeated (cfg : Config) (seats : Seats) (table : Table) : ∀ e, Decidable (StaySeated cfg seats table e)
  | .frame r => inferInstanceAs (Decidable (Accepted cfg r → (∃ i, seats i = r.heard.peer) →
      r.heard.kind ≠ .finAck ∧ (r.heard.kind = .pshAck → r.heard.octets ≠ -3)))
  | .input u => inferInstanceAs (Decidable (∀ i, intent table u ≠ .quit i))

theorem full_table_turns_away_visitor : TurnedAway soloConfig guestSeats guestsSeated (.frame (visitorSegment 100 0 2)) :=
  (full_table_turns_away soloConfig guestSeats guestsSeated (by unfold Seated; decide +kernel)
    [.frame (visitorSegment 100 0 2), .frame (guestSegment 3 201 889 16)] (by decide +kernel)).1.1

end OsiStack
