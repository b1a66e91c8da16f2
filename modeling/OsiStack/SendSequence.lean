import OsiStack.PeerSegment
import OsiStack.UserSegment

set_option autoImplicit false

namespace OsiStack

open Octets PeerSegment

-- `sent` lists sequence number and length, the latest first; `current` says that
-- the last segment to overwrite curr_seq acknowledged all that was built.
structure Flow where
  iss : UInt32
  sent : List (UInt32 × Nat)
  current : Bool
deriving DecidableEq

namespace Flow

def built (f : Flow) : Nat := (f.sent.map Prod.snd).sum

def next (f : Flow) : UInt32 := f.iss + 1 + UInt32.ofNat f.built

end Flow

structure Ledger where
  table : Table
  flows : Fin tcpConnectionLimit → Option Flow

def SetsSeq (r : Reception) (conn : TcpConnection) : Prop :=
  controlBits r.buffer = 16 ∧ conn.connectionStatus ≠ 0 ∨ controlBits r.buffer = 24 ∨ controlBits r.buffer = 17

instance (r : Reception) (conn : TcpConnection) : Decidable (SetsSeq r conn) := inferInstanceAs (Decidable (_ ∨ _ ∨ _))

-- A SYN that is answered opens a flow with the number in its SYN/ACK; curr_seq is
-- left as it was.
def openedFlow (cfg : Config) (table : Table) (r : Reception) (i : Fin tcpConnectionLimit) : Option Flow :=
  (tcpReplies (receive cfg table r)).head?.map fun reply =>
    ⟨reply.2.2, [], decide ((table i).currSeq = reply.2.2 + 1)⟩

def heardFlow (r : Reception) (f : Flow) : Flow := { f with current := decide (r.heard.ack = f.next) }

def recordFrame (cfg : Config) (s : Ledger) (r : Reception) : Fin tcpConnectionLimit → Option Flow :=
  if Accepted cfg r then
    match slotFor s.table r.heard.peer with
    | none => s.flows
    | some i =>
        if controlBits r.buffer = 2 then Function.update s.flows i (openedFlow cfg s.table r i)
        else if SetsSeq r (s.table i) then Function.update s.flows i ((s.flows i).map (heardFlow r))
        else s.flows
  else s.flows

def builtFlow (table : Table) (u : UserRead) (f : Flow) : Flow :=
  { f with
    sent := ((interact table u).sent.map fun segment => ((readHeader (ofList segment.frame)).seq, u.text.length)) ++ f.sent }

def recordInput (s : Ledger) (u : UserRead) : Fin tcpConnectionLimit → Option Flow :=
  match intent s.table u with
  | .text i => Function.update s.flows i ((s.flows i).map (builtFlow s.table u))
  | .quit i => Function.update s.flows i none
  | _ => s.flows

def record (cfg : Config) (s : Ledger) : Event → Fin tcpConnectionLimit → Option Flow
  | .frame r => recordFrame cfg s r
  | .input u => recordInput s u

def ledgerStep (cfg : Config) (s : Ledger) (e : Event) : Ledger := ⟨step cfg s.table e, record cfg s e⟩

def newLedger : Ledger := ⟨zeroTable, fun _ => none⟩

theorem ledger_run_table (cfg : Config) (s : Ledger) (events : List Event) :
    (Runs.run (ledgerStep cfg) s events).table = Runs.run (step cfg) s.table events :=
  Runs.run_project (ledgerStep cfg) (step cfg) Ledger.table (fun _ _ => rfl) s events

def BuildsFor (table : Table) (u : UserRead) (i : Fin tcpConnectionLimit) : Prop :=
  intent table u = .text i ∨ intent table u = .quit i

instance (table : Table) (u : UserRead) (i : Fin tcpConnectionLimit) : Decidable (BuildsFor table u i) :=
  inferInstanceAs (Decidable (_ ∨ _))

def Overlap (a b : UInt32 × Nat) : Prop :=
  ∃ j k, j < a.2 ∧ k < b.2 ∧ a.1 + UInt32.ofNat j = b.1 + UInt32.ofNat k

def InSequence (s : Ledger) : Event → Prop
  | .frame _ => True
  | .input u => ∀ i, BuildsFor s.table u i → ∀ f ∈ s.flows i,
      ∃ segment, (interact s.table u).sent = [segment] ∧ (readHeader (ofList segment.frame)).seq = f.next ∧
        (intent s.table u = .text i → f.built + u.text.length ≤ 2 ^ 32 →
          ∀ earlier ∈ f.sent, ¬ Overlap earlier (f.next, u.text.length))

def BuildsWhenCurrent (s : Ledger) : Event → Prop
  | .frame _ => True
  | .input u => ∀ i, BuildsFor s.table u i → ∀ f ∈ s.flows i, f.current = true

instance (s : Ledger) : ∀ e, Decidable (BuildsWhenCurrent s e)
  | .frame _ => .isTrue trivial
  | .input u => inferInstanceAs (Decidable (∀ i, BuildsFor s.table u i → ∀ f ∈ s.flows i, f.current = true))

structure FlowInv (conn : TcpConnection) (f : Flow) : Prop where
  current : f.current = true ↔ conn.currSeq = f.next
  placed : ∀ earlier ∈ f.sent, ∃ place, earlier.1 = f.iss + 1 + UInt32.ofNat place ∧ place + earlier.2 ≤ f.built

def LedgerInv (s : Ledger) : Prop := ∀ i f, s.flows i = some f → FlowInv (s.table i) f

theorem ledger_inv_new : LedgerInv newLedger := fun i f opened => by cases opened

theorem apply_curr_seq (r : Reception) (conn : TcpConnection) :
    (r.heard.apply conn).currSeq = if SetsSeq r conn then r.heard.ack else conn.currSeq := by
  have kindEq : r.heard.kind = kindOf (controlBits r.buffer) := rfl
  unfold Heard.apply SetsSeq
  cases kind : r.heard.kind with
  | syn =>
      have bits := (kind_of_syn _).mp (kindEq.symm.trans kind)
      simp [bits]
  | ack =>
      have bits := (kind_of_ack _).mp (kindEq.symm.trans kind)
      by_cases dead : conn.connectionStatus = 0 <;> simp [bits, dead]
  | pshAck =>
      have bits := (kind_of_psh_ack _).mp (kindEq.symm.trans kind)
      simp [bits]
  | finAck =>
      have bits := (kind_of_fin_ack _).mp (kindEq.symm.trans kind)
      simp [bits]
  | other =>
      have ack : controlBits r.buffer ≠ 16 := fun bits => by simp [kindEq, bits, kindOf] at kind
      have psh : controlBits r.buffer ≠ 24 := fun bits => by simp [kindEq, bits, kindOf] at kind
      have fin : controlBits r.buffer ≠ 17 := fun bits => by simp [kindEq, bits, kindOf] at kind
      simp [ack, psh, fin]

theorem receive_curr_seq (cfg : Config) (table : Table) (r : Reception) (accepted : Accepted cfg r)
    (i : Fin tcpConnectionLimit) (chosen : slotFor table r.heard.peer = some i) (j : Fin tcpConnectionLimit) :
    ((receive cfg table r).table j).currSeq = if j = i ∧ SetsSeq r (table i) then r.heard.ack else (table j).currSeq := by
  by_cases here : j = i
  · subst here
    rw [(receive_numbers cfg table r accepted j chosen).2, apply_curr_seq]
    simp
  · rw [(receive_numbers_other cfg table r accepted i j chosen here).2, if_neg (fun both => here both.1)]

theorem flow_inv_opened (cfg : Config) (table : Table) (r : Reception) (i : Fin tcpConnectionLimit) (conn : TcpConnection)
    (same : conn.currSeq = (table i).currSeq) (f : Flow) (opened : openedFlow cfg table r i = some f) : FlowInv conn f := by
  simp only [openedFlow, Option.map_eq_some_iff] at opened
  obtain ⟨reply, -, rfl⟩ := opened
  refine ⟨?_, fun earlier member => by cases member⟩
  rw [decide_eq_true_iff, same]
  simp [Flow.next, Flow.built]

theorem heard_flow_built (r : Reception) (f : Flow) : (heardFlow r f).built = f.built := by
  simp only [Flow.built, heardFlow]

theorem heard_flow_next (r : Reception) (f : Flow) : (heardFlow r f).next = f.next := by
  rw [Flow.next, heard_flow_built]
  simp only [heardFlow, Flow.next]

theorem flow_inv_heard (r : Reception) (conn next : TcpConnection) (f : Flow) (inv : FlowInv conn f)
    (set : next.currSeq = r.heard.ack) : FlowInv next (heardFlow r f) where
  current := by
    rw [heard_flow_next, set]
    simp only [heardFlow, decide_eq_true_eq]
  placed := by
    rw [heard_flow_built]
    simpa only [heardFlow] using inv.placed

theorem ledger_inv_kept (s : Ledger) (inv : LedgerInv s) (table : Table)
    (same : ∀ j, (table j).currSeq = (s.table j).currSeq) : LedgerInv ⟨table, s.flows⟩ := by
  intro j f before
  have held := inv j f before
  exact ⟨held.current.trans (by rw [same j]), held.placed⟩

theorem ledger_inv_update (s : Ledger) (inv : LedgerInv s) (table : Table) (i : Fin tcpConnectionLimit) (flow : Option Flow)
    (others : ∀ j, j ≠ i → (table j).currSeq = (s.table j).currSeq) (here : ∀ f, flow = some f → FlowInv (table i) f) :
    LedgerInv ⟨table, Function.update s.flows i flow⟩ := by
  intro j f after
  dsimp only at after
  by_cases same : j = i
  · subst same
    rw [Function.update_self] at after
    exact here f after
  · rw [Function.update_of_ne same] at after
    have held := inv j f after
    exact ⟨held.current.trans (by rw [others j same]), held.placed⟩

theorem ledger_inv_frame (cfg : Config) (s : Ledger) (r : Reception) (inv : LedgerInv s) :
    LedgerInv (ledgerStep cfg s (.frame r)) := by
  have next : step cfg s.table (.frame r) = (receive cfg s.table r).table := rfl
  simp only [ledgerStep, record, recordFrame, next]
  by_cases accepted : Accepted cfg r
  · rw [if_pos accepted]
    cases chosen : slotFor s.table r.heard.peer with
    | none => exact ledger_inv_kept s inv _ fun j => by rw [receive_full cfg s.table r accepted chosen]
    | some i =>
        have numbers := receive_curr_seq cfg s.table r accepted i chosen
        have others (j : Fin tcpConnectionLimit) (apart : j ≠ i) := (numbers j).trans (if_neg fun both => apart both.1)
        dsimp only
        by_cases syn : controlBits r.buffer = 2
        · have unset : ¬ SetsSeq r (s.table i) := by simp [SetsSeq, syn]
          have same := (numbers i).trans (if_neg fun both => unset both.2)
          rw [if_pos syn]
          exact ledger_inv_update s inv _ i _ others fun f opened => flow_inv_opened cfg s.table r i _ same f opened
        · by_cases sets : SetsSeq r (s.table i)
          · rw [if_neg syn, if_pos sets]
            refine ledger_inv_update s inv _ i _ others fun f heard => ?_
            obtain ⟨old, before, rfl⟩ := Option.map_eq_some_iff.mp heard
            exact flow_inv_heard r _ _ old (inv i old before) ((numbers i).trans (if_pos ⟨rfl, sets⟩))
          · rw [if_neg syn, if_neg sets]
            exact ledger_inv_kept s inv _ fun j => (numbers j).trans (if_neg fun both => sets both.2)
  · rw [if_neg accepted]
    exact ledger_inv_kept s inv _ fun j => by rw [(receive_ignored cfg s.table r accepted).table]

theorem interact_built (table : Table) (u : UserRead) (i : Fin tcpConnectionLimit) (builds : BuildsFor table u i) :
    ∃ segment, (interact table u).sent = [segment] ∧ (readHeader (ofList segment.frame)).seq = (table i).currSeq := by
  rw [interact_intent]
  rcases builds with text | quit
  · rw [text]
    exact ⟨_, rfl, congrArg Header.seq (send_segment_header u.text table i false u.fits)⟩
  · rw [quit]
    refine ⟨_, rfl, (congrArg Header.seq (send_segment_header [] _ i true (by simp))).trans ?_⟩
    rw [Function.update_self]
    rfl

theorem flow_inv_built (table : Table) (u : UserRead) (i : Fin tcpConnectionLimit) (text : intent table u = .text i) (f : Flow)
    (inv : FlowInv (table i) f) (current : f.current = true) :
    FlowInv ((Intent.text i).conn u (table i)) (builtFlow table u f) := by
  obtain ⟨segment, sent, seq⟩ := interact_built table u i (Or.inl text)
  have now := inv.current.mp current
  have built : (builtFlow table u f).built = u.text.length + f.built := by simp [builtFlow, Flow.built, sent]
  refine ⟨iff_of_true current ?_, ?_⟩
  · have next : (builtFlow table u f).next = f.iss + 1 + UInt32.ofNat (u.text.length + f.built) := by
      rw [Flow.next, built]
      rfl
    rw [next, Nat.add_comm, UInt32.ofNat_add, ← UInt32.add_assoc]
    simp only [Intent.conn, now]
    rfl
  · intro earlier member
    simp only [builtFlow, sent, List.map_cons, List.map_nil, List.singleton_append, List.mem_cons] at member
    rw [built]
    rcases member with rfl | before
    · refine ⟨f.built, ?_, by simp; omega⟩
      simp only [seq, now]
      rfl
    · obtain ⟨place, number, inside⟩ := inv.placed earlier before
      exact ⟨place, number, by omega⟩

theorem ledger_inv_input (cfg : Config) (s : Ledger) (u : UserRead) (inv : LedgerInv s)
    (guarded : BuildsWhenCurrent s (.input u)) : LedgerInv (ledgerStep cfg s (.input u)) := by
  have effect := step_input cfg s.table u
  simp only [ledgerStep, record, recordInput, effect]
  have others (i : Fin tcpConnectionLimit) (conn : TcpConnection) (j : Fin tcpConnectionLimit) (apart : j ≠ i) :
      (Function.update s.table i conn j).currSeq = (s.table j).currSeq := by rw [Function.update_of_ne apart]
  cases request : intent s.table u with
  | nothing => exact inv
  | select i => exact ledger_inv_kept s inv _ (SlotTable.update_key TcpConnection.currSeq s.table i _ rfl)
  | leave i => exact ledger_inv_kept s inv _ (SlotTable.update_key TcpConnection.currSeq s.table i _ rfl)
  | quit i => exact ledger_inv_update s inv _ i none (others i _) nofun
  | text i =>
      refine ledger_inv_update s inv _ i _ (others i _) fun f built => ?_
      obtain ⟨old, before, rfl⟩ := Option.map_eq_some_iff.mp built
      rw [Intent.effect, Function.update_self]
      exact flow_inv_built s.table u i request old (inv i old before) (guarded i (Or.inl request) old before)

theorem ledger_inv_step (cfg : Config) (s : Ledger) (e : Event) (inv : LedgerInv s) (guarded : BuildsWhenCurrent s e) :
    LedgerInv (ledgerStep cfg s e) := by
  cases e with
  | frame r => exact ledger_inv_frame cfg s r inv
  | input u => exact ledger_inv_input cfg s u inv guarded

theorem apart_of_places (first : UInt32) (a b : Nat) (place next : Nat) (before : place + a ≤ next)
    (room : next + b ≤ 2 ^ 32) : ¬ Overlap (first + UInt32.ofNat place, a) (first + UInt32.ofNat next, b) := by
  rintro ⟨j, k, insideA, insideB, same⟩
  simp only [UInt32.add_assoc, UInt32.add_right_inj, ← UInt32.ofNat_add] at same insideA insideB
  rw [← UInt32.toNat_inj, UInt32.toNat_ofNat', UInt32.toNat_ofNat'] at same
  omega

theorem in_sequence (s : Ledger) (e : Event) (inv : LedgerInv s) (guarded : BuildsWhenCurrent s e) : InSequence s e := by
  cases e with
  | frame r => trivial
  | input u =>
      intro i builds f flow
      obtain ⟨segment, sent, seq⟩ := interact_built s.table u i builds
      have now := (inv i f flow).current.mp (guarded i builds f flow)
      refine ⟨segment, sent, seq.trans now, ?_⟩
      intro _ room earlier member
      obtain ⟨place, number, inside⟩ := (inv i f flow).placed earlier member
      have apart := apart_of_places (f.iss + 1) earlier.2 u.text.length place f.built inside room
      rw [← number] at apart
      exact apart

theorem in_sequence_iff (s : Ledger) (e : Event) (inv : LedgerInv s) : BuildsWhenCurrent s e ↔ InSequence s e := by
  refine ⟨in_sequence s e inv, fun right => ?_⟩
  cases e with
  | frame r => trivial
  | input u =>
      intro i builds f flow
      obtain ⟨segment, sent, seq⟩ := interact_built s.table u i builds
      obtain ⟨built, only, number, -⟩ := right i builds f flow
      cases List.singleton_inj.mp (sent.symm.trans only)
      exact (inv i f flow).current.mpr (seq.symm.trans number)

theorem segments_in_sequence_iff (cfg : Config) (events : List Event) :
    Runs.Always (ledgerStep cfg) BuildsWhenCurrent newLedger events ↔
      Runs.Always (ledgerStep cfg) InSequence newLedger events :=
  Runs.always_congr_guarded (ledgerStep cfg) LedgerInv BuildsWhenCurrent InSequence
    (fun s e inv guard => ledger_inv_step cfg s e inv guard) (fun s e inv => in_sequence_iff s e inv)
    newLedger events ledger_inv_new

theorem segments_in_sequence (cfg : Config) (events : List Event)
    (guarded : Runs.Always (ledgerStep cfg) BuildsWhenCurrent newLedger events) :
    Runs.Always (ledgerStep cfg) InSequence newLedger events :=
  (segments_in_sequence_iff cfg events).mp guarded

def Honest (cfg : Config) (s : Ledger) : Event → Prop
  | .input _ => True
  | .frame r => Accepted cfg r → ∀ i ∈ slotFor s.table r.heard.peer, SetsSeq r (s.table i) → ∀ f ∈ s.flows i,
      ∃ k, k < f.built + 1 ∧ r.heard.ack = f.iss + 1 + UInt32.ofNat k

instance (cfg : Config) (s : Ledger) : ∀ e, Decidable (Honest cfg s e)
  | .input _ => .isTrue trivial
  | .frame r => inferInstanceAs (Decidable (Accepted cfg r → ∀ i ∈ slotFor s.table r.heard.peer, SetsSeq r (s.table i) →
      ∀ f ∈ s.flows i, ∃ k, k < f.built + 1 ∧ r.heard.ack = f.iss + 1 + UInt32.ofNat k))

def selects : Event := .input ⟨[48, 99, 10], by decide⟩
def firstText : Event := .input ⟨[104, 105, 10], by decide⟩
def secondText : UserRead := ⟨[121, 111, 10], by decide⟩

def upToSecond (ack : UInt32) : List Event := opening ++ [selects, firstText, arrives 101 ack 16 [], selects]

theorem segments_in_sequence_in_time :
    Runs.Always (ledgerStep soloConfig) InSequence newLedger (upToSecond 781 ++ [.input secondText]) :=
  segments_in_sequence soloConfig _ (by decide +kernel)

theorem late_ack_reuses_numbers :
    Runs.Always (ledgerStep soloConfig) (Honest soloConfig) newLedger (upToSecond 778 ++ [.input secondText]) ∧
      ¬ Runs.Always (ledgerStep soloConfig) InSequence newLedger (upToSecond 778 ++ [.input secondText]) := by
  refine ⟨by decide +kernel, ?_⟩
  intro always
  have second := Runs.always_at (ledgerStep soloConfig) InSequence newLedger (upToSecond 778) (.input secondText) [] always
  obtain ⟨segment, sent, seq, -⟩ := second 0 (by decide +kernel) ⟨777, [(778, 3)], false⟩ (by decide +kernel)
  have number : ((interact (Runs.run (ledgerStep soloConfig) newLedger (upToSecond 778)).table secondText).sent.map
      fun segment => (readHeader (ofList segment.frame)).seq) = [778] := by decide +kernel
  rw [sent, List.map_singleton, seq] at number
  exact absurd number (by decide)

end OsiStack
