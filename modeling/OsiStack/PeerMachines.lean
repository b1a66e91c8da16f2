import OsiStack.TableInvariant

set_option autoImplicit false

namespace OsiStack

open Octets

-- What the stack keeps for a peer. Before the first number it acknowledges, the sequence
-- number to send from is whatever the slot's last owner left.
inductive Session where
  | closed
  | synReceived (next : UInt32) (curr : Option UInt32)
  | established (next curr : UInt32)
deriving DecidableEq

inductive Action where
  | segment (h : Heard)
  | expired (h : Heard)
  | quit
  | text (octets : Nat)

namespace Session

def curr : Session → Option UInt32
  | closed => none
  | synReceived _ own => own
  | established _ own => some own

def numbers (s : Session) (next own : UInt32) : Session :=
  match s with
  | closed => closed
  | synReceived _ _ => synReceived next (some own)
  | established _ _ => established next own

def hears (h : Heard) (s : Session) : Session :=
  match h.kind with
  | .syn => synReceived h.nextSeq s.curr
  | .ack => if s = closed then closed else established h.nextSeq h.ack
  | .pshAck | .finAck => s.numbers h.nextSeq h.ack
  | .other => s

def Closes (h : Heard) (s : Session) : Prop := h.kind = .finAck ∧ s ≠ closed ∨ h.kind = .pshAck ∧ h.octets = -3

instance (h : Heard) (s : Session) : Decidable (Closes h s) := by
  unfold Closes
  infer_instance

def act (s : Session) : Action → Session
  | .segment h => if Closes h s then closed else s.hears h
  | .expired h => s.hears h
  | .quit => closed
  | .text octets =>
      match s with
      | closed => closed
      | synReceived next own => synReceived next (own.map fun number => number + UInt32.ofNat octets)
      | established next own => established next (own + UInt32.ofNat octets)

def Of (s : Session) (conn : TcpConnection) : Prop :=
  match s with
  | closed => conn.connectionStatus = 0
  | synReceived next own => conn.connectionStatus = 2 ∧ conn.nextSeq = next ∧ ∀ number, own = some number →
      conn.currSeq = number
  | established next own => conn.connectionStatus = 1 ∧ conn.nextSeq = next ∧ conn.currSeq = own

def status : Session → Int
  | closed => 0
  | synReceived _ _ => 2
  | established _ _ => 1

section
variable (s : Session) (conn : TcpConnection) (of : s.Of conn)
include of

theorem status_of : conn.connectionStatus = s.status := by
  cases s with
  | closed => exact of
  | synReceived next own => exact of.1
  | established next own => exact of.1

theorem closed_iff : s = closed ↔ conn.connectionStatus = 0 := by
  rw [status_of s conn of]
  cases s <;> simp [status]

theorem curr_of (number : UInt32) (known : s.curr = some number) : conn.currSeq = number := by
  cases s with
  | closed => cases known
  | synReceived next own => exact of.2.2 number known
  | established next own =>
      cases known
      exact of.2.2

theorem closes_iff (h : Heard) : Closes h s ↔ h.status conn = tcpFinAck := by
  rw [Heard.closing_iff, Closes, ne_eq, closed_iff s conn of]

theorem numbers_of (next own : UInt32) : (s.numbers next own).Of { conn with nextSeq := next, currSeq := own } := by
  cases s with
  | closed => exact of
  | synReceived _ _ => exact ⟨of.1, rfl, fun number known => Option.some.inj known⟩
  | established _ _ => exact ⟨of.1, rfl, rfl⟩

theorem ack_of (h : Heard) (ack : h.kind = .ack) : (s.hears h).Of (h.apply conn) := by
  cases s with
  | closed =>
      rw [apply_closed_ack h conn ack of, hears, ack]
      exact of
  | synReceived next own =>
      simp only [hears, Heard.apply, ack, of.1]
      exact ⟨rfl, rfl, rfl⟩
  | established next own =>
      simp only [hears, Heard.apply, ack, of.1]
      exact ⟨rfl, rfl, rfl⟩

theorem hears_of (h : Heard) : (s.hears h).Of (h.apply conn) := by
  cases kind : h.kind with
  | syn =>
      simp only [hears, Heard.apply, kind]
      exact ⟨rfl, rfl, curr_of s conn of⟩
  | ack => exact ack_of s conn of h kind
  | pshAck =>
      simp only [hears, Heard.apply, kind]
      exact numbers_of s conn of _ _
  | finAck =>
      simp only [hears, Heard.apply, kind]
      exact numbers_of s conn of _ _
  | other =>
      simp only [hears, Heard.apply, kind]
      exact of

theorem segment_of (h : Heard) : (s.act (.segment h)).Of (h.outcome conn) := by
  by_cases closes : Closes h s
  · rw [act, if_pos closes, Heard.outcome, if_pos ((closes_iff s conn of h).mp closes)]
    rfl
  · rw [act, if_neg closes, Heard.outcome, if_neg fun closing => closes ((closes_iff s conn of h).mpr closing)]
    exact hears_of s conn of h

theorem text_of (octets : Nat) (io : Int) : (s.act (.text octets)).Of
    { conn with io := io, currSeq := conn.currSeq + UInt32.ofNat octets } := by
  cases s with
  | closed => exact of
  | synReceived next own =>
      refine ⟨of.1, of.2.1, fun number known => ?_⟩
      obtain ⟨before, same, rfl⟩ := Option.map_eq_some_iff.mp known
      rw [of.2.2 before same]
  | established next own => exact ⟨of.1, of.2.1, congrArg (· + UInt32.ofNat octets) of.2.2⟩

end

end Session

-- What an event tells the machines, at the table that it meets: nothing, or one thing to one
-- of them; only a closing segment that comes with TTL 1 is told to its sender and then, as a
-- close, to the stack's own address.
inductive Told (cfg : Config) (table : Table) : Event → List (Peer × Action) → Prop
  | ignored (r : Reception) (ignored : ¬ Accepted cfg r) : Told cfg table (.frame r) []
  | full (r : Reception) (accepted : Accepted cfg r) (full : slotFor table r.heard.peer = none) :
      Told cfg table (.frame r) []
  | heard (r : Reception) (i : Fin tcpConnectionLimit) (accepted : Accepted cfg r)
      (chosen : slotFor table r.heard.peer = some i)
      (regular : IpHeader.ttl r.buffer ≠ 1 ∨ r.heard.status (table i) ≠ tcpFinAck) :
      Told cfg table (.frame r) [(r.heard.peer, .segment r.heard)]
  | stray (r : Reception) (i : Fin tcpConnectionLimit) (port : UInt16) (accepted : Accepted cfg r)
      (chosen : slotFor table r.heard.peer = some i) (expired : IpHeader.ttl r.buffer = 1)
      (closing : r.heard.status (table i) = tcpFinAck) :
      Told cfg table (.frame r) [(r.heard.peer, .expired r.heard), ((tcpIp, port), .quit)]
  | quit (u : UserRead) (i : Fin tcpConnectionLimit) (quits : intent table u = .quit i) :
      Told cfg table (.input u) [(peerOf (table i), .quit)]
  | text (u : UserRead) (i : Fin tcpConnectionLimit) (writes : intent table u = .text i)
      (live : (table i).connectionStatus ≠ 0) : Told cfg table (.input u) [(peerOf (table i), .text u.text.length)]
  | other (u : UserRead) (otherwise : ∀ i, intent table u ≠ .quit i)
      (unheard : ∀ i, intent table u = .text i → (table i).connectionStatus = 0) : Told cfg table (.input u) []

abbrev Sessions := Peer → Session

def Keeps (sessions : Sessions) (table : Table) : Prop := SlotTable.Represents peerOf isLive Session.Of .closed sessions table

def tell : Sessions → Peer × Action → Sessions := Runs.keyed Session.act

section
variable (sessions : Sessions) (table : Table) (keeps : Keeps sessions table) (inv : TableInv table)
include keeps inv

theorem chosen_of (peer : Peer) (i : Fin tcpConnectionLimit) (chosen : slotFor table peer = some i) :
    (sessions peer).Of (table i) := by
  cases state : isLive (table i) with
  | true =>
      have own := (SlotTable.choose_live peerOf isLive table peer i chosen state).1
      rw [← own]
      exact keeps.held i state
  | false =>
      have closed := SlotTable.represents_absent peerOf isLive Session.Of .closed sessions table keeps inv.canonical peer
        fun j here => by
          rw [← Option.some.inj (chosen.symm.trans here)]
          exact state
      rw [closed]
      exact (is_dead_iff (table i)).mp state

theorem keeps_write (peer : Peer) (i : Fin tcpConnectionLimit) (chosen : slotFor table peer = some i) (action : Action)
    (conn : TcpConnection) (of : ((sessions peer).act action).Of conn) (keyed : isLive conn = true → peerOf conn = peer) :
    Keeps (tell sessions (peer, action)) (Function.update table i conn) := by
  apply SlotTable.represents_write peerOf isLive Session.Of .closed sessions table keeps inv.canonical peer i chosen conn
  · exact fun alive => ⟨keyed alive, of⟩
  · exact fun dead => (Session.closed_iff _ conn of).mpr ((is_dead_iff conn).mp dead)

theorem keeps_own (i : Fin tcpConnectionLimit) (live : (table i).connectionStatus ≠ 0) (action : Action) (conn : TcpConnection)
    (of : ((sessions (peerOf (table i))).act action).Of conn) (same : peerOf conn = peerOf (table i)) :
    Keeps (tell sessions (peerOf (table i), action)) (Function.update table i conn) :=
  keeps_write sessions table keeps inv (peerOf (table i)) i
    (SlotTable.canonical_choose peerOf isLive table inv.canonical i ((is_live_iff (table i)).mpr live)) action conn of
    fun _ => same

theorem keeps_close (peer : Peer) : Keeps (tell sessions (peer, .quit)) (closeAt table peer) := by
  cases chosen : slotFor table peer with
  | some i =>
      rw [close_at_some table peer i chosen]
      exact keeps_write sessions table keeps inv peer i chosen .quit _ rfl fun alive => by cases alive
  | none =>
      have closed := SlotTable.represents_absent peerOf isLive Session.Of .closed sessions table keeps inv.canonical peer
        fun j here => by cases chosen.symm.trans here
      have same : tell sessions (peer, .quit) = sessions := by
        rw [tell, Runs.keyed, Function.update_eq_self_iff, closed]
        rfl
      rw [same, closeAt, chosen]
      exact keeps

end

theorem apply_keyed (h : Heard) (table : Table) (i : Fin tcpConnectionLimit) (chosen : slotFor table h.peer = some i)
    (live : isLive (h.apply (table i)) = true) : peerOf (h.apply (table i)) = h.peer := by
  by_cases syn : h.kind = .syn
  · exact apply_syn_key h (table i) syn
  · rw [apply_live h (table i) syn] at live
    rw [apply_key h (table i) syn]
    exact (SlotTable.choose_live peerOf isLive table h.peer i chosen live).1

theorem outcome_keyed (h : Heard) (table : Table) (i : Fin tcpConnectionLimit) (chosen : slotFor table h.peer = some i)
    (live : isLive (h.outcome (table i)) = true) : peerOf (h.outcome (table i)) = h.peer := by
  by_cases closing : h.status (table i) = tcpFinAck
  · rw [Heard.outcome, if_pos closing] at live
    cases live
  · rw [Heard.outcome, if_neg closing] at live ⊢
    exact apply_keyed h table i chosen live

theorem keeps_user (cfg : Config) (sessions : Sessions) (table : Table) (keeps : Keeps sessions table) (inv : TableInv table)
    (u : UserRead) (meant : (intent table u).Meant table u) : ∃ actions, Told cfg table (.input u) actions ∧
      Keeps (Runs.run tell sessions actions) ((intent table u).effect table u) := by
  have unheard (kept : Keeps sessions ((intent table u).effect table u)) (otherwise : ∀ i, intent table u ≠ .quit i)
      (dead : ∀ i, intent table u = .text i → (table i).connectionStatus = 0) : ∃ actions, Told cfg table (.input u) actions ∧
        Keeps (Runs.run tell sessions actions) ((intent table u).effect table u) := ⟨[], .other u otherwise dead, kept⟩
  have marked (i : Fin tcpConnectionLimit) (io : Int) : Keeps sessions (Function.update table i { table i with io := io }) :=
    SlotTable.represents_kept peerOf isLive Session.Of .closed sessions table keeps i _ rfl rfl fun value of => by
      cases value with
      | closed => exact of
      | synReceived next own => exact of
      | established next own => exact of
  generalize wanted : intent table u = request at meant unheard ⊢
  cases request with
  | nothing => exact unheard keeps (fun i same => by cases same) (fun i same => by cases same)
  | select i => exact unheard (marked i 1) (fun i same => by cases same) (fun i same => by cases same)
  | leave i => exact unheard (marked i 0) (fun i same => by cases same) (fun i same => by cases same)
  | quit i =>
      refine ⟨_, .quit u i wanted, ?_⟩
      exact keeps_own sessions table keeps inv i meant.2 .quit _ rfl rfl
  | text i =>
      by_cases dead : (table i).connectionStatus = 0
      · refine unheard ?_ (fun j same => by cases same) (fun j same => ?_)
        · exact SlotTable.represents_dead peerOf isLive Session.Of .closed sessions table keeps i _
            ((is_dead_iff (table i)).mpr dead) ((is_dead_iff _).mpr dead)
        · cases same
          exact dead
      · refine ⟨_, .text u i wanted dead, ?_⟩
        have of := keeps.held i ((is_live_iff (table i)).mpr dead)
        exact keeps_own sessions table keeps inv i dead (.text u.text.length) _ (Session.text_of _ _ of _ 0) rfl

theorem keeps_step (cfg : Config) (sessions : Sessions) (table : Table) (keeps : Keeps sessions table) (inv : TableInv table)
    (e : Event) : ∃ actions, Told cfg table e actions ∧ Keeps (Runs.run tell sessions actions) (step cfg table e) := by
  have transition := step_transition cfg table e
  generalize step cfg table e = next at transition ⊢
  cases transition with
  | ignored r ignored => exact ⟨[], .ignored r ignored, keeps⟩
  | full r accepted full => exact ⟨[], .full r accepted full, keeps⟩
  | heard r i accepted chosen regular =>
      refine ⟨_, .heard r i accepted chosen regular, ?_⟩
      have of := chosen_of sessions table keeps inv r.heard.peer i chosen
      exact keeps_write sessions table keeps inv r.heard.peer i chosen (.segment r.heard) _
        (Session.segment_of _ _ of r.heard) (outcome_keyed r.heard table i chosen)
  | stray r i port accepted chosen expired closing =>
      refine ⟨_, .stray r i port accepted chosen expired closing, ?_⟩
      have of := chosen_of sessions table keeps inv r.heard.peer i chosen
      have first := keeps_write sessions table keeps inv r.heard.peer i chosen (.expired r.heard) _
        (Session.hears_of _ _ of r.heard) (apply_keyed r.heard table i chosen)
      exact keeps_close _ _ first (table_inv_apply table inv r.heard i chosen) (tcpIp, port)
  | user u meant => exact keeps_user cfg sessions table keeps inv u meant

inductive ToldAlong (cfg : Config) : Table → List Event → List (Peer × Action) → Prop
  | done (table : Table) : ToldAlong cfg table [] []
  | next (table : Table) (e : Event) (rest : List Event) (actions later : List (Peer × Action))
      (told : Told cfg table e actions) (after : ToldAlong cfg (step cfg table e) rest later) :
      ToldAlong cfg table (e :: rest) (actions ++ later)

theorem keeps_run (cfg : Config) (events : List Event) (sessions : Sessions) (table : Table) (keeps : Keeps sessions table)
    (inv : TableInv table) : ∃ actions, ToldAlong cfg table events actions ∧
      Keeps (Runs.run tell sessions actions) (Runs.run (step cfg) table events) := by
  induction events generalizing sessions table with
  | nil => exact ⟨[], .done table, keeps⟩
  | cons e rest ih =>
      obtain ⟨actions, told, now⟩ := keeps_step cfg sessions table keeps inv e
      obtain ⟨later, after, last⟩ := ih _ _ now (table_inv_step cfg table e inv)
      refine ⟨actions ++ later, .next table e rest actions later told after, ?_⟩
      rw [Runs.run_append]
      exact last

def sessionOf (actions : List (Peer × Action)) (peer : Peer) : Session :=
  Runs.run Session.act .closed ((actions.filter fun told => told.1 = peer).map Prod.snd)

theorem keeps_nothing : Keeps (fun _ => .closed) zeroTable where
  held := fun i live => by cases live
  missing := fun _ _ => rfl

theorem table_is_peer_machines (cfg : Config) (events : List Event) : ∃ actions, ToldAlong cfg zeroTable events actions ∧
    Keeps (sessionOf actions) (Runs.run (step cfg) zeroTable events) := by
  obtain ⟨actions, told, keeps⟩ := keeps_run cfg events _ zeroTable keeps_nothing table_inv_zero
  have own : Runs.run tell (fun _ => .closed) actions = sessionOf actions :=
    funext fun peer => Runs.run_keyed Session.act (fun _ => .closed) actions peer
  rw [own] at keeps
  exact ⟨actions, told, keeps⟩

end OsiStack
