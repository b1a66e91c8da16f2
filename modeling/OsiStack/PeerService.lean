import OsiStack.Isolation
import OsiStack.PeerMachines

set_option autoImplicit false

namespace OsiStack

open Octets

def TcpOutcome.answer (out : TcpOutcome) : Int × Memory × List UInt8 × List Notice :=
  (out.status, out.frame, out.console, out.notices)

def Effects.service (e : Effects) : List Sent × List UInt8 × List Notice := (e.sent, e.console, e.notices)

section
variable (m : Memory) (table table' : Table) (i i' : Fin tcpConnectionLimit)
variable (same : (table i).connectionStatus = (table' i').connectionStatus)
include same

theorem handle_ack_answer (octets : Int8) (headerLen : Nat) :
    (handleAck m octets table i headerLen).answer = (handleAck m octets table' i' headerLen).answer := by
  simp only [handleAck, recordNumbers, same, TcpOutcome.answer]
  by_cases dead : (table' i').connectionStatus = 0
  · simp only [if_pos dead]
  · by_cases up : (table' i').connectionStatus = 1
    · by_cases data : 0 < octets.toInt
      · simp only [if_neg dead, if_pos up, if_pos data]
      · simp only [if_neg dead, if_pos up, if_neg data]
    · by_cases half : (table' i').connectionStatus = 2
      · simp [half]
      · simp [dead, up, half]

theorem handle_fin_ack_answer (offset : UInt8) :
    (handleFinAck m offset table i false).answer = (handleFinAck m offset table' i' false).answer := by
  simp only [handleFinAck, recordNumbers, same, Bool.false_eq_true, if_false, TcpOutcome.answer]
  by_cases dead : (table' i').connectionStatus = 0
  · simp [dead]
  · simp [dead]

theorem first_payload_answer (draws : List UInt32) (len : Nat) :
    (firstPayload draws len m table i).answer = (firstPayload draws len m table' i').answer := by
  rw [firstPayload, firstPayload, handle_tcp_payload_kind, handle_tcp_payload_kind]
  cases kindOf (controlBits m) with
  | syn => rfl
  | ack => exact handle_ack_answer m table table' i i' same _ _
  | pshAck => rfl
  | finAck => exact handle_fin_ack_answer m table table' i i' same _
  | other => rfl

theorem handle_tcp_answer (draws : List UInt32) (len : Nat) (heard : refusal m = none)
    (chosen : slotFor table (hear m len).peer = some i) (chosen' : slotFor table' (hear m len).peer = some i') :
    (handleTcp draws len m table false).answer = (handleTcp draws len m table' false).answer := by
  have payload := first_payload_answer m table table' i i' same draws len
  simp only [TcpOutcome.answer, Prod.mk.injEq] at payload
  obtain ⟨status, frame, console, notices⟩ := payload
  rw [handle_tcp_heard draws len m table i heard chosen, handle_tcp_heard draws len m table' i' heard chosen']
  simp only [TcpOutcome.answer, finishTcp, status, frame, console, notices]

end

theorem handle_tcp_again_answer (draws : List UInt32) (len : Nat) (m : Memory) (table table' : Table)
    (i i' : Fin tcpConnectionLimit) (chosen : slotFor table (addressee m) = some i)
    (chosen' : slotFor table' (addressee m) = some i') :
    (handleTcp draws len m table true).answer = (handleTcp draws len m table' true).answer := by
  rw [← tcp_slot_refines] at chosen chosen'
  simp only [addressee] at chosen chosen'
  simp only [handleTcp, if_true, chosen, chosen']
  rfl

section
variable (cfg : Network) (draws : List UInt32) (len : Nat) (r : Routing) (table table' : Table)
variable (i i' : Fin tcpConnectionLimit) (same : (table i).connectionStatus = (table' i').connectionStatus)
variable (heard : refusal r.frame = none) (chosen : slotFor table (hear r.frame len).peer = some i)
variable (chosen' : slotFor table' (hear r.frame len).peer = some i')
include same heard chosen chosen'

theorem handle_tcp_packet_service (noError : r.error = false) (long : 54 ≤ len) (short : len < 65000) :
    (handleTcpPacket cfg draws len r table).service = (handleTcpPacket cfg draws len r table').service := by
  have first := handle_tcp_answer r.frame table table' i i' same draws len heard chosen chosen'
  simp only [TcpOutcome.answer, Prod.mk.injEq] at first
  obtain ⟨status, frame, console, notices⟩ := first
  by_cases twice : (handleTcp draws len r.frame table' false).status = tcpFinAck
  · have closing' := (handle_tcp_first_status draws len r.frame table' i' heard chosen').symm.trans twice
    have closing := (handle_tcp_first_status draws len r.frame table i heard chosen).symm.trans (status.trans twice)
    have sealing : firstSent cfg draws len r table len = firstSent cfg draws len r table' len := by
      rw [firstSent, firstSent, frame]
    have slot := second_pass_slot cfg draws len r table i heard chosen noError long short closing
    have slot' := second_pass_slot cfg draws len r table' i' heard chosen' noError long short closing'
    rw [sealing] at slot
    have second := handle_tcp_again_answer draws len _ _ _ i i' slot slot'
    simp only [TcpOutcome.answer, Prod.mk.injEq] at second
    obtain ⟨-, againFrame, againConsole, againNotices⟩ := second
    simp only [firstSent] at againFrame againConsole againNotices
    simp only [handleTcpPacket, Effects.service, status, frame, console, notices, twice]
    simp only [tcpFinAck, tcpReg]
    simp [againFrame, againConsole, againNotices]
  · simp only [handleTcpPacket, Effects.service, status, frame, console, notices, if_neg twice]
    split
    · rfl
    · split <;> rfl

end

theorem act_status (s s' : Session) (h : Heard) (same : s.status = s'.status) :
    (s.act (.segment h)).status = (s'.act (.segment h)).status := by
  have closed : s = .closed ↔ s' = .closed := by
    cases s <;> cases s' <;> simp [Session.status] at same ⊢
  have closes : Session.Closes h s ↔ Session.Closes h s' := by
    rw [Session.Closes, Session.Closes, ne_eq, closed]
  have hears : (s.hears h).status = (s'.hears h).status := by
    unfold Session.hears
    cases h.kind with
    | syn => rfl
    | ack =>
        by_cases dead : s' = .closed
        · simp only [if_pos dead, if_pos (closed.mpr dead)]
        · simp only [if_neg dead, if_neg fun was => dead (closed.mp was)]
    | pshAck => cases s <;> cases s' <;> simp_all [Session.status, Session.numbers]
    | finAck => cases s <;> cases s' <;> simp_all [Session.status, Session.numbers]
    | other => exact same
  by_cases ends : Session.Closes h s'
  · rw [Session.act, Session.act, if_pos ends, if_pos (closes.mpr ends)]
  · rw [Session.act, Session.act, if_neg ends, if_neg fun was => ends (closes.mp was)]
    exact hears

theorem text_status (s : Session) (octets : Nat) : (s.act (.text octets)).status = s.status := by
  cases s <;> rfl

theorem receive_service (cfg : Config) (r : Reception) (accepted : Accepted cfg r) (lasting : IpHeader.ttl r.buffer ≠ 1)
    (table table' : Table) (i i' : Fin tcpConnectionLimit) (same : (table i).connectionStatus = (table' i').connectionStatus)
    (chosen : slotFor table r.heard.peer = some i) (chosen' : slotFor table' r.heard.peer = some i') :
    (receive cfg table r).service = (receive cfg table' r).service := by
  have long := accepted.long
  have high := r.lenHigh
  obtain ⟨receiver, mine, handled⟩ := receive_accepted cfg table r accepted
  obtain ⟨receiver', mine', handled'⟩ := receive_accepted cfg table' r accepted
  rw [mine] at mine'
  cases mine'
  rw [handled, handled']
  exact handle_tcp_packet_service cfg r.draws r.len (localRouting r.buffer ⟨1, r.icmpCode⟩ receiver) table table' i i' same
    accepted.heard chosen chosen' (by simp [localRouting, lasting]) (by omega) (by omega)

def ownSegment (cfg : Config) (peer : Peer) : Event → Bool
  | .frame r => decide (Accepted cfg r ∧ r.heard.peer = peer)
  | .input _ => false

def Served (cfg : Config) (peer : Peer) (table : Table) : Event → Prop
  | .frame r => Accepted cfg r → r.heard.peer = peer → slotFor table peer ≠ none ∧ IpHeader.ttl r.buffer ≠ 1
  | .input u => ∀ i, peerOf (table i) = peer → intent table u ≠ .quit i

instance decidableServed (cfg : Config) (peer : Peer) (table : Table) : ∀ e, Decidable (Served cfg peer table e)
  | .frame r => inferInstanceAs (Decidable (Accepted cfg r → r.heard.peer = peer → slotFor table peer ≠ none ∧
      IpHeader.ttl r.buffer ≠ 1))
  | .input u => inferInstanceAs (Decidable (∀ i, peerOf (table i) = peer → intent table u ≠ .quit i))

-- What the stack keeps for the peer in a full run and in the run of the peer's own segments,
-- where no other peer has a slot.
structure SeenAlike (peer : Peer) (table alone : Table) : Prop where
  inv : TableInv table
  invAlone : TableInv alone
  kept : ∃ sessions sessionsAlone, Keeps sessions table ∧ Keeps sessionsAlone alone ∧
    (sessions peer).status = (sessionsAlone peer).status
  sole : ∀ i, (alone i).connectionStatus ≠ 0 → peerOf (alone i) = peer

theorem tell_other (sessions : Sessions) (told : Peer × Action) (peer : Peer) (other : told.1 ≠ peer) :
    tell sessions told peer = sessions peer :=
  Function.update_of_ne (Ne.symm other) _ _

section
variable (cfg : Config) (peer : Peer) (table alone : Table) (alike : SeenAlike peer table alone)
include alike

theorem alone_room : ∃ i, slotFor alone peer = some i := by
  cases chosen : slotFor alone peer with
  | some i => exact ⟨i, rfl⟩
  | none =>
      unfold slotFor SlotTable.choose at chosen
      cases found : SlotTable.lookup peerOf alone peer with
      | some i =>
          rw [found] at chosen
          cases chosen
      | none =>
          rw [found] at chosen
          have live := (SlotTable.space_none isLive alone).mp chosen ⟨0, by decide⟩
          exact absurd (alike.sole _ ((is_live_iff _).mp live)) ((SlotTable.lookup_none peerOf alone peer).mp found _)

theorem alike_others (foreign : peer.1 ≠ tcpIp) (e : Event) (unmarked : ownSegment cfg peer e = false)
    (served : Served cfg peer table e) : SeenAlike peer (step cfg table e) alone := by
  obtain ⟨sessions, sessionsAlone, keeps, keepsAlone, same⟩ := alike.kept
  obtain ⟨actions, told, now⟩ := keeps_step cfg sessions table keeps alike.inv e
  refine ⟨table_inv_step cfg table e alike.inv, alike.invAlone, ⟨_, sessionsAlone, now, keepsAlone, ?_⟩, alike.sole⟩
  rw [← same]
  cases told with
  | ignored => rfl
  | full => rfl
  | heard r i accepted chosen regular =>
      have other : r.heard.peer ≠ peer := fun own => of_decide_eq_false unmarked ⟨accepted, own⟩
      exact congrArg Session.status (tell_other sessions _ peer other)
  | stray r i port accepted chosen expired closing =>
      have other : r.heard.peer ≠ peer := fun own => of_decide_eq_false unmarked ⟨accepted, own⟩
      have stack : (tcpIp, port) ≠ peer := fun own => foreign (congrArg Prod.fst own).symm
      exact congrArg Session.status ((tell_other _ ((tcpIp, port), .quit) peer stack).trans (tell_other sessions _ peer other))
  | quit u i quits =>
      have other : peerOf (table i) ≠ peer := fun own => served i own quits
      exact congrArg Session.status (tell_other sessions _ peer other)
  | text u i writes live =>
      by_cases own : peerOf (table i) = peer
      · rw [Runs.run_cons, own]
        exact (congrArg Session.status (Function.update_self peer _ sessions)).trans (text_status _ _)
      · exact congrArg Session.status (tell_other sessions _ peer own)
  | other => rfl

theorem alike_own (e : Event) (marked : ownSegment cfg peer e = true) (served : Served cfg peer table e) :
    SeenAlike peer (step cfg table e) (step cfg alone e) ∧ (react cfg table e).service = (react cfg alone e).service := by
  cases e with
  | input u => cases marked
  | frame r =>
      obtain ⟨accepted, own⟩ := of_decide_eq_true marked
      subst own
      obtain ⟨room, lasting⟩ := served accepted rfl
      obtain ⟨i, chosen⟩ := Option.ne_none_iff_exists'.mp room
      obtain ⟨i', chosen'⟩ := alone_room r.heard.peer table alone alike
      obtain ⟨sessions, sessionsAlone, keeps, keepsAlone, same⟩ := alike.kept
      have of := chosen_of sessions table keeps alike.inv r.heard.peer i chosen
      have of' := chosen_of sessionsAlone alone keepsAlone alike.invAlone r.heard.peer i' chosen'
      have alikeSlots : (table i).connectionStatus = (alone i').connectionStatus := by
        rw [Session.status_of _ _ of, Session.status_of _ _ of', same]
      refine ⟨?_, receive_service cfg r accepted lasting table alone i i' alikeSlots chosen chosen'⟩
      have next := receive_heard cfg table r accepted i chosen (Or.inl lasting)
      have next' := receive_heard cfg alone r accepted i' chosen' (Or.inl lasting)
      refine ⟨table_inv_step cfg table _ alike.inv, table_inv_step cfg alone _ alike.invAlone, ?_, ?_⟩
      · refine ⟨tell sessions (r.heard.peer, .segment r.heard), tell sessionsAlone (r.heard.peer, .segment r.heard), ?_,
          ?_, ?_⟩
        · rw [step, react, next]
          exact keeps_write sessions table keeps alike.inv r.heard.peer i chosen (.segment r.heard) _
            (Session.segment_of _ _ of r.heard) (outcome_keyed r.heard table i chosen)
        · rw [step, react, next']
          exact keeps_write sessionsAlone alone keepsAlone alike.invAlone r.heard.peer i' chosen' (.segment r.heard) _
            (Session.segment_of _ _ of' r.heard) (outcome_keyed r.heard alone i' chosen')
        · simp only [tell, Runs.keyed, Function.update_self]
          exact act_status _ _ r.heard same
      · intro j live
        rw [step, react, next'] at live ⊢
        by_cases here : j = i'
        · subst here
          rw [Function.update_self] at live ⊢
          exact outcome_keyed r.heard alone j chosen' ((is_live_iff _).mpr live)
        · rw [Function.update_of_ne here] at live ⊢
          exact alike.sole j live

end

theorem seen_alike_zero (peer : Peer) : SeenAlike peer zeroTable zeroTable where
  inv := table_inv_zero
  invAlone := table_inv_zero
  kept := ⟨_, _, keeps_nothing, keeps_nothing, rfl⟩
  sole := fun _ live => absurd rfl live

theorem peers_do_not_interfere (cfg : Config) (peer : Peer) (foreign : peer.1 ≠ tcpIp) (events : List Event)
    (served : Runs.Always (step cfg) (Served cfg peer) zeroTable events) :
    Runs.markedOutputs (step cfg) (fun table e => (react cfg table e).service) (ownSegment cfg peer) zeroTable events =
      Runs.outputs (step cfg) (fun table e => (react cfg table e).service) zeroTable (events.filter (ownSegment cfg peer)) :=
  Runs.outputs_unmarked (step cfg) _ (ownSegment cfg peer) (SeenAlike peer) (Served cfg peer)
    (fun table alone e alike unmarked served => alike_others cfg peer table alone alike foreign e unmarked served)
    (fun table alone e alike marked served => alike_own cfg peer table alone alike e marked served)
    zeroTable zeroTable events (seen_alike_zero peer) served

def visitorPeer : Peer := sender (visitorSegment 100 0 2).buffer

def bothTalk : List Event :=
  [.frame (visitorSegment 100 0 2), .frame (neighbourSegment 200 0 2), .frame (visitorSegment 101 778 16),
    .frame (neighbourSegment 201 889 17), .frame (visitorSegment 101 778 17)]

theorem peers_do_not_interfere_talk :
    Runs.markedOutputs (step soloConfig) (fun table e => (react soloConfig table e).service)
        (ownSegment soloConfig visitorPeer) zeroTable bothTalk =
      Runs.outputs (step soloConfig) (fun table e => (react soloConfig table e).service) zeroTable
        (bothTalk.filter (ownSegment soloConfig visitorPeer)) :=
  peers_do_not_interfere soloConfig visitorPeer (by decide +kernel) bothTalk (by decide +kernel)

end OsiStack
