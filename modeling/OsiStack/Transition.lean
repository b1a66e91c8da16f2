import OsiStack.Dispatch

set_option autoImplicit false

namespace OsiStack

open Octets

theorem finish_tcp_src_addr (out : TcpOutcome) (segmentLen octets : UInt16) :
    IpHeader.srcAddr (finishTcp out segmentLen octets false) = tcpIp := by
  simp [finishTcp, readdress]

-- The error path hands the second pass an ICMP header: its destination address
-- is the stack's own, and its ICMP checksum stands where the port was.
theorem first_sent_stray (cfg : Network) (draws : List UInt32) (len : Nat) (r : Routing) (table : Table)
    (error : r.error = true) (i : Fin tcpConnectionLimit) (heard : refusal r.frame = none)
    (chosen : slotFor table (hear r.frame len).peer = some i) (currLen : Nat) :
    IpHeader.destAddr (firstSent cfg draws len r table currLen).frame = tcpIp := by
  rw [firstSent, error, handle_tcp_heard draws len r.frame table i heard chosen,
    ← finish_tcp_src_addr (firstPayload draws len r.frame table i) (tcpSegmentLen r.frame len) (dataOctets r.frame len),
    ← turned_back_src_addr cfg _ r.transmitter, ← handle_icmp_dest_addr cfg _ r.icmp r.transmitter]
  apply load_octets_congr
  intro k low high
  exact encapsulation_error_octet cfg _ currLen r.finalDestAddr r.icmp r.transmitter false k (by omega) (by omega)

abbrev Reception.heard (r : Reception) : Heard := hear r.buffer r.len

section
variable (cfg : Config) (table : Table) (r : Reception) (accepted : Accepted cfg r)
include accepted

theorem receive_full (full : slotFor table r.heard.peer = none) :
    receive cfg table r = ⟨table, [], [], checksumNotices r.buffer r.len ++ [.connectionLimit]⟩ := by
  obtain ⟨receiver, -, same⟩ := receive_accepted cfg table r accepted
  rw [same]
  exact handle_tcp_packet_full cfg r.draws r.len (localRouting r.buffer _ receiver) table accepted.heard full

theorem receive_heard (i : Fin tcpConnectionLimit) (chosen : slotFor table r.heard.peer = some i)
    (regular : IpHeader.ttl r.buffer ≠ 1 ∨ r.heard.status (table i) ≠ tcpFinAck) :
    (receive cfg table r).table = Function.update table i (r.heard.outcome (table i)) := by
  have long := accepted.long
  obtain ⟨receiver, -, same⟩ := receive_accepted cfg table r accepted
  rw [same]
  exact handle_tcp_packet_heard cfg r.draws r.len (localRouting r.buffer ⟨1, r.icmpCode⟩ receiver) table i
    accepted.heard chosen (by omega) (regular.imp (fun lasting => by simp [localRouting, lasting]) id)

theorem receive_stray (i : Fin tcpConnectionLimit) (chosen : slotFor table r.heard.peer = some i)
    (expired : IpHeader.ttl r.buffer = 1) (closing : r.heard.status (table i) = tcpFinAck) :
    ∃ port, (receive cfg table r).table =
      closeAt (Function.update table i (r.heard.apply (table i))) (tcpIp, port) := by
  obtain ⟨receiver, -, same⟩ := receive_accepted cfg table r accepted
  let route := localRouting r.buffer ⟨1, r.icmpCode⟩ receiver
  have first := handle_tcp_first_table r.draws r.len route.frame table accepted.heard
  have status := handle_tcp_first_status r.draws r.len route.frame table i accepted.heard chosen
  have stray := first_sent_stray cfg r.draws r.len route table (by simp [route, localRouting, expired]) i accepted.heard
    chosen r.len
  refine ⟨(addressee (firstSent cfg r.draws r.len route table r.len).frame).2, ?_⟩
  rw [same, handle_tcp_packet_twice cfg r.draws r.len route table (status.trans closing), first, ← stray,
    ← first_table_some r.heard table i chosen]
  rfl

theorem receive_numbers (i : Fin tcpConnectionLimit) (chosen : slotFor table r.heard.peer = some i) :
    ((receive cfg table r).table i).nextSeq = (r.heard.apply (table i)).nextSeq ∧
      ((receive cfg table r).table i).currSeq = (r.heard.apply (table i)).currSeq := by
  by_cases regular : IpHeader.ttl r.buffer ≠ 1 ∨ r.heard.status (table i) ≠ tcpFinAck
  · rw [receive_heard cfg table r accepted i chosen regular, Function.update_self]
    exact outcome_numbers r.heard (table i)
  · push Not at regular
    obtain ⟨port, same⟩ := receive_stray cfg table r accepted i chosen regular.1 regular.2
    have kept := close_at_numbers (Function.update table i (r.heard.apply (table i))) (tcpIp, port) i
    rw [Function.update_self] at kept
    rw [same]
    exact kept

theorem receive_numbers_other (i j : Fin tcpConnectionLimit) (chosen : slotFor table r.heard.peer = some i) (apart : j ≠ i) :
    ((receive cfg table r).table j).nextSeq = (table j).nextSeq ∧
      ((receive cfg table r).table j).currSeq = (table j).currSeq := by
  by_cases regular : IpHeader.ttl r.buffer ≠ 1 ∨ r.heard.status (table i) ≠ tcpFinAck
  · rw [receive_heard cfg table r accepted i chosen regular, Function.update_of_ne apart]
    exact ⟨rfl, rfl⟩
  · push Not at regular
    obtain ⟨port, same⟩ := receive_stray cfg table r accepted i chosen regular.1 regular.2
    have kept := close_at_numbers (Function.update table i (r.heard.apply (table i))) (tcpIp, port) j
    rw [Function.update_of_ne apart] at kept
    rw [same]
    exact kept

theorem receive_answers (i : Fin tcpConnectionLimit) (chosen : slotFor table r.heard.peer = some i)
    (lasting : IpHeader.ttl r.buffer ≠ 1) : ∃ receiver, ethCmp cfg r.buffer = some receiver ∧
      List.Forall₂ (Answers r.heard r.draws r.len (localRouting r.buffer ⟨1, r.icmpCode⟩ receiver))
        (receive cfg table r).sent (r.heard.flags (table i)) := by
  have long := accepted.long
  have high := r.lenHigh
  obtain ⟨receiver, mine, same⟩ := receive_accepted cfg table r accepted
  refine ⟨receiver, mine, ?_⟩
  rw [same]
  exact handle_tcp_packet_answers cfg r.draws r.len (localRouting r.buffer ⟨1, r.icmpCode⟩ receiver) table i
    accepted.heard chosen accepted.tcp (by simp [localRouting, lasting]) (by omega) (by omega)

theorem receive_expired (expired : IpHeader.ttl r.buffer = 1) (s : Sent) (member : s ∈ (receive cfg table r).sent) :
    IpHeader.protocol (ofList s.frame) = 1 := by
  obtain ⟨receiver, -, same⟩ := receive_accepted cfg table r accepted
  rw [same] at member
  exact handle_tcp_packet_error cfg r.draws r.len (localRouting r.buffer ⟨1, r.icmpCode⟩ receiver) table
    (by simp [localRouting, expired]) s member

theorem receive_expired_replies (expired : IpHeader.ttl r.buffer = 1) : tcpReplies (receive cfg table r) = [] := by
  refine tcp_replies_none _ fun s member whole => ?_
  have icmp := receive_expired cfg table r accepted expired s member
  rw [whole.2.2] at icmp
  exact absurd icmp (by decide)

end

inductive Intent where
  | nothing
  | select (i : Fin tcpConnectionLimit)
  | quit (i : Fin tcpConnectionLimit)
  | leave (i : Fin tcpConnectionLimit)
  | text (i : Fin tcpConnectionLimit)
deriving DecidableEq

def commandIntent (table : Table) (read : List UInt8) : Intent :=
  let (id, command) := parseConnectionCommand ((stripNewline read).takeWhile fun c => c ≠ 0)
  if id = -1 then .nothing
  else
    match verifyUserIdInput id table with
    | none => .nothing
    | some i => if isQuit command then .quit i else .select i

def chatIntent (i : Fin tcpConnectionLimit) (read : List UInt8) : Intent :=
  if read.length = 1 ∧ isQuit (read.getD 0 0) then .leave i else if read.length = 0 then .nothing else .text i

def intent (table : Table) (u : UserRead) : Intent :=
  match promise table with
  | none => commandIntent table u.text
  | some i => chatIntent i u.text

namespace Intent

def conn (u : UserRead) (c : TcpConnection) : Intent → TcpConnection
  | nothing => c
  | select _ => { c with io := 1 }
  | quit _ => { c with connectionStatus := 0, currSeq := c.currSeq + 1 }
  | leave _ => { c with io := 0 }
  | text _ => { c with io := 0, currSeq := c.currSeq + UInt32.ofNat u.text.length }

def effect (table : Table) (u : UserRead) (intent : Intent) : Table :=
  match intent with
  | nothing => table
  | select i | quit i | leave i | text i => Function.update table i (intent.conn u (table i))

def sent (table : Table) (u : UserRead) : Intent → List Sent
  | quit i =>
      [sendSegment 0 (createTcpSegment [] (Function.update table i (Heard.close (table i))) tcpMac tcpIp i true)]
  | text i => [sendSegment 0 (createTcpSegment u.text table tcpMac tcpIp i false)]
  | _ => []

end Intent

theorem create_tcp_segment_table (buffer : List UInt8) (table : Table) (i : Fin tcpConnectionLimit)
    (finFlag : Bool) : (createTcpSegment buffer table tcpMac tcpIp i finFlag).table = Function.update table i
      { table i with
        connectionStatus := if finFlag then 0 else (table i).connectionStatus
        currSeq := (table i).currSeq + if finFlag ∨ buffer = [] then 1 else UInt32.ofNat buffer.length } := by
  cases finFlag with
  | true => simp [createTcpSegment]
  | false => by_cases empty : buffer = [] <;> simp [createTcpSegment, empty]

theorem interact_intent (table : Table) (u : UserRead) :
    interact table u = ⟨(intent table u).effect table u, (intent table u).sent table u⟩ := by
  unfold interact interactionHandler intent
  cases promise table with
  | none =>
      unfold commandMode commandIntent
      by_cases empty : u.text.length = 0
      · rw [if_pos empty]
        rw [List.length_eq_zero_iff] at empty
        simp [empty, stripNewline, parseConnectionCommand, Intent.effect, Intent.sent]
      · rw [if_neg empty]
        generalize parseConnectionCommand _ = parsed
        obtain ⟨id, command⟩ := parsed
        by_cases rejected : id = -1
        · simp [rejected, Intent.effect, Intent.sent]
        · simp only [if_neg rejected]
          cases verifyUserIdInput id table with
          | none => rfl
          | some i =>
              by_cases quit : isQuit command = true
              · simp only [if_pos quit, create_tcp_segment_table]
                simp [Intent.effect, Intent.conn, Intent.sent, Heard.close]
              · simp only [if_neg quit]
                rfl
  | some i =>
      unfold chatMode chatIntent
      by_cases lone : u.text.length = 1 ∧ isQuit (u.text.getD 0 0)
      · simp only [if_pos lone]
        rfl
      · by_cases empty : u.text.length = 0
        · simp only [if_neg lone, if_pos empty]
          rfl
        · simp only [if_neg lone, if_neg empty, create_tcp_segment_table]
          rw [List.length_eq_zero_iff] at empty
          simp [Intent.effect, Intent.conn, Intent.sent, empty]

theorem verify_user_id_some (id : Int) (table : Table) (i : Fin tcpConnectionLimit)
    (found : verifyUserIdInput id table = some i) : id = i.val ∧ (table i).connectionStatus ≠ 0 := by
  rw [verifyUserIdInput] at found
  simpa using (Fin.find?_eq_some_iff.mp found).1

theorem verify_user_id_live (table : Table) (i : Fin tcpConnectionLimit) (live : (table i).connectionStatus ≠ 0) :
    verifyUserIdInput (i.val : Int) table = some i := by
  cases found : verifyUserIdInput (i.val : Int) table with
  | none =>
      rw [verifyUserIdInput] at found
      have other := Fin.find?_eq_none_iff.mp found i
      simp [live] at other
  | some j =>
      have same := (verify_user_id_some _ table j found).1
      rw [Fin.ext (Int.ofNat.inj same)]

theorem promise_some (table : Table) (i : Fin tcpConnectionLimit) (found : promise table = some i) : (table i).io ≠ 0 := by
  rw [promise] at found
  simpa using (Fin.find?_eq_some_iff.mp found).1

theorem promise_none (table : Table) (unwritten : promise table = none) (i : Fin tcpConnectionLimit) : (table i).io = 0 := by
  rw [promise] at unwritten
  simpa using Fin.find?_eq_none_iff.mp unwritten i

def Intent.Meant (table : Table) (u : UserRead) : Intent → Prop
  | .nothing => True
  | .select i | .quit i => promise table = none ∧ (table i).connectionStatus ≠ 0
  | .leave i => promise table = some i
  | .text i => promise table = some i ∧ u.text ≠ []

theorem intent_meant (table : Table) (u : UserRead) : (intent table u).Meant table u := by
  unfold intent
  cases writing : promise table with
  | none =>
      unfold commandIntent
      generalize parseConnectionCommand _ = parsed
      obtain ⟨id, command⟩ := parsed
      by_cases rejected : id = -1
      · simp only [if_pos rejected]
        trivial
      · simp only [if_neg rejected]
        cases found : verifyUserIdInput id table with
        | none => trivial
        | some i =>
            have live := (verify_user_id_some id table i found).2
            dsimp only
            split
            · exact ⟨writing, live⟩
            · exact ⟨writing, live⟩
  | some i =>
      unfold chatIntent
      dsimp only
      split
      · exact writing
      · split
        · trivial
        · rename_i filled
          rw [List.length_eq_zero_iff] at filled
          exact ⟨writing, filled⟩

theorem effect_status (table : Table) (u : UserRead) (request : Intent) (i : Fin tcpConnectionLimit)
    (other : request ≠ .quit i) : (request.effect table u i).connectionStatus = (table i).connectionStatus := by
  have same (j : Fin tcpConnectionLimit) (conn : TcpConnection) (kept : conn.connectionStatus = (table j).connectionStatus) :
      (Function.update table j conn i).connectionStatus = (table i).connectionStatus :=
    SlotTable.update_key TcpConnection.connectionStatus table j conn kept i
  cases request with
  | nothing => rfl
  | select j => exact same j (Intent.conn u (table j) (.select j)) rfl
  | quit j =>
      have apart : i ≠ j := fun here => other (congrArg Intent.quit here.symm)
      simp only [Intent.effect, Function.update_of_ne apart]
  | leave j => exact same j (Intent.conn u (table j) (.leave j)) rfl
  | text j => exact same j (Intent.conn u (table j) (.text j)) rfl

theorem effect_kept (table : Table) (u : UserRead) (request : Intent) (i : Fin tcpConnectionLimit) :
    peerOf (request.effect table u i) = peerOf (table i) ∧ (request.effect table u i).nextSeq = (table i).nextSeq := by
  have same (j : Fin tcpConnectionLimit) (conn : TcpConnection) (key : peerOf conn = peerOf (table j))
      (next : conn.nextSeq = (table j).nextSeq) : peerOf (Function.update table j conn i) = peerOf (table i) ∧
        (Function.update table j conn i).nextSeq = (table i).nextSeq :=
    ⟨SlotTable.update_key peerOf table j conn key i, SlotTable.update_key TcpConnection.nextSeq table j conn next i⟩
  cases request with
  | nothing => exact ⟨rfl, rfl⟩
  | select j => exact same j (Intent.conn u (table j) (.select j)) rfl rfl
  | quit j => exact same j (Intent.conn u (table j) (.quit j)) rfl rfl
  | leave j => exact same j (Intent.conn u (table j) (.leave j)) rfl rfl
  | text j => exact same j (Intent.conn u (table j) (.text j)) rfl rfl

inductive Transition (cfg : Config) (table : Table) : Event → Table → Prop
  | ignored (r : Reception) (ignored : ¬ Accepted cfg r) : Transition cfg table (.frame r) table
  | full (r : Reception) (accepted : Accepted cfg r) (full : slotFor table r.heard.peer = none) :
      Transition cfg table (.frame r) table
  | heard (r : Reception) (i : Fin tcpConnectionLimit) (accepted : Accepted cfg r)
      (chosen : slotFor table r.heard.peer = some i)
      (regular : IpHeader.ttl r.buffer ≠ 1 ∨ r.heard.status (table i) ≠ tcpFinAck) :
      Transition cfg table (.frame r) (Function.update table i (r.heard.outcome (table i)))
  | stray (r : Reception) (i : Fin tcpConnectionLimit) (port : UInt16) (accepted : Accepted cfg r)
      (chosen : slotFor table r.heard.peer = some i) (expired : IpHeader.ttl r.buffer = 1)
      (closing : r.heard.status (table i) = tcpFinAck) :
      Transition cfg table (.frame r) (closeAt (Function.update table i (r.heard.apply (table i))) (tcpIp, port))
  | user (u : UserRead) (meant : (intent table u).Meant table u) :
      Transition cfg table (.input u) ((intent table u).effect table u)

theorem step_input (cfg : Config) (table : Table) (u : UserRead) :
    step cfg table (.input u) = (intent table u).effect table u := by
  change (interact table u).table = _
  rw [interact_intent]

theorem step_transition (cfg : Config) (table : Table) (e : Event) : Transition cfg table e (step cfg table e) := by
  cases e with
  | frame r =>
      change Transition cfg table (.frame r) (receive cfg table r).table
      by_cases accepted : Accepted cfg r
      · cases chosen : slotFor table r.heard.peer with
        | none =>
            rw [receive_full cfg table r accepted chosen]
            exact .full r accepted chosen
        | some i =>
            by_cases regular : IpHeader.ttl r.buffer ≠ 1 ∨ r.heard.status (table i) ≠ tcpFinAck
            · rw [receive_heard cfg table r accepted i chosen regular]
              exact .heard r i accepted chosen regular
            · push Not at regular
              obtain ⟨port, same⟩ := receive_stray cfg table r accepted i chosen regular.1 regular.2
              rw [same]
              exact .stray r i port accepted chosen regular.1 regular.2
      · rw [(receive_ignored cfg table r accepted).table]
        exact .ignored r accepted
  | input u =>
      rw [step_input]
      exact .user u (intent_meant table u)

end OsiStack
