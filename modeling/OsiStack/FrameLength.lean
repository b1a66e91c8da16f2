import OsiStack.Handshake

set_option autoImplicit false

namespace OsiStack

open Octets PeerSegment

def LengthAccepted (frame : List UInt8) : Prop := ∀ cfg, (handleFrame cfg frame.length (ofList frame)).validLength = true

def AcceptedBack (cfg : Network) (table : Table) (e : Event) : Prop := ∀ s ∈ (react cfg table e).sent, LengthAccepted s.frame

def payloadCount (m : Memory) (len : Nat) : Int := ((len : Int) - 34 - 4 * (dataOffset m).toNat).bmod 256

structure StrippedShort (cfg : Network) (table : Table) (len : Nat) (m : Memory) : Prop extends ForTcpPort cfg len m where
  slot : SlotAvailable table (sender m)
  noError : ¬ ErrorPending cfg m
  pshAck : controlBits m = 24
  counted : 0 < payloadCount m len
  short : (len : Int) - payloadCount m len < 60

inductive ShortInput (table : Table) (text : List UInt8) : Prop
  | closing (i : Fin tcpConnectionLimit) (c : UInt8) (idle : ∀ j, (table j).io = 0)
      (command : parseConnectionCommand ((stripNewline text).takeWhile fun c => c ≠ 0) = ((i.val : Int), c))
      (quit : isQuit c = true) (live : (table i).connectionStatus ≠ 0) : ShortInput table text
  | chat (i : Fin tcpConnectionLimit) (writing : (table i).io ≠ 0)
      (stays : ¬ (text.length = 1 ∧ isQuit (text.getD 0 0))) (filled : text ≠ []) (few : text.length < 6) :
      ShortInput table text

def SendsShort (cfg : Network) (table : Table) : Event → Prop
  | .frame r => StrippedShort cfg table r.len r.buffer
  | .input u => ShortInput table u.text

theorem length_accepted_iff (frame : List UInt8) : LengthAccepted frame ↔ 64 ≤ frame.length := by
  have verdict (cfg : Network) : (handleFrame cfg frame.length (ofList frame)).validLength = true ↔ 64 ≤ frame.length := by
    rw [handleFrame, decide_eq_true_iff]
    omega
  exact ⟨fun accepted => (verdict ⟨[], [], []⟩).mp (accepted _), fun long cfg => (verdict cfg).mpr long⟩

section
variable (cfg : Network) (draws : List UInt32) (len : Nat) (r : Routing) (table : Table) (i : Fin tcpConnectionLimit)
variable (heard : refusal r.frame = none) (chosen : slotFor table (hear r.frame len).peer = some i)
variable (tcp : IpHeader.protocol r.frame = 6)
include heard chosen tcp

theorem first_sent_size (currLen : Nat) (short : currLen < 65000) :
    (emit r (firstSent cfg draws len r table currLen)).frame.length = if r.error then 74 else currLen + 4 := by
  cases error : r.error with
  | true =>
      have size : (firstSent cfg draws len r table currLen).len = 74 := by rw [firstSent, error, encapsulation_error_len]
      rw [emit, sent_length _ _ _ (by omega), size]
      rfl
  | false =>
      have size := first_sent_len cfg draws len r table i heard chosen tcp error currLen
      rw [emit, sent_length _ _ _ (by omega), size]
      rfl

theorem second_sent_size (short : len < 65000) :
    (emit r (secondSent cfg draws len r table)).frame.length = if r.error then 74 else len + 4 := by
  cases error : r.error with
  | true =>
      have size : (secondSent cfg draws len r table).len = 74 := by simp only [secondSent, error, encapsulation_error_len]
      rw [emit, sent_length _ _ _ (by omega), size]
      rfl
  | false =>
      have size := second_sent_len cfg draws len r table i heard chosen tcp error
      rw [emit, sent_length _ _ _ (by omega), size]
      rfl

end

-- The count is positive only where handle_packet takes it off the frame.
theorem removed_count (m : Memory) (len : Nat) (removed : 0 < (hear m len).removed) :
    controlBits m = 24 ∧ payloadCount m len = (hear m len).removed := by
  have count : payloadCount m len = (hear m len).octets.toInt := (octets_toInt m len).symm
  unfold Heard.removed at removed ⊢
  by_cases psh : (hear m len).kind = .pshAck
  · rw [if_pos psh] at removed ⊢
    exact ⟨(kind_of_psh_ack _).mp psh, by omega⟩
  · rw [if_neg psh] at removed
    exact absurd removed (by decide)

theorem segment_sent_size (cfg : Network) (draws : List UInt32) (len : Nat) (r : Routing) (table : Table)
    (tcp : IpHeader.protocol r.frame = 6) (long : 64 ≤ len) (short : len < 65000) (s : Sent)
    (member : s ∈ (handleTcpPacket cfg draws len r table).sent) :
    64 ≤ s.frame.length ∨ refusal r.frame = none ∧ SlotAvailable table (sender r.frame) ∧ r.error = false ∧
      controlBits r.frame = 24 ∧ 0 < payloadCount r.frame len ∧ (len : Int) - payloadCount r.frame len < 60 := by
  obtain ⟨heard, i, chosen⟩ := segment_sent_heard cfg draws len r table (List.ne_nil_of_mem member)
  have status := handle_tcp_first_status draws len r.frame table i heard chosen
  have first := first_sent_size cfg draws len r table i heard chosen tcp
  have second := second_sent_size cfg draws len r table i heard chosen tcp short
  have room := removed_le r.frame len (by omega)
  rw [removed_status _ (table i)] at room
  by_cases error : r.error = true
  · simp only [if_pos error] at first second
    left
    rcases segment_sent_cases cfg draws len r table _ status s member with rfl | rfl
    · rw [first _ (by omega)]
      decide
    · rw [second]
      decide
  · simp only [if_neg error] at first second
    rcases segment_sent_cases cfg draws len r table _ status s member with rfl | rfl
    · rw [first _ (by omega), ← removed_status]
      by_cases whole : 60 ≤ len - (hear r.frame len).removed
      · left
        omega
      · right
        obtain ⟨psh, count⟩ := removed_count r.frame len (by omega)
        have slot := sender_slot_available table (sender r.frame) i chosen
        exact ⟨heard, slot, by simpa using error, psh, by omega, by omega⟩
    · left
      rw [second]
      omega

theorem stripped_sent_size (cfg : Network) (draws : List UInt32) (len : Nat) (r : Routing) (table : Table)
    (i : Fin tcpConnectionLimit) (heard : refusal r.frame = none) (chosen : slotFor table (hear r.frame len).peer = some i)
    (tcp : IpHeader.protocol r.frame = 6) (long : 64 ≤ len) (limit : len < 65000) (noError : r.error = false)
    (psh : controlBits r.frame = 24) (counted : 0 < payloadCount r.frame len)
    (short : (len : Int) - payloadCount r.frame len < 60) :
    ∃ s ∈ (handleTcpPacket cfg draws len r table).sent, s.frame.length < 64 := by
  have kind : (hear r.frame len).kind = .pshAck := (kind_of_psh_ack _).mpr psh
  have count : payloadCount r.frame len = (hear r.frame len).octets.toInt := (octets_toInt r.frame len).symm
  have code : (hear r.frame len).status (table i) = (hear r.frame len).octets.toInt := by rw [Heard.status, kind]
  have status := (handle_tcp_first_status draws len r.frame table i heard chosen).trans code
  have room := removed_le r.frame len (by omega)
  rw [removed_status _ (table i), code] at room
  have size := first_sent_size cfg draws len r table i heard chosen tcp (len - (hear r.frame len).octets.toInt.toNat)
    (by omega)
  rw [handle_tcp_packet_sent cfg draws len r table _ status, if_pos (Or.inl (by omega))]
  refine ⟨_, List.mem_singleton.mpr rfl, ?_⟩
  rw [size, noError]
  simp only [Bool.false_eq_true, if_false]
  omega

theorem packet_routing_segment (cfg : Network) (m : Memory) (icmp : Icmp) (receiver len : Nat) :
    IpHeader.protocol (packetRouting cfg m icmp receiver).frame = IpHeader.protocol m ∧
      sender (packetRouting cfg m icmp receiver).frame = sender m ∧
      controlBits (packetRouting cfg m icmp receiver).frame = controlBits m ∧
      payloadCount (packetRouting cfg m icmp receiver).frame len = payloadCount m len := by
  have header := packet_routing_header cfg m icmp receiver
  have offset : dataOffset (packetRouting cfg m icmp receiver).frame = dataOffset m := congrArg Header.offset header
  refine ⟨packet_routing_octet cfg m icmp receiver 23 (by omega), ?_, congrArg Header.bits header, ?_⟩
  · exact congrArg (fun h : Header => (h.srcAddr, h.srcPort)) header
  · rw [payloadCount, payloadCount, offset]

theorem local_mac_alive (cfg : Network) (len : Nat) (m : Memory) (here : ForLocalMac cfg len m) : IpHeader.ttl m ≠ 0 := by
  intro zero
  have alive := here.alive
  rw [zero] at alive
  exact absurd alive (by decide)

theorem port_handled (cfg : Network) (len : Nat) (m : Memory) (icmpCode : Nat) (draws : List UInt32) (table : Table)
    (port : ForTcpPort cfg len m) : ∃ receiver, ethCmp cfg m = some receiver ∧
      interfaceReceiver cfg len m icmpCode draws table =
      handleTcpPacket cfg draws len (packetRouting cfg m ⟨1, icmpCode⟩ receiver) table := by
  obtain ⟨receiver, found⟩ := eth_cmp_some cfg m port.mine
  refine ⟨receiver, found, ?_⟩
  rw [interface_receiver_packet cfg len m icmpCode draws table receiver port.long port.unicast found port.ipv4]
  exact handle_packet_segment cfg draws len m ⟨1, icmpCode⟩ receiver table port.filled
    (local_mac_alive cfg len m port.toForLocalMac) port.tcp

theorem stripped_sends_short (cfg : Network) (table : Table) (r : Reception)
    (stripped : StrippedShort cfg table r.len r.buffer) :
    ∃ s ∈ (receive cfg table r).sent, s.frame.length < 64 := by
  have limit := r.lenHigh
  obtain ⟨receiver, -, handled⟩ := port_handled cfg r.len r.buffer r.icmpCode r.draws table stripped.toForTcpPort
  have refused := packet_routing_refusal cfg r.buffer ⟨1, r.icmpCode⟩ receiver
  rw [(refusal_none r.buffer).mpr ⟨stripped.destAddr, stripped.destPort⟩] at refused
  obtain ⟨protocol, peer, bits, count⟩ := packet_routing_segment cfg r.buffer ⟨1, r.icmpCode⟩ receiver r.len
  obtain ⟨i, chosen⟩ := slot_available table (sender r.buffer) stripped.slot
  rw [← peer] at chosen
  have alive := local_mac_alive cfg r.len r.buffer stripped.toForLocalMac
  have noError := packet_routing_no_error cfg r.buffer ⟨1, r.icmpCode⟩ receiver alive stripped.noError
  rw [receive, handled]
  exact stripped_sent_size cfg r.draws r.len _ table i refused chosen (protocol.trans stripped.tcp) stripped.long (by omega)
    noError (bits.trans stripped.pshAck) (by rw [count]; exact stripped.counted) (by rw [count]; exact stripped.short)

theorem packet_sent_size (cfg : Network) (draws : List UInt32) (len : Nat) (m : Memory) (icmp : Icmp) (receiver : Nat)
    (table : Table) (long : 64 ≤ len) (limit : len < 65000) (unicast : FrameFields.destAddr m ≠ broadcastAddr)
    (mine : ethCmp cfg m = some receiver) (ipv4 : ntohs (FrameFields.type m) = 2048) (s : Sent)
    (member : s ∈ (handlePacket cfg draws len m icmp receiver table).sent) :
    64 ≤ s.frame.length ∨ StrippedShort cfg table len m := by
  have fate := handle_packet_fate cfg draws len m icmp receiver table
  generalize handlePacket cfg draws len m icmp receiver table = e at fate member
  cases fate with
  | dropped => simp [noEffect] at member
  | routed filled alive other =>
      left
      rw [List.mem_singleton] at member
      have protocol := packet_routing_octet cfg m icmp receiver 23 (by omega)
      rw [member, transitSent]
      cases error : (packetRouting cfg m icmp receiver).error with
      | true => rw [sent_length _ _ _ (by rw [encapsulation_error_len]; omega), encapsulation_error_len]; decide
      | false =>
          have size := encapsulation_len cfg (packetRouting cfg m icmp receiver).frame len
            (packetRouting cfg m icmp receiver).finalDestAddr (packetRouting cfg m icmp receiver).icmp
            (packetRouting cfg m icmp receiver).transmitter false
          rw [if_neg (by rw [IpHeader.protocol, protocol]; exact fun tcp => other tcp.1)] at size
          rw [sent_length _ _ _ (by omega), size]
          exact long
  | segment filled alive tcp =>
      obtain ⟨protocol, peer, bits, count⟩ := packet_routing_segment cfg m icmp receiver len
      refine (segment_sent_size cfg draws len _ table (protocol.trans tcp) long limit s member).imp id ?_
      rintro ⟨heard, slot, noError, psh, counted, short⟩
      have here : ForLocalMac cfg len m := ⟨long, unicast, eth_cmp_mine cfg m receiver mine, ipv4, filled,
        octet_one_le _ alive⟩
      refine ⟨for_tcp_port cfg len m icmp receiver here tcp heard, ?_, ?_, bits.symm.trans psh, by rw [← count]; exact counted,
        by rw [← count]; exact short⟩
      · rw [← peer]
        exact slot
      · intro pending
        rw [(packet_routing_error cfg m icmp receiver pending).1] at noError
        cases noError

theorem frame_accepted_back (cfg : Network) (table : Table) (r : Reception) :
    AcceptedBack cfg table (.frame r) ↔ ¬ StrippedShort cfg table r.len r.buffer := by
  have limit := r.lenHigh
  constructor
  · intro accepted stripped
    obtain ⟨s, member, short⟩ := stripped_sends_short cfg table r stripped
    have long := (length_accepted_iff s.frame).mp (accepted s member)
    omega
  · intro regular s member
    rw [length_accepted_iff]
    change s ∈ (receive cfg table r).sent at member
    have fate := interface_receiver_fate cfg r.len r.buffer r.icmpCode r.draws table
    rw [receive] at member
    generalize interfaceReceiver cfg r.len r.buffer r.icmpCode r.draws table = e at fate member
    cases fate with
    | ignored => simp [noEffect] at member
    | arp long _ _ =>
        obtain ⟨-, idx, reply, -, -, sent⟩ := handle_arp_member cfg r.buffer r.len s member
        rw [sent, sent_length _ _ _ (by omega)]
        exact long
    | packet receiver long unicast mine ipv4 =>
        exact (packet_sent_size cfg r.draws r.len r.buffer _ receiver table long
          (by omega) unicast mine ipv4 s member).resolve_right regular

theorem intent_quit_iff (table : Table) (u : UserRead) (i : Fin tcpConnectionLimit) : intent table u = .quit i ↔
    (∀ j, (table j).io = 0) ∧ (∃ c, parseConnectionCommand ((stripNewline u.text).takeWhile fun c => c ≠ 0) =
      ((i.val : Int), c) ∧ isQuit c = true) ∧ (table i).connectionStatus ≠ 0 := by
  unfold intent
  constructor
  · intro asked
    cases writing : promise table with
    | some j =>
        rw [writing] at asked
        simp only [chatIntent] at asked
        split at asked
        · cases asked
        · split at asked <;> cases asked
    | none =>
        rw [writing] at asked
        simp only [commandIntent] at asked
        generalize parseConnectionCommand _ = parsed at asked ⊢
        obtain ⟨id, command⟩ := parsed
        split at asked
        · cases asked
        · cases found : verifyUserIdInput id table with
          | none => simp [found] at asked
          | some j =>
              simp only [found] at asked
              split at asked
              · rename_i quit
                cases asked
                obtain ⟨place, live⟩ := verify_user_id_some id table i found
                exact ⟨promise_none table writing, ⟨command, by rw [place], quit⟩, live⟩
              · cases asked
  · rintro ⟨idle, ⟨c, command, quit⟩, live⟩
    have known : ((i.val : Int)) ≠ -1 := by omega
    cases writing : promise table with
    | some j => exact absurd (idle j) (promise_some table j writing)
    | none => simp only [commandIntent, command, if_neg known, verify_user_id_live table i live, if_pos quit]

theorem intent_text_iff (table : Table) (u : UserRead) : (∃ i, intent table u = .text i) ↔
    (∃ i, (table i).io ≠ 0) ∧ ¬ (u.text.length = 1 ∧ isQuit (u.text.getD 0 0)) ∧ u.text ≠ [] := by
  unfold intent
  constructor
  · rintro ⟨i, asked⟩
    cases writing : promise table with
    | some j =>
        simp only [writing, chatIntent] at asked
        split at asked
        · cases asked
        · rename_i stays
          split at asked
          · cases asked
          · rename_i filled
            exact ⟨⟨j, promise_some table j writing⟩, stays, fun empty => filled (by rw [empty]; rfl)⟩
    | none =>
        simp only [writing, commandIntent] at asked
        generalize parseConnectionCommand _ = parsed at asked
        obtain ⟨id, command⟩ := parsed
        split at asked
        · cases asked
        · generalize verifyUserIdInput id table = found at asked
          cases found with
          | none => cases asked
          | some j =>
              simp only at asked
              split at asked <;> cases asked
  · rintro ⟨⟨i, writes⟩, stays, filled⟩
    cases writing : promise table with
    | some j =>
        have nonempty : u.text.length ≠ 0 := fun zero => filled (List.length_eq_zero_iff.mp zero)
        exact ⟨j, by simp only [chatIntent, if_neg stays, if_neg nonempty]⟩
    | none => exact absurd (promise_none table writing i) writes

theorem send_segment_size (buffer : List UInt8) (table : Table) (i : Fin tcpConnectionLimit) (finFlag : Bool)
    (interface : Nat) (fits : buffer.length ≤ 1023) :
    (sendSegment interface (createTcpSegment buffer table tcpMac tcpIp i finFlag)).frame.length =
      58 + if finFlag then 0 else buffer.length := by
  have size : (createTcpSegment buffer table tcpMac tcpIp i finFlag).frameSize = _ :=
    create_tcp_segment_size buffer table i finFlag
  rw [sendSegment, sent_length _ _ _ (by rw [size]; split <;> omega), size]

theorem input_accepted_back (cfg : Network) (table : Table) (u : UserRead) :
    AcceptedBack cfg table (.input u) ↔ ¬ ShortInput table u.text := by
  have sent : (react cfg table (.input u)).sent = (intent table u).sent table u := by
    rw [react, interact_intent]
  have quit (i : Fin tcpConnectionLimit) := intent_quit_iff table u i
  have text := intent_text_iff table u
  have fits := u.fits
  rw [AcceptedBack, sent]
  constructor
  · intro accepted short
    cases short with
    | closing i c idle command quits live =>
        have asked := (quit i).mpr ⟨idle, ⟨c, command, quits⟩, live⟩
        rw [asked] at accepted
        have long := (length_accepted_iff _).mp (accepted _ (List.mem_singleton.mpr rfl))
        rw [send_segment_size [] _ i true 0 (by simp)] at long
        simp at long
    | chat i writing stays filled few =>
        obtain ⟨j, asked⟩ := text.mpr ⟨⟨i, writing⟩, stays, filled⟩
        rw [asked] at accepted
        have long := (length_accepted_iff _).mp (accepted _ (List.mem_singleton.mpr rfl))
        rw [send_segment_size u.text _ j false 0 fits] at long
        simp only [Bool.false_eq_true, if_false] at long
        omega
  · intro long s member
    rw [length_accepted_iff]
    generalize request : intent table u = asked at member
    cases asked with
    | nothing => simp [Intent.sent] at member
    | select i => simp [Intent.sent] at member
    | leave i => simp [Intent.sent] at member
    | quit i =>
        obtain ⟨idle, ⟨c, command, quits⟩, live⟩ := (quit i).mp request
        exact absurd (.closing i c idle command quits live) long
    | text i =>
        obtain ⟨⟨j, writing⟩, stays, filled⟩ := text.mp ⟨i, request⟩
        have enough : ¬ u.text.length < 6 := fun few => long (.chat j writing stays filled few)
        simp only [Intent.sent, List.mem_singleton] at member
        rw [member, send_segment_size u.text table i false 0 fits]
        simp only [Bool.false_eq_true, if_false]
        omega

theorem accepted_back_iff (cfg : Network) (table : Table) (e : Event) :
    AcceptedBack cfg table e ↔ ¬ SendsShort cfg table e := by
  cases e with
  | frame r => exact frame_accepted_back cfg table r
  | input u => exact input_accepted_back cfg table u

theorem accepts_what_it_sends (cfg : Network) (events : List Event) :
    Runs.Always (step cfg) (AcceptedBack cfg) zeroTable events ↔
      Runs.Always (step cfg) (fun table e => ¬ SendsShort cfg table e) zeroTable events :=
  Runs.always_congr (step cfg) (AcceptedBack cfg) _ (accepted_back_iff cfg) zeroTable events

def quitsFirst : UserRead := ⟨[48, 113, 10], by decide⟩

theorem short_frames_sent : Reachable soloConfig visited ∧
    ((react soloConfig visited (.input quitsFirst)).sent.map fun s => s.frame.length) = [58] ∧
    ((react soloConfig visited (.frame (visitorText 24))).sent.map fun s => s.frame.length) = [58] ∧
    ¬ AcceptedBack soloConfig visited (.input quitsFirst) ∧
    ¬ AcceptedBack soloConfig visited (.frame (visitorText 24)) := by
  have refused (e : Event) (size : ((react soloConfig visited e).sent.map fun s => s.frame.length) = [58]) :
      ¬ AcceptedBack soloConfig visited e := by
    intro accepted
    have listed : 58 ∈ (react soloConfig visited e).sent.map fun s => s.frame.length := by
      rw [size]
      exact List.mem_singleton.mpr rfl
    obtain ⟨s, member, short⟩ := List.mem_map.mp listed
    have long := (length_accepted_iff s.frame).mp (accepted s member)
    omega
  have closing : ((react soloConfig visited (.input quitsFirst)).sent.map fun s => s.frame.length) = [58] := by decide +kernel
  have answer : ((react soloConfig visited (.frame (visitorText 24))).sent.map fun s => s.frame.length) = [58] := by
    decide +kernel
  exact ⟨visited_reachable, closing, answer, refused _ closing, refused _ answer⟩

end OsiStack
