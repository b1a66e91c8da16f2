import OsiStack.Closing
import OsiStack.Stream
import OsiStack.UserSegment

set_option autoImplicit false

namespace OsiStack

open Octets PeerSegment

def payload (r : Reception) : List UInt8 :=
  fetch r.buffer (34 + 4 * (dataOffset r.buffer).toNat) (payloadLen r.buffer)

structure Feed where
  table : Table
  heard : List (Stream.Piece UInt8)
  output : List UInt8
  acks : List UInt32

def feedStep (cfg : Config) (peer : Peer) (i : Fin tcpConnectionLimit) (s : Feed) : Event → Feed
  | .frame r =>
      let e := receive cfg s.table r
      if Accepted cfg r ∧ r.heard.peer = peer then
        ⟨e.table, s.heard ++ [(r.heard.seq, payload r)], s.output ++ e.console,
          s.acks ++ (tcpReplies e).map fun reply => reply.2.1⟩
      else { s with table := e.table }
  | .input u =>
      { s with
        table := (interact s.table u).table
        acks := s.acks ++ if intent s.table u = .text i then
            (interact s.table u).sent.map fun segment => (readHeader (ofList segment.frame)).ack
          else [] }

theorem feed_step_table (cfg : Config) (peer : Peer) (i : Fin tcpConnectionLimit) (s : Feed) (e : Event) :
    (feedStep cfg peer i s e).table = step cfg s.table e := by
  cases e with
  | frame r =>
      unfold feedStep
      dsimp only
      split <;> rfl
  | input u => rfl

theorem feed_run_table (cfg : Config) (peer : Peer) (i : Fin tcpConnectionLimit) (s : Feed) (events : List Event) :
    (Runs.run (feedStep cfg peer i) s events).table = Runs.run (step cfg) s.table events :=
  Runs.run_project (feedStep cfg peer i) (step cfg) Feed.table (feed_step_table cfg peer i) s events

structure DataSegment (table : Table) (i : Fin tcpConnectionLimit) (r : Reception) : Prop where
  unpadded : Unpadded r.buffer r.len
  small : payloadLen r.buffer ≤ 100
  bits : controlBits r.buffer = 16 ∨ controlBits r.buffer = 24
  handshake : controlBits r.buffer = 16 → (table i).connectionStatus = 2 → payloadLen r.buffer = 0

-- The peer sends data and nothing else; the user does not quit; and no expired
-- closing segment sends the second pass to a peer with the stack's own address.
def OnlyData (cfg : Config) (peer : Peer) (i : Fin tcpConnectionLimit) (s : Feed) : Event → Prop
  | .input u => intent s.table u ≠ .quit i
  | .frame r => Accepted cfg r →
      if r.heard.peer = peer then DataSegment s.table i r
      else ∀ j, slotFor s.table r.heard.peer = some j → ReadsAsFin s.table r j → IpHeader.ttl r.buffer = 1 → peer.1 ≠ tcpIp

section
variable (cfg : Config) (table : Table) (inv : TableInv table) (r : Reception) (accepted : Accepted cfg r)
variable (i : Fin tcpConnectionLimit) (live : (table i).connectionStatus ≠ 0) (key : peerOf (table i) = r.heard.peer)
variable (data : DataSegment table i r)

include inv live key in
theorem data_chosen : slotFor table r.heard.peer = some i := by
  rw [← key]
  exact SlotTable.canonical_choose peerOf isLive table inv.canonical i ((is_live_iff _).mpr live)

include data in
theorem data_octets : r.heard.octets.toInt = payloadLen r.buffer :=
  data.unpadded.octets_small (Nat.le_trans data.small (by omega))

include data in
theorem data_kind : r.heard.kind = .ack ∨ r.heard.kind = .pshAck :=
  data.bits.imp (kind_of_ack _).mpr (kind_of_psh_ack _).mpr

include data in
theorem data_open : r.heard.status (table i) ≠ tcpFinAck := by
  have count := data_octets table r i data
  intro closing
  rcases (Heard.closing_iff _ _).mp closing with ⟨fin, -⟩ | ⟨-, code⟩
  · rcases data_kind table r i data with ack | psh
    · rw [ack] at fin
      cases fin
    · rw [psh] at fin
      cases fin
  · rw [code] at count
    exact absurd count (by simp)

include inv accepted live key data in
theorem data_slot : (receive cfg table r).table i = r.heard.apply (table i) := by
  have opens := data_open table r i data
  rw [receive_heard cfg table r accepted i (data_chosen table inv r i live key) (Or.inr opens), Function.update_self,
    Heard.outcome, if_neg opens]

include live data in
theorem data_next : (r.heard.apply (table i)).nextSeq = r.heard.seq + UInt32.ofNat (payload r).length := by
  have takes : r.heard.kind = .ack ∧ (table i).connectionStatus ≠ 0 ∨ r.heard.kind = .pshAck :=
    (data_kind table r i data).imp_left fun ack => ⟨ack, live⟩
  rw [(apply_numbers _ _ takes).1, data_octets table r i data, of_int32_natCast, payload, fetch_length]

include inv live data in
theorem data_printed : r.heard.printed (table i) = payloadLen r.buffer := by
  have count := data_octets table r i data
  rcases data_kind table r i data with ack | psh
  · simp only [Heard.printed, ack, count, Int.toNat_natCast]
    rcases inv.status i with dead | up | half
    · exact absurd dead live
    · rw [if_pos up]
    · rw [if_neg (by rw [half]; decide), data.handshake ((kind_of_ack _).mp ack) half]
  · simp only [Heard.printed, psh, count, Int.toNat_natCast]

include inv accepted live key data in
theorem data_console : (receive cfg table r).console = payload r := by
  have offset : 5 ≤ r.heard.offset.toNat := data.unpadded.offset
  rw [receive_console cfg table r accepted i (data_chosen table inv r i live key) (by omega),
    data_printed table inv r i live data]
  rfl

include inv accepted live key data in
theorem data_acks (reply : UInt16 × UInt32 × UInt32) (member : reply ∈ tcpReplies (receive cfg table r)) :
    reply.2.1 = r.heard.seq + UInt32.ofNat (payload r).length := by
  have count := data_octets table r i data
  have lenEq := data.unpadded.len_eq
  have offset := data.unpadded.offset
  have few : r.heard.removed ≤ payloadLen r.buffer := by
    unfold Heard.removed
    split <;> omega
  by_cases expired : IpHeader.ttl r.buffer = 1
  · rw [receive_expired_replies cfg table r accepted expired] at member
    cases member
  · obtain ⟨receiver, -, answers⟩ := receive_answers cfg table r accepted i (data_chosen table inv r i live key) expired
    rw [tcp_replies_answers _ _ _ _ _ _ answers (by omega) accepted.ipv4 accepted.tcp, List.mem_map] at member
    obtain ⟨bits, -, rfl⟩ := member
    rw [payload, fetch_length, ← of_int32_natCast, ← count]
    rcases data_kind table r i data with ack | psh
    · simp only [Heard.reply, Heard.nextSeq, ack]
    · simp only [Heard.reply, Heard.nextSeq, psh]

end

theorem other_slot (cfg : Config) (table : Table) (r : Reception) (i : Fin tcpConnectionLimit)
    (live : (table i).connectionStatus ≠ 0) (other : r.heard.peer ≠ peerOf (table i))
    (unexpired : ∀ j, slotFor table r.heard.peer = some j → ReadsAsFin table r j → IpHeader.ttl r.buffer = 1 →
      (table i).hostIpAddr ≠ tcpIp) (accepted : Accepted cfg r) : (receive cfg table r).table i = table i := by
  have alive := (is_live_iff (table i)).mpr live
  cases chosen : slotFor table r.heard.peer with
  | none => rw [receive_full cfg table r accepted chosen]
  | some j =>
      have apart : i ≠ j := Ne.symm (SlotTable.canonical_choose_other peerOf isLive table _ j i chosen alive (Ne.symm other))
      by_cases regular : IpHeader.ttl r.buffer ≠ 1 ∨ r.heard.status (table j) ≠ tcpFinAck
      · rw [receive_heard cfg table r accepted j chosen regular, Function.update_of_ne apart]
      · push Not at regular
        obtain ⟨port, same⟩ := receive_stray cfg table r accepted j chosen regular.1 regular.2
        have foreign := unexpired j chosen ((closing_bits table r j).mp regular.2) regular.1
        rw [same, close_at_other _ (tcpIp, port) i, Function.update_of_ne apart]
        · rw [Function.update_of_ne apart]
          exact alive
        · rw [Function.update_of_ne apart]
          exact fun key => foreign (congrArg Prod.fst key)

structure Delivered (first : UInt32) (i : Fin tcpConnectionLimit) (s : Feed) : Prop where
  output : s.output = Stream.content s.heard
  nextSeq : (s.table i).nextSeq = Stream.lastEnd first s.heard
  acks : ∀ ack ∈ s.acks, ack = first ∨ ∃ piece ∈ s.heard, ack = piece.1 + UInt32.ofNat piece.2.length

structure FeedInv (first : UInt32) (peer : Peer) (i : Fin tcpConnectionLimit) (s : Feed) : Prop where
  table : TableInv s.table
  peer : peerOf (s.table i) = peer
  live : (s.table i).connectionStatus ≠ 0
  delivered : Delivered first i s

section
variable (cfg : Config) (first : UInt32) (peer : Peer) (i : Fin tcpConnectionLimit) (s : Feed)
variable (inv : FeedInv first peer i s)
include inv

theorem feed_inv_data (r : Reception) (accepted : Accepted cfg r) (own : r.heard.peer = peer)
    (data : DataSegment s.table i r) : FeedInv first peer i (feedStep cfg peer i s (.frame r)) := by
  have key : peerOf (s.table i) = r.heard.peer := inv.peer.trans own.symm
  have slot := data_slot cfg s.table inv.table r accepted i inv.live key data
  have later : r.heard.kind ≠ .syn := by
    rcases data_kind s.table r i data with ack | psh
    · rw [ack]; decide
    · rw [psh]; decide
  simp only [feedStep, if_pos (And.intro accepted own)]
  refine ⟨table_inv_step cfg s.table (.frame r) inv.table, ?_, ?_, ?_, ?_, ?_⟩
  · simp only [slot, apply_key _ _ later, inv.peer]
  · simp only [slot]
    rw [← is_live_iff, apply_live _ _ later, is_live_iff]
    exact inv.live
  · rw [Stream.content_append, inv.delivered.output, data_console cfg s.table inv.table r accepted i inv.live key data]
    simp [Stream.content]
  · dsimp only
    rw [slot, data_next s.table r i inv.live data, Stream.last_end_append]
  · intro ack member
    rcases List.mem_append.mp member with before | now
    · rcases inv.delivered.acks ack before with start | ⟨piece, listed, number⟩
      · exact Or.inl start
      · exact Or.inr ⟨piece, List.mem_append_left _ listed, number⟩
    · obtain ⟨reply, replied, rfl⟩ := List.mem_map.mp now
      exact Or.inr ⟨_, List.mem_append_right _ (List.mem_singleton.mpr rfl),
        data_acks cfg s.table inv.table r accepted i inv.live key data reply replied⟩

theorem feed_inv_kept (next : Table) (table : TableInv next) (key : peerOf (next i) = peerOf (s.table i))
    (status : (next i).connectionStatus = (s.table i).connectionStatus) (number : (next i).nextSeq = (s.table i).nextSeq)
    (more : List UInt32) (new : ∀ ack ∈ more, ack = (s.table i).nextSeq) :
    FeedInv first peer i { s with table := next, acks := s.acks ++ more } := by
  refine ⟨table, key.trans inv.peer, by simpa only [status] using inv.live, inv.delivered.output,
    number.trans inv.delivered.nextSeq, ?_⟩
  intro ack member
  rcases List.mem_append.mp member with before | now
  · exact inv.delivered.acks ack before
  · rw [new ack now, inv.delivered.nextSeq]
    exact Stream.last_end_mem first s.heard

theorem feed_inv_frame (r : Reception) (guarded : OnlyData cfg peer i s (.frame r)) :
    FeedInv first peer i (feedStep cfg peer i s (.frame r)) := by
  by_cases accepted : Accepted cfg r
  · have rule := guarded accepted
    by_cases own : r.heard.peer = peer
    · rw [if_pos own] at rule
      exact feed_inv_data cfg first peer i s inv r accepted own rule
    · rw [if_neg own] at rule
      have same := other_slot cfg s.table r i inv.live (by rw [inv.peer]; exact own)
        (by rw [← inv.peer] at rule; exact rule) accepted
      have kept := feed_inv_kept first peer i s inv (receive cfg s.table r).table
        (table_inv_step cfg s.table (.frame r) inv.table) (by rw [same]) (by rw [same]) (by rw [same]) [] (by simp)
      simp only [feedStep, if_neg (fun both : Accepted cfg r ∧ r.heard.peer = peer => own both.2)]
      simpa only [List.append_nil] using kept
  · have same := (receive_ignored cfg s.table r accepted).table
    simp only [feedStep, if_neg (fun both : Accepted cfg r ∧ r.heard.peer = peer => accepted both.1), same]
    exact inv

theorem feed_inv_input (u : UserRead) (guarded : OnlyData cfg peer i s (.input u)) :
    FeedInv first peer i (feedStep cfg peer i s (.input u)) := by
  have next : (interact s.table u).table = (intent s.table u).effect s.table u := step_input cfg s.table u
  have kept := effect_kept s.table u (intent s.table u) i
  have status := effect_status s.table u (intent s.table u) i guarded
  rw [← next] at kept status
  refine feed_inv_kept first peer i s inv (interact s.table u).table (table_inv_step cfg s.table (.input u) inv.table)
    kept.1 status kept.2 _ ?_
  intro ack member
  split at member
  · rename_i text
    rw [interact_intent, text] at member
    simp only [Intent.sent, List.map_cons, List.map_nil, List.mem_singleton] at member
    rw [member]
    exact congrArg Header.ack (send_segment_header u.text s.table i false u.fits)
  · cases member

end

theorem feed_inv_step (cfg : Config) (first : UInt32) (peer : Peer) (i : Fin tcpConnectionLimit) (s : Feed) (e : Event)
    (inv : FeedInv first peer i s) (guarded : OnlyData cfg peer i s e) : FeedInv first peer i (feedStep cfg peer i s e) := by
  cases e with
  | frame r => exact feed_inv_frame cfg first peer i s inv r guarded
  | input u => exact feed_inv_input cfg first peer i s inv u guarded

structure Opens (cfg : Config) (table : Table) (r : Reception) (i : Fin tcpConnectionLimit) : Prop where
  reached : Reachable cfg table
  accepted : Accepted cfg r
  syn : controlBits r.buffer = 2
  chosen : slotFor table r.heard.peer = some i

def opened (cfg : Config) (table : Table) (r : Reception) : Feed := ⟨(receive cfg table r).table, [], [], []⟩

theorem feed_inv_opened (cfg : Config) (table : Table) (r : Reception) (i : Fin tcpConnectionLimit)
    (opens : Opens cfg table r i) : FeedInv (r.heard.seq + 1) r.heard.peer i (opened cfg table r) := by
  have kind : r.heard.kind = .syn := (kind_of_syn _).mpr opens.syn
  have answered : r.heard.status (table i) ≠ tcpFinAck := by simp [Heard.status, kind, tcpReg, tcpFinAck]
  have slot : (receive cfg table r).table i = r.heard.apply (table i) := by
    rw [receive_heard cfg table r opens.accepted i opens.chosen (Or.inr answered), Function.update_self, Heard.outcome,
      if_neg answered]
  refine ⟨table_inv_step cfg table (.frame r) (table_inv_reachable cfg table opens.reached), ?_, ?_, rfl, ?_, ?_⟩
  · simp only [opened, slot, apply_syn_key _ _ kind]
  · simp [opened, slot, Heard.apply, kind]
  · simp [opened, slot, Heard.apply, Heard.nextSeq, kind, Stream.lastEnd]
  · intro ack member
    cases member

structure InStream (first : UInt32) (stream : List UInt8) (i : Fin tcpConnectionLimit) (s : Feed) : Prop where
  output : s.output <+: stream
  nextSeq : (s.table i).nextSeq = first + UInt32.ofNat s.output.length
  acks : ∀ ack ∈ s.acks, ∃ k, k ≤ s.output.length ∧ ack = first + UInt32.ofNat k

theorem in_stream_of_order (first : UInt32) (stream : List UInt8) (i : Fin tcpConnectionLimit) (s : Feed)
    (delivered : Delivered first i s) (ordered : Stream.InOrder first stream 0 s.heard) : InStream first stream i s := by
  have zero : first + UInt32.ofNat 0 = first := UInt32.add_zero first
  refine ⟨?_, ?_, ?_⟩
  · rw [delivered.output]
    exact Stream.in_order_prefix first stream 0 s.heard ordered
  · have numbered := Stream.in_order_end first stream 0 s.heard ordered
    rw [zero, Nat.zero_add] at numbered
    rw [delivered.nextSeq, delivered.output, numbered]
  · intro ack member
    rw [delivered.output]
    rcases delivered.acks ack member with start | ⟨piece, listed, number⟩
    · exact ⟨0, Nat.zero_le _, by rw [start, zero]⟩
    · obtain ⟨k, inside, place⟩ := Stream.in_order_mem first stream 0 s.heard ordered piece listed
      rw [Nat.zero_add] at place
      exact ⟨k, inside, number.trans place⟩

theorem feed_step_heard (cfg : Config) (peer : Peer) (i : Fin tcpConnectionLimit) (s : Feed) (e : Event) :
    s.heard <+: (feedStep cfg peer i s e).heard := by
  cases e with
  | frame r =>
      unfold feedStep
      dsimp only
      split
      · exact List.prefix_append _ _
      · exact List.prefix_refl _
  | input u => exact List.prefix_refl _

theorem feed_run_heard (cfg : Config) (peer : Peer) (i : Fin tcpConnectionLimit) (s : Feed) (events : List Event) :
    s.heard <+: (Runs.run (feedStep cfg peer i) s events).heard := by
  induction events generalizing s with
  | nil => exact List.prefix_refl _
  | cons e rest ih => exact (feed_step_heard cfg peer i s e).trans (ih (feedStep cfg peer i s e))

theorem in_stream_forward (first : UInt32) (stream : List UInt8) (i : Fin tcpConnectionLimit) (s s' : Feed)
    (here : InStream first stream i s) (later : InStream first stream i s') (delivered : Delivered first i s)
    (delivered' : Delivered first i s') (more : s.heard <+: s'.heard) :
    ∃ printed, s'.output = s.output ++ printed ∧
      (s'.table i).nextSeq = (s.table i).nextSeq + UInt32.ofNat printed.length := by
  obtain ⟨rest, same⟩ := more
  have output : s'.output = s.output ++ Stream.content rest := by
    rw [delivered'.output, delivered.output, ← same, Stream.content_append]
  refine ⟨Stream.content rest, output, ?_⟩
  rw [later.nextSeq, here.nextSeq, output, List.length_append, UInt32.ofNat_add, UInt32.add_assoc]

theorem data_delivered_in_order (cfg : Config) (table : Table) (r : Reception) (i : Fin tcpConnectionLimit)
    (opens : Opens cfg table r i) (before after : List Event)
    (guarded : Runs.Always (feedStep cfg r.heard.peer i) (OnlyData cfg r.heard.peer i) (opened cfg table r)
      (before ++ after)) :
    let s := Runs.run (feedStep cfg r.heard.peer i) (opened cfg table r) before
    let s' := Runs.run (feedStep cfg r.heard.peer i) (opened cfg table r) (before ++ after)
    Delivered (r.heard.seq + 1) i s' ∧ ∀ stream, Stream.InOrder (r.heard.seq + 1) stream 0 s'.heard →
      InStream (r.heard.seq + 1) stream i s' ∧ ∃ printed, s'.output = s.output ++ printed ∧
        (s'.table i).nextSeq = (s.table i).nextSeq + UInt32.ofNat printed.length := by
  intro s s'
  have start := feed_inv_opened cfg table r i opens
  have preserved := fun s e => feed_inv_step cfg (r.heard.seq + 1) r.heard.peer i s e
  have delivered := (Runs.always_invariant _ _ _ preserved _ before start (Runs.always_before _ _ _ _ _ guarded)).delivered
  have delivered' := (Runs.always_invariant _ _ _ preserved _ (before ++ after) start guarded).delivered
  refine ⟨delivered', fun stream ordered => ?_⟩
  have more : s.heard <+: s'.heard := by
    rw [show s' = Runs.run _ s after from Runs.run_append _ _ before after]
    exact feed_run_heard cfg _ i s after
  have orderedBefore : Stream.InOrder (r.heard.seq + 1) stream 0 s.heard := by
    obtain ⟨rest, same⟩ := more
    rw [← same] at ordered
    exact Stream.in_order_append _ _ 0 s.heard rest ordered
  have here := in_stream_of_order _ stream i s delivered orderedBefore
  have later := in_stream_of_order _ stream i s' delivered' ordered
  exact ⟨later, in_stream_forward _ stream i s s' here later delivered delivered' more⟩

def visitorSyn : Reception := (visitor 100 0 2 []).arrival [htonl 777]
def firstPiece : Event := arrives 101 778 24 (List.replicate 10 65)
def secondPiece : Event := arrives 111 778 24 (List.replicate 10 66)
def visitorStream : List UInt8 := List.replicate 10 65 ++ List.replicate 10 66

theorem visitor_opens : Opens soloConfig zeroTable visitorSyn 0 where
  reached := reachable_zero soloConfig
  accepted := arrival_accepted _ _ (show (64 : UInt8) ≠ 0 by decide)
  syn := by decide +kernel
  chosen := by decide +kernel

theorem visitor_only_data (s : Feed) (seq : UInt32) (octet : UInt8) :
    OnlyData soloConfig visitorSyn.heard.peer 0 s (arrives seq 778 24 (List.replicate 10 octet)) := by
  intro _
  have low : (24 : UInt16).toNat < 64 := by decide
  have len : payloadLen ((visitor seq 778 24 (List.replicate 10 octet)).arrival [htonl 777]).buffer = 10 :=
    (arrival_payload_len _ _ low).trans (by simp [visitor])
  have own := congrArg Heard.peer
    (arrival_heard (visitor seq 778 24 (List.replicate 10 octet)) [htonl 777] low)
  have bits : controlBits ((visitor seq 778 24 (List.replicate 10 octet)).arrival [htonl 777]).buffer = 24 :=
    congrArg Header.bits (arrival_header _ _ low)
  have syn : visitorSyn.heard.peer = (ipOctets 0x0A 0x00 0x00 0x01, 5000) := by decide +kernel
  rw [if_pos (own.trans syn.symm)]
  have wf := arrival_well_formed (visitor seq 778 24 (List.replicate 10 octet)) [htonl 777] low
    (show (2 : UInt8) ≤ 64 by decide) (by simp [visitor])
  refine ⟨wf.unpadded, by omega, Or.inr bits, ?_⟩
  rw [bits]
  intro ack
  cases ack

theorem visitor_stream_delivered :
    InStream 101 visitorStream 0 (Runs.run (feedStep soloConfig visitorSyn.heard.peer 0)
      (opened soloConfig zeroTable visitorSyn) [firstPiece, secondPiece]) := by
  have delivered := data_delivered_in_order soloConfig zeroTable visitorSyn 0 visitor_opens [firstPiece] [secondPiece]
    ⟨visitor_only_data _ 101 65, visitor_only_data _ 111 66, trivial⟩
  have arrived : (Runs.run (feedStep soloConfig visitorSyn.heard.peer 0) (opened soloConfig zeroTable visitorSyn)
      [firstPiece, secondPiece]).heard = [(101, List.replicate 10 65), (111, List.replicate 10 66)] := by decide +kernel
  have ordered : Stream.InOrder 101 visitorStream 0 [(101, List.replicate 10 65), (111, List.replicate 10 66)] :=
    ⟨rfl, ⟨_, rfl⟩, rfl, ⟨_, rfl⟩, trivial⟩
  exact (delivered.2 visitorStream (by rw [← arrived] at ordered; exact ordered)).1

theorem swapped_pieces_out_of_order :
    Runs.Always (feedStep soloConfig visitorSyn.heard.peer 0) (OnlyData soloConfig visitorSyn.heard.peer 0)
      (opened soloConfig zeroTable visitorSyn) [secondPiece, firstPiece] ∧
    let s := Runs.run (feedStep soloConfig visitorSyn.heard.peer 0) (opened soloConfig zeroTable visitorSyn) [secondPiece]
    let s' := Runs.run (feedStep soloConfig visitorSyn.heard.peer 0) (opened soloConfig zeroTable visitorSyn)
      [secondPiece, firstPiece]
    s'.heard = [(111, List.replicate 10 66), (101, List.replicate 10 65)] ∧ ¬ s.output <+: visitorStream ∧
      ¬ s'.output <+: visitorStream ∧ (s.table 0).nextSeq = 121 ∧ (s'.table 0).nextSeq = 111 := by
  refine ⟨⟨visitor_only_data _ 111 66, visitor_only_data _ 101 65, trivial⟩, ?_⟩
  decide +kernel

end OsiStack
