import OsiStack.ConnectionCommand
import OsiStack.Isolation
import OsiStack.NumberText

set_option autoImplicit false

namespace OsiStack

open Octets

def inetNtop (ipAddr : IpAddr) : List UInt8 :=
  NumberText.ntop (ipAddr.val.getD 0 0) (ipAddr.val.getD 1 0) (ipAddr.val.getD 2 0) (ipAddr.val.getD 3 0)

def inetAton (text : List UInt8) (before : IpAddr) : IpAddr :=
  match NumberText.aton text with
  | some octets => if size : octets.length = 4 then ⟨octets, size⟩ else before
  | none => before

theorem inet_aton_ntop (ipAddr before : IpAddr) : inetAton (inetNtop ipAddr) before = ipAddr := by
  obtain ⟨octets, size⟩ := ipAddr
  match octets, size with
  | [a, b, c, d], _ =>
      rw [inetAton, inetNtop, NumberText.aton_ntop]
      rfl

-- The loop over the routing table as it is written: each mask and destination goes through
-- its text into a structure that holds anything before.
def routeLoopText (stale ipAddr : IpAddr) : List TableR → Nat → PrefixSearch → PrefixSearch
  | [], _, best => best
  | row :: rest, i, best =>
      let genmask := inetAton (inetNtop row.genmask) stale
      let dest := inetAton (inetNtop row.dest) stale
      if ipAnd ipAddr genmask = dest ∧ best.length < (popcount genmask : Int) then
        routeLoopText stale ipAddr rest (i + 1) ⟨some i, popcount genmask⟩
      else routeLoopText stale ipAddr rest (i + 1) best

def routeLookupText (stale : IpAddr) (cfg : Network) (ipAddr : IpAddr) : Option Nat :=
  (routeLoopText stale (inetAton (inetNtop ipAddr) stale) cfg.routingTable 0 ⟨none, -1⟩).index

theorem route_loop_text (stale ipAddr : IpAddr) (rows : List TableR) (i : Nat) (best : PrefixSearch) :
    routeLoopText stale ipAddr rows i best = routeLoop ipAddr rows i best := by
  induction rows generalizing i best with
  | nil => rfl
  | cons row rest ih =>
      rw [routeLoopText, routeLoop]
      simp only [inet_aton_ntop, ih]

theorem route_lookup_through_text (stale : IpAddr) (cfg : Network) (ipAddr : IpAddr) :
    routeLookupText stale cfg ipAddr = routeLookup cfg ipAddr ∧ (inetNtop ipAddr).length + 1 ≤ 16 ∧
      ∀ row ∈ cfg.routingTable, (inetNtop row.genmask).length + 1 ≤ 16 ∧ (inetNtop row.dest).length + 1 ≤ 16 := by
  refine ⟨?_, NumberText.ntop_length _ _ _ _, fun row _ => ⟨NumberText.ntop_length _ _ _ _, NumberText.ntop_length _ _ _ _⟩⟩
  rw [routeLookupText, route_loop_text, inet_aton_ntop, routeLookup]

structure Named where
  table : Table
  ipStr : Fin tcpConnectionLimit → List UInt8

def unnamed : Named := ⟨zeroTable, fun _ => []⟩

def synName (r : Reception) (s : Named) : Fin tcpConnectionLimit → List UInt8 :=
  match tcpSlot s.table (IpHeader.srcAddr r.buffer) (ntohs (Tcp.srcPort r.buffer)) with
  | some i => if controlBits r.buffer = 2 then Function.update s.ipStr i (inetNtop (IpHeader.srcAddr r.buffer)) else s.ipStr
  | none => s.ipStr

def namedStep (cfg : Config) (s : Named) (e : Event) : Named :=
  match e with
  | .frame r => ⟨step cfg s.table e, if Accepted cfg r then synName r s else s.ipStr⟩
  | .input _ => ⟨step cfg s.table e, s.ipStr⟩

structure NamedInv (s : Named) : Prop where
  inv : TableInv s.table
  name : ∀ i, (s.table i).connectionStatus ≠ 0 → s.ipStr i = inetNtop (s.table i).hostIpAddr

theorem name_kept (s : Named) (named : NamedInv s) (table : Table) (keys : ∀ i, peerOf (table i) = peerOf (s.table i))
    (live : ∀ i, (table i).connectionStatus ≠ 0 → (s.table i).connectionStatus ≠ 0) (i : Fin tcpConnectionLimit)
    (alive : (table i).connectionStatus ≠ 0) : s.ipStr i = inetNtop (table i).hostIpAddr := by
  have same : (table i).hostIpAddr = (s.table i).hostIpAddr := congrArg Prod.fst (keys i)
  rw [same]
  exact named.name i (live i alive)

theorem effect_live (table : Table) (u : UserRead) (request : Intent) (i : Fin tcpConnectionLimit)
    (alive : (request.effect table u i).connectionStatus ≠ 0) : (table i).connectionStatus ≠ 0 := by
  by_cases quits : request = .quit i
  · subst quits
    simp [Intent.effect, Intent.conn] at alive
  · rw [effect_status table u request i quits] at alive
    exact alive

theorem syn_name_other (r : Reception) (s : Named) (later : r.heard.kind ≠ .syn) : synName r s = s.ipStr := by
  have bits : controlBits r.buffer ≠ 2 := fun syn => later ((kind_of_syn (controlBits r.buffer)).mpr syn)
  unfold synName
  split
  · rw [if_neg bits]
  · rfl

theorem syn_name_chosen (r : Reception) (s : Named) (i : Fin tcpConnectionLimit)
    (chosen : slotFor s.table r.heard.peer = some i)
    (syn : r.heard.kind = .syn) : synName r s = Function.update s.ipStr i (inetNtop r.heard.peer.1) := by
  have slot : tcpSlot s.table (IpHeader.srcAddr r.buffer) (ntohs (Tcp.srcPort r.buffer)) = some i :=
    (tcp_slot_refines s.table r.heard.peer).trans chosen
  rw [synName, slot]
  exact if_pos ((kind_of_syn (controlBits r.buffer)).mp syn)

theorem name_heard (s : Named) (named : NamedInv s) (r : Reception) (i : Fin tcpConnectionLimit)
    (chosen : slotFor s.table r.heard.peer = some i) (j : Fin tcpConnectionLimit)
    (alive : (Function.update s.table i (r.heard.outcome (s.table i)) j).connectionStatus ≠ 0) :
    synName r s j = inetNtop (Function.update s.table i (r.heard.outcome (s.table i)) j).hostIpAddr := by
  have ends : ¬ r.heard.status (s.table i) = tcpFinAck ∨ j ≠ i := by
    by_contra both
    push Not at both
    obtain ⟨closing, rfl⟩ := both
    rw [Function.update_self, Heard.outcome, if_pos closing] at alive
    exact alive rfl
  by_cases syn : r.heard.kind = .syn
  · rw [syn_name_chosen r s i chosen syn]
    by_cases here : j = i
    · subst here
      rw [Function.update_self, Function.update_self, Heard.outcome, if_neg (ends.resolve_right (not_not_intro rfl))]
      exact congrArg (fun peer : Peer => inetNtop peer.1) (apply_syn_key r.heard (s.table j) syn).symm
    · rw [Function.update_of_ne here] at alive ⊢
      rw [Function.update_of_ne here]
      exact named.name j alive
  · rw [syn_name_other r s syn]
    by_cases here : j = i
    · subst here
      rw [Function.update_self, Heard.outcome, if_neg (ends.resolve_right (not_not_intro rfl))] at alive ⊢
      have live := apply_live r.heard (s.table j) syn
      have same : (r.heard.apply (s.table j)).hostIpAddr = (s.table j).hostIpAddr :=
        congrArg Prod.fst (apply_key r.heard (s.table j) syn)
      rw [same]
      rw [isLive, isLive, decide_eq_decide] at live
      exact named.name j (live.mp alive)
    · rw [Function.update_of_ne here] at alive ⊢
      exact named.name j alive

theorem close_at_key (table : Table) (peer : Peer) (i : Fin tcpConnectionLimit) :
    peerOf (closeAt table peer i) = peerOf (table i) := by
  unfold closeAt
  cases slotFor table peer with
  | none => rfl
  | some j => exact SlotTable.update_key peerOf table j (Heard.close (table j)) rfl i

theorem close_at_live (table : Table) (peer : Peer) (i : Fin tcpConnectionLimit)
    (alive : isLive (closeAt table peer i) = true) : isLive (table i) = true := by
  unfold closeAt at alive
  cases chosen : slotFor table peer with
  | none =>
      rw [chosen] at alive
      exact alive
  | some j =>
      rw [chosen] at alive
      dsimp only at alive
      by_cases here : i = j
      · rw [here, Function.update_self] at alive
        cases alive
      · rw [Function.update_of_ne here] at alive
        exact alive

theorem name_stray (s : Named) (named : NamedInv s) (r : Reception) (i : Fin tcpConnectionLimit) (peer : Peer)
    (closing : r.heard.status (s.table i) = tcpFinAck) (j : Fin tcpConnectionLimit)
    (alive : (closeAt (Function.update s.table i (r.heard.apply (s.table i))) peer j).connectionStatus ≠ 0) :
    synName r s j = inetNtop (closeAt (Function.update s.table i (r.heard.apply (s.table i))) peer j).hostIpAddr := by
  have later := closing_later r.heard (s.table i) closing
  have keys := SlotTable.update_key peerOf s.table i _ (apply_key r.heard (s.table i) later)
  have lives := SlotTable.update_key isLive s.table i _ (apply_live r.heard (s.table i) later)
  rw [syn_name_other r s later]
  apply name_kept s named _ (fun k => ?_) (fun k live => ?_) j alive
  · rw [← keys k]
    exact close_at_key _ peer k
  · have first := close_at_live _ peer k ((is_live_iff _).mpr live)
    rw [lives k] at first
    exact (is_live_iff _).mp first

theorem named_inv_step (cfg : Config) (s : Named) (e : Event) (named : NamedInv s) : NamedInv (namedStep cfg s e) := by
  have inv := table_inv_step cfg s.table e named.inv
  have transition := step_transition cfg s.table e
  cases e with
  | input u =>
      refine ⟨inv, fun i alive => ?_⟩
      rw [namedStep, step_input] at alive ⊢
      exact name_kept s named _ (fun k => (effect_kept s.table u _ k).1) (fun k => effect_live s.table u _ k) i alive
  | frame r =>
      refine ⟨inv, ?_⟩
      simp only [namedStep]
      generalize step cfg s.table (.frame r) = next at transition ⊢
      cases transition with
      | ignored _ ignored =>
          rw [if_neg ignored]
          exact named.name
      | full _ accepted full =>
          have missing : tcpSlot s.table (IpHeader.srcAddr r.buffer) (ntohs (Tcp.srcPort r.buffer)) = none :=
            (tcp_slot_refines s.table r.heard.peer).trans full
          rw [if_pos accepted, synName, missing]
          exact named.name
      | heard _ i accepted chosen regular =>
          rw [if_pos accepted]
          exact name_heard s named r i chosen
      | stray _ i port accepted chosen expired closing =>
          rw [if_pos accepted]
          exact name_stray s named r i (tcpIp, port) closing

theorem named_inv_run (cfg : Config) (events : List Event) : NamedInv (Runs.run (namedStep cfg) unnamed events) :=
  Runs.run_invariant (namedStep cfg) NamedInv (fun s e => named_inv_step cfg s e) unnamed events
    ⟨table_inv_zero, fun _ alive => absurd rfl alive⟩

def connectionLine (s : Named) (i : Fin tcpConnectionLimit) : List UInt8 :=
  s.ipStr i ++ NumberText.ascii " PORT: " ++ NumberText.decimal (s.table i).port.toNat ++ NumberText.ascii " ID: " ++
    NumberText.decimal i.val

def openSlots (table : Table) : List (Fin tcpConnectionLimit) :=
  (List.finRange tcpConnectionLimit).filter fun i => (table i).connectionStatus ≠ 0

def openConnections (s : Named) : List UInt8 :=
  let nConnections := (List.finRange tcpConnectionLimit).countP fun i => (s.table i).connectionStatus ≠ 0
  if nConnections ≠ 0 then
    NumberText.ascii "[Open connections: " ++ NumberText.decimal nConnections ++ NumberText.ascii "]\n" ++
      NumberText.ascii "Select and Enter [ID]c to begin conversation and [ID]q to close a connection\n" ++
      NumberText.lines 10 ((openSlots s.table).map (connectionLine s))
  else NumberText.ascii "No Connections Open\n"

theorem inet_ntop_no_mark (ipAddr : IpAddr) (mark : UInt8) (other : mark.toNat < 46) : mark ∉ inetNtop ipAddr := by
  intro member
  cases NumberText.ntop_printed _ _ _ _ mark member with
  | inl dot =>
      rw [dot] at other
      exact absurd other (by decide)
  | inr digit => omega

theorem inet_ntop_injective (a b : IpAddr) (same : inetNtop a = inetNtop b) : a = b := by
  rw [← inet_aton_ntop a a, same, inet_aton_ntop]

theorem connection_line_injective (s s' : Named) (i j : Fin tcpConnectionLimit) (named : NamedInv s)
    (named' : NamedInv s') (live : (s.table i).connectionStatus ≠ 0)
    (live' : (s'.table j).connectionStatus ≠ 0) (same : connectionLine s i = connectionLine s' j) :
    i = j ∧ peerOf (s.table i) = peerOf (s'.table j) := by
  have port : NumberText.ascii " PORT: " = 32 :: NumberText.ascii "PORT: " := rfl
  have id : NumberText.ascii " ID: " = 32 :: NumberText.ascii "ID: " := rfl
  simp only [connectionLine, named.name i live, named'.name j live', port, id, List.append_assoc, List.cons_append] at same
  obtain ⟨address, behind⟩ := NumberText.piece_first 32 _ _ _ _ (inet_ntop_no_mark _ 32 (by decide))
    (inet_ntop_no_mark _ 32 (by decide)) same
  obtain ⟨number, rest⟩ := NumberText.piece_first 32 _ _ _ _ (NumberText.decimal_other _ 32 (by decide))
    (NumberText.decimal_other _ 32 (by decide)) (List.append_cancel_left behind)
  refine ⟨Fin.ext (NumberText.decimal_injective _ _ (List.append_cancel_left rest)), Prod.ext ?_ ?_⟩
  · exact inet_ntop_injective _ _ address
  · exact UInt16.toNat_inj.mp (NumberText.decimal_injective _ _ number)

theorem connection_line_no_newline (s : Named) (named : NamedInv s) (i : Fin tcpConnectionLimit)
    (live : (s.table i).connectionStatus ≠ 0) : 10 ∉ connectionLine s i := by
  have address := inet_ntop_no_mark (s.table i).hostIpAddr 10 (by decide)
  have port := NumberText.decimal_other (s.table i).port.toNat 10 (by decide)
  have id := NumberText.decimal_other i.val 10 (by decide)
  have first : 10 ∉ NumberText.ascii " PORT: " := by decide
  have second : 10 ∉ NumberText.ascii " ID: " := by decide
  simp only [connectionLine, named.name i live, List.mem_append, not_or]
  exact ⟨⟨⟨⟨address, first⟩, port⟩, second⟩, id⟩

theorem open_slot_live (table : Table) (i : Fin tcpConnectionLimit) :
    i ∈ openSlots table ↔ (table i).connectionStatus ≠ 0 := by
  simp [openSlots]

theorem open_slots_count (table : Table) :
    (List.finRange tcpConnectionLimit).countP (fun i => (table i).connectionStatus ≠ 0) = (openSlots table).length :=
  List.countP_eq_length_filter

theorem slots_of_lines {Line : Type} (f g : Fin tcpConnectionLimit → Line) (left right : List (Fin tcpConnectionLimit))
    (apart : ∀ i ∈ left, ∀ j ∈ right, f i = g j → i = j) (same : left.map f = right.map g) : left = right := by
  induction left generalizing right with
  | nil => exact (List.map_eq_nil_iff.mp same.symm).symm
  | cons i left ih =>
      cases right with
      | nil => cases same
      | cons j right =>
          obtain ⟨head, tail⟩ := List.cons_eq_cons.mp same
          rw [apart i List.mem_cons_self j List.mem_cons_self head,
            ih right (fun k member l memberL => apart k (List.mem_cons_of_mem i member) l
              (List.mem_cons_of_mem j memberL)) tail]

theorem heading_lines (s : Named) (listed : openSlots s.table ≠ []) : openConnections s =
    (NumberText.ascii "[Open connections: " ++ NumberText.decimal (openSlots s.table).length ++ NumberText.ascii "]") ++ 10 ::
      (NumberText.ascii "Select and Enter [ID]c to begin conversation and [ID]q to close a connection\n" ++
        NumberText.lines 10 ((openSlots s.table).map (connectionLine s))) := by
  have count : (openSlots s.table).length ≠ 0 := fun zero => listed (List.eq_nil_of_length_eq_zero zero)
  have close : NumberText.ascii "]\n" = NumberText.ascii "]" ++ [10] := by decide
  simp only [openConnections, open_slots_count, if_pos count, close, List.append_assoc, List.singleton_append]
  rfl

theorem heading_no_newline (n : Nat) :
    10 ∉ NumberText.ascii "[Open connections: " ++ NumberText.decimal n ++ NumberText.ascii "]" := by
  have first : 10 ∉ NumberText.ascii "[Open connections: " := by decide
  have last : 10 ∉ NumberText.ascii "]" := by decide
  have count := NumberText.decimal_other n 10 (by decide)
  rw [List.mem_append, List.mem_append, not_or, not_or]
  exact ⟨⟨first, count⟩, last⟩

theorem open_connections_none (s : Named) : openConnections s = NumberText.ascii "No Connections Open\n" ↔
    openSlots s.table = [] := by
  constructor
  · intro same
    by_contra listed
    rw [heading_lines s listed] at same
    have first := congrArg List.head? same
    simp [NumberText.ascii] at first
  · intro empty
    have count : (openSlots s.table).length = 0 := by rw [empty]; rfl
    simp only [openConnections, open_slots_count, count]
    rfl

theorem listing_slots (s s' : Named) (named : NamedInv s) (named' : NamedInv s')
    (same : openConnections s = openConnections s') : openSlots s.table = openSlots s'.table ∧
      ∀ i ∈ openSlots s.table, peerOf (s.table i) = peerOf (s'.table i) := by
  by_cases closed : openSlots s.table = []
  · have closed' : openSlots s'.table = [] :=
      (open_connections_none s').mp (same.symm.trans ((open_connections_none s).mpr closed))
    exact ⟨closed.trans closed'.symm, fun i member => by rw [closed] at member; cases member⟩
  · have listed' : openSlots s'.table ≠ [] := fun empty =>
      closed ((open_connections_none s).mp (same.trans ((open_connections_none s').mpr empty)))
    rw [heading_lines s closed, heading_lines s' listed'] at same
    obtain ⟨-, behind⟩ := NumberText.piece_first 10 _ _ _ _ (heading_no_newline _) (heading_no_newline _) same
    have printed := NumberText.lines_injective 10 _ _ (fun line member => ?_) (fun line member => ?_)
      (List.append_cancel_left behind)
    · have slots : openSlots s.table = openSlots s'.table := by
        refine slots_of_lines _ _ _ _ (fun i member j memberJ equal => ?_) printed
        exact (connection_line_injective s s' i j named named' ((open_slot_live _ i).mp member)
          ((open_slot_live _ j).mp memberJ) equal).1
      refine ⟨slots, fun i member => ?_⟩
      rw [← slots] at printed
      have equal := List.map_inj_left.mp printed i member
      rw [slots] at member
      have live' := (open_slot_live _ i).mp member
      rw [← slots] at member
      exact (connection_line_injective s s' i i named named' ((open_slot_live _ i).mp member) live' equal).2
    · obtain ⟨i, open', rfl⟩ := List.mem_map.mp member
      exact connection_line_no_newline s named i ((open_slot_live _ i).mp open')
    · obtain ⟨i, open', rfl⟩ := List.mem_map.mp member
      exact connection_line_no_newline s' named' i ((open_slot_live _ i).mp open')

theorem listing_names_connections (cfg cfg' : Config) (events events' : List Event) :
    let s := Runs.run (namedStep cfg) unnamed events
    let s' := Runs.run (namedStep cfg') unnamed events'
    (openConnections s = openConnections s' →
      ∀ i, ((s.table i).connectionStatus ≠ 0 ↔ (s'.table i).connectionStatus ≠ 0) ∧
        ((s.table i).connectionStatus ≠ 0 → peerOf (s.table i) = peerOf (s'.table i))) ∧
    ∀ i j, (s.table i).connectionStatus ≠ 0 → (s.table j).connectionStatus ≠ 0 →
      peerOf (s.table i) = peerOf (s.table j) → i = j := by
  intro s s'
  have named : NamedInv s := named_inv_run cfg events
  have named' : NamedInv s' := named_inv_run cfg' events'
  refine ⟨fun same i => ?_, fun i j live liveJ peer => ?_⟩
  · obtain ⟨slots, peers⟩ := listing_slots s s' named named' same
    rw [← open_slot_live s.table i, ← open_slot_live s'.table i, slots]
    exact ⟨Iff.rfl, fun member => peers i (slots ▸ member)⟩
  · have found := named.inv.canonical i ((is_live_iff _).mpr live)
    have foundJ := named.inv.canonical j ((is_live_iff _).mpr liveJ)
    rw [peer, foundJ] at found
    exact (Option.some.inj found).symm

theorem digits_value_decimal (n : Nat) : digitsValue (NumberText.decimal n) = n := by
  induction n using NumberText.decimal.induct with
  | case1 n small =>
      rw [NumberText.decimal, if_pos small]
      simp [digitsValue, (NumberText.digit_facts n small).1]
  | case2 n large ih =>
      have last : n % 10 < 10 := Nat.mod_lt n (by omega)
      rw [NumberText.decimal, if_neg large, digits_value_snoc, ih, (NumberText.digit_facts _ last).1]
      omega

theorem command_length (n : Nat) (letter : UInt8) (int : n < 2147483648) :
    (NumberText.decimal n ++ [letter, 10]).length ≤ 1023 := by
  have short := NumberText.decimal_length n 9 (by omega)
  simp only [List.length_append, List.length_cons, List.length_nil]
  omega

def command (n : Nat) (letter : UInt8) (int : n < 2147483648) : UserRead :=
  ⟨NumberText.decimal n ++ [letter, 10], command_length n letter int⟩

theorem command_parsed (n : Nat) (letter : UInt8) (int : n < 2147483648) (known : isCommandChar letter) :
    parseConnectionCommand ((stripNewline (command n letter int).text).takeWhile fun c => c ≠ 0) = ((n : Int), letter) := by
  have digits : ∀ c ∈ NumberText.decimal n, isDigitChar c = true := by
    intro c member
    have range := NumberText.decimal_digits n c member
    simp only [isDigitChar, Bool.and_eq_true, decide_eq_true_eq, UInt8.le_iff_toNat_le]
    exact range
  have stripped : stripNewline (command n letter int).text = NumberText.decimal n ++ [letter] := by
    have split : (command n letter int).text = (NumberText.decimal n ++ [letter]) ++ [10] := by simp [command]
    rw [stripNewline, split, if_pos (by simp), List.dropLast_concat]
  have nonzero : letter ≠ 0 := by
    rintro rfl
    cases known
  have whole : (NumberText.decimal n ++ [letter]).takeWhile (fun c => c ≠ 0) = NumberText.decimal n ++ [letter] := by
    rw [List.takeWhile_eq_self_iff]
    intro c member
    cases List.mem_append.mp member with
    | inl digit =>
        have range := NumberText.decimal_digits n c digit
        have other : c ≠ 0 := by
          rintro rfl
          exact absurd range.1 (by decide)
        simpa using other
    | inr last => simpa [List.mem_singleton.mp last] using nonzero
  have filled : NumberText.decimal n ≠ [] := by
    obtain ⟨c, rest, head, -⟩ := NumberText.decimal_head n
    rw [head]
    exact List.cons_ne_nil c rest
  obtain ⟨long, last, front⟩ := id_command_shape _ letter _ ⟨filled, digits, known, rfl⟩
  rw [stripped, whole, parse_accepted _ (by omega) (by rw [last]; exact known), front, last, atoi_digits _ digits,
    digits_value_decimal]

theorem command_intent (table : Table) (idle : promise table = none) (n : Nat) (letter : UInt8) (int : n < 2147483648)
    (known : isCommandChar letter) : intent table (command n letter int) =
      match verifyUserIdInput (n : Int) table with
      | none => .nothing
      | some i => if isQuit letter then .quit i else .select i := by
  have positive : (n : Int) ≠ -1 := by omega
  have parsed := command_parsed n letter int known
  cases found : verifyUserIdInput (n : Int) table with
  | none => simp only [intent, idle, commandIntent, parsed, if_neg positive, found]
  | some i => simp only [intent, idle, commandIntent, parsed, if_neg positive, found]

theorem listed_connections_chosen (table : Table) (idle : promise table = none) (n : Nat) (letter : UInt8)
    (int : n < 2147483648) (known : isCommandChar letter) :
    (∀ i ∈ openSlots table, i.val = n → if isQuit letter then
        (interact table (command n letter int)).table =
          Function.update table i { table i with connectionStatus := 0, currSeq := (table i).currSeq + 1 } ∧
        (interact table (command n letter int)).sent.length = 1
      else interact table (command n letter int) = ⟨Function.update table i { table i with io := 1 }, []⟩) ∧
    ((∀ i ∈ openSlots table, i.val ≠ n) → interact table (command n letter int) = ⟨table, []⟩) := by
  have wanted := command_intent table idle n letter int known
  refine ⟨fun i open' same => ?_, fun absent => ?_⟩
  · have found := verify_user_id_live table i ((open_slot_live table i).mp open')
    rw [same] at found
    rw [found] at wanted
    rw [interact_intent, wanted]
    by_cases quit : isQuit letter = true
    · simp only [if_pos quit]
      exact ⟨rfl, rfl⟩
    · simp only [if_neg quit]
      rfl
  · have found : verifyUserIdInput (n : Int) table = none := by
      cases found : verifyUserIdInput (n : Int) table with
      | none => rfl
      | some i =>
          obtain ⟨same, live⟩ := verify_user_id_some _ table i found
          exact absurd (Int.ofNat.inj same).symm (absent i ((open_slot_live table i).mpr live))
    rw [found] at wanted
    rw [interact_intent, wanted]
    rfl

def greeted : List Event := [.frame (visitorSegment 100 0 2), .frame (neighbourSegment 200 0 2)]

def welcomed : List Event := greeted ++ [.frame (visitorSegment 101 778 16)]

theorem listing_names_connections_greeted :
    ∀ i, ((Runs.run (namedStep soloConfig) unnamed greeted).table i).connectionStatus ≠ 0 ↔
      ((Runs.run (namedStep soloConfig) unnamed welcomed).table i).connectionStatus ≠ 0 :=
  fun i => ((listing_names_connections soloConfig soloConfig greeted welcomed).1 (by decide +kernel) i).1

theorem listed_connections_chosen_second :
    let table := (Runs.run (namedStep soloConfig) unnamed greeted).table
    (interact table (command 1 113 (by decide))).table =
      Function.update table 1 { table 1 with connectionStatus := 0, currSeq := (table 1).currSeq + 1 } :=
  ((listed_connections_chosen (Runs.run (namedStep soloConfig) unnamed greeted).table (by decide +kernel) 1 113 (by decide)
    (by decide)).1 1 ((open_slot_live _ 1).mpr (by decide +kernel)) rfl).1

end OsiStack
