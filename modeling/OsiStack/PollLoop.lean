import OsiStack.Arrival
import OsiStack.Pipe
import OsiStack.ReadOctets

set_option autoImplicit false

namespace OsiStack

open Octets

-- One turn of the loop: what came since the last one, what poll reports, and what the
-- reads of the turn meet.
structure Turn where
  arrived : Nat → List (List UInt8)
  ready : Nat → Bool
  reads : Nat → Reads
  stale : Nat → Stale
  icmpCode : Nat → Nat
  draws : Nat → List UInt32
  input : Option UserRead

structure Stack where
  table : Table
  incoming : Nat → List UInt8
  outgoing : Nat → List UInt8
  console : List UInt8

def idle : Stack := ⟨zeroTable, fun _ => [], fun _ => [], []⟩

def writeFrame (outgoing : Nat → List UInt8) (s : Sent) : Nat → List UInt8 :=
  Function.update outgoing s.interface (outgoing s.interface ++ wireOctets s.frame)

def Stack.perform (s : Stack) (e : Effects) : Stack :=
  { s with table := e.table, outgoing := e.sent.foldl writeFrame s.outgoing, console := s.console ++ e.console }

def receiverTurn (cfg : Network) (turn : Turn) (s : Stack) (i : Nat) : Stack :=
  let received := receiveEthernetFrame (turn.reads i) (turn.stale i) (s.incoming i)
  let after := { s with incoming := Function.update s.incoming i received.pipe }
  after.perform (interfaceReceiver cfg received.len received.buf (turn.icmpCode i) (turn.draws i) s.table)

def arrive (s : Stack) (turn : Turn) : Stack := { s with incoming := fun i => s.incoming i ++ wire (turn.arrived i) }

def serve (cfg : Network) (turn : Turn) (interfaces : List Nat) (s : Stack) : Stack :=
  interfaces.foldl (fun s i => if turn.ready i then receiverTurn cfg turn s i else s) s

-- The interfaces in their order, then the user. The source allocates 11 octets for the
-- entries that it polls; here they have room.
def pollTurn (cfg : Network) (s : Stack) (turn : Turn) : Stack :=
  let served := serve cfg turn (List.range cfg.interfaceList.length) (arrive s turn)
  match turn.input with
  | none => served
  | some u => served.perform (react cfg served.table (.input u))

structure Orderly (s : Stack) (turn : Turn) : Prop where
  sizes : ∀ i, ∀ frame ∈ turn.arrived i, 4 ≤ frame.length ∧ frame.length ≤ 1596
  pending : ∀ i, turn.ready i = true → (arrive s turn).incoming i ≠ []
  whole : ∀ i, 2 ≤ (turn.reads i).lengthCap ∧ 1596 ≤ (turn.reads i).frameCap

def frameOn (i : Nat) : Event → Option (List UInt8)
  | .frame r => if r.netId = i then some r.octets else none
  | .input _ => none

def inputOf : Event → Option UserRead
  | .frame _ => none
  | .input u => some u

def framesOn (i : Nat) (events : List Event) : List (List UInt8) := events.filterMap (frameOn i)

def sentOn (i : Nat) (sent : List Sent) : List (List UInt8) :=
  sent.filterMap fun s => if s.interface = i then some s.frame else none

def effectsOf (cfg : Network) (events : List Event) : List Effects := Runs.outputs (step cfg) (react cfg) zeroTable events

structure Follows (cfg : Network) (came : Nat → List (List UInt8)) (events : List Event) (s : Stack) : Prop where
  table : s.table = Runs.run (step cfg) zeroTable events
  console : s.console = (effectsOf cfg events).flatMap Effects.console
  outgoing : ∀ i, s.outgoing i = wire (sentOn i ((effectsOf cfg events).flatMap Effects.sent))
  incoming : ∀ i, ∃ left, s.incoming i = wire left ∧ framesOn i events ++ left = came i

theorem wire_append (before after : List (List UInt8)) : wire (before ++ after) = wire before ++ wire after :=
  List.flatMap_append

theorem written (sent : List Sent) (outgoing : Nat → List UInt8) (i : Nat) :
    sent.foldl writeFrame outgoing i = outgoing i ++ wire (sentOn i sent) := by
  induction sent generalizing outgoing with
  | nil => simp [sentOn, wire]
  | cons s sent ih =>
      rw [List.foldl_cons, ih]
      by_cases here : s.interface = i
      · have split : sentOn i (s :: sent) = s.frame :: sentOn i sent := by simp [sentOn, here]
        have head : wire (s.frame :: sentOn i sent) = wireOctets s.frame ++ wire (sentOn i sent) := rfl
        rw [split, head, writeFrame, here, Function.update_self, List.append_assoc]
      · have split : sentOn i (s :: sent) = sentOn i sent := by simp [sentOn, here]
        rw [split, writeFrame, Function.update_of_ne (Ne.symm here)]

theorem effects_of_snoc (cfg : Network) (events : List Event) (e : Event) :
    effectsOf cfg (events ++ [e]) = effectsOf cfg events ++ [react cfg (Runs.run (step cfg) zeroTable events) e] :=
  Runs.outputs_append (step cfg) (react cfg) zeroTable events [e]

theorem frames_on_append (i : Nat) (before after : List Event) :
    framesOn i (before ++ after) = framesOn i before ++ framesOn i after :=
  List.filterMap_append

theorem frames_on_cons (i : Nat) (r : Reception) (events : List Event) :
    framesOn i (.frame r :: events) = (if r.netId = i then [r.octets] else []) ++ framesOn i events := by
  by_cases here : r.netId = i
  · simp [framesOn, frameOn, here]
  · simp [framesOn, frameOn, here]

-- What a turn reads of a frame, behind which the buffer holds what it held.
def readFrame (turn : Turn) (i : Nat) (frame : List UInt8) (low : 4 ≤ frame.length) (high : frame.length ≤ 1596) : Reception :=
  ⟨i, frame.length, store (turn.stale i).buf 0 frame, turn.icmpCode i, turn.draws i, low, high⟩

theorem receiver_turn_first (cfg : Network) (turn : Turn) (s : Stack) (i : Nat) (frame behind : List UInt8)
    (pipe : s.incoming i = wireOctets frame ++ behind) (low : 4 ≤ frame.length) (high : frame.length ≤ 1596)
    (full : FullReads (turn.reads i) frame) : receiverTurn cfg turn s i =
      ({ s with incoming := Function.update s.incoming i behind }).perform
        (react cfg s.table (.frame (readFrame turn i frame low high))) := by
  have received := pipe_full (turn.reads i) (turn.stale i) frame behind (by omega) full
  rw [← pipe] at received
  simp only [receiverTurn, received]
  rfl

section
variable (cfg : Network) (came : Nat → List (List UInt8)) (events : List Event) (s : Stack)
    (follows : Follows cfg came events s)
include follows

theorem follows_perform (e : Event) (pipes : Nat → List UInt8)
    (taken : ∀ i, ∃ left, pipes i = wire left ∧ framesOn i (events ++ [e]) ++ left = came i) :
    Follows cfg came (events ++ [e]) (({ s with incoming := pipes }).perform (react cfg s.table e)) where
  table := by
    rw [Runs.run_append, ← follows.table]
    rfl
  console := by
    rw [effects_of_snoc, List.flatMap_append, ← follows.console, ← follows.table]
    simp [Stack.perform]
  outgoing := by
    intro i
    have before := follows.outgoing i
    rw [effects_of_snoc, List.flatMap_append, sentOn, List.filterMap_append, wire_append, ← follows.table]
    rw [sentOn] at before
    simp only [Stack.perform, written, before]
    simp [sentOn]
  incoming := taken

theorem follows_receive (turn : Turn) (i : Nat) (sizes : ∀ frame ∈ came i, 4 ≤ frame.length ∧ frame.length ≤ 1596)
    (pending : s.incoming i ≠ []) (whole : 2 ≤ (turn.reads i).lengthCap ∧ 1596 ≤ (turn.reads i).frameCap) :
    ∃ r : Reception, r.netId = i ∧ Follows cfg came (events ++ [.frame r]) (receiverTurn cfg turn s i) ∧
      ∀ j, j ≠ i → (receiverTurn cfg turn s i).incoming j = s.incoming j := by
  obtain ⟨left, pipe, sum⟩ := follows.incoming i
  cases left with
  | nil => exact absurd pipe pending
  | cons frame rest =>
      obtain ⟨low, high⟩ := sizes frame (by rw [← sum]; simp)
      have turned := receiver_turn_first cfg turn s i frame (wire rest) pipe low high ⟨whole.1, by omega⟩
      generalize rEq : readFrame turn i frame low high = r at turned
      have place : r.netId = i := by rw [← rEq]; rfl
      have octets : r.octets = frame := by rw [← rEq]; exact fetch_store_same _ 0 frame.length frame rfl
      refine ⟨r, place, ?_, ?_⟩
      · rw [turned]
        refine follows_perform cfg came events s follows (.frame r) _ fun j => ?_
        by_cases here : j = i
        · subst here
          refine ⟨rest, Function.update_self _ _ _, ?_⟩
          rw [← sum, frames_on_append, frames_on_cons]
          simp [framesOn, octets, place]
        · obtain ⟨others, same, still⟩ := follows.incoming j
          refine ⟨others, by rw [Function.update_of_ne here, same], ?_⟩
          rw [← still, frames_on_append, frames_on_cons]
          simp [framesOn, place, Ne.symm here]
      · intro j apart
        rw [turned]
        exact Function.update_of_ne apart _ _

end

section
variable (cfg : Network) (came : Nat → List (List UInt8)) (turn : Turn)
variable (sizes : ∀ i, ∀ frame ∈ came i, 4 ≤ frame.length ∧ frame.length ≤ 1596)
variable (whole : ∀ i, 2 ≤ (turn.reads i).lengthCap ∧ 1596 ≤ (turn.reads i).frameCap)
include sizes whole

theorem follows_serve (interfaces : List Nat) (apart : interfaces.Nodup) (events : List Event) (s : Stack)
    (follows : Follows cfg came events s) (pending : ∀ i ∈ interfaces, turn.ready i = true → s.incoming i ≠ []) :
    ∃ more, Follows cfg came (events ++ more) (serve cfg turn interfaces s) ∧ more.filterMap inputOf = [] ∧
      ∀ j, (framesOn j more).length = (interfaces.filter turn.ready).count j := by
  induction interfaces generalizing events s with
  | nil => exact ⟨[], by rw [List.append_nil]; exact follows, rfl, fun j => rfl⟩
  | cons i rest ih =>
      obtain ⟨fresh, apartRest⟩ := List.nodup_cons.mp apart
      cases ready : turn.ready i with
      | true =>
          obtain ⟨r, place, next, others⟩ := follows_receive cfg came events s follows turn i (sizes i)
            (pending i List.mem_cons_self ready) (whole i)
          obtain ⟨more, last, quiet, served⟩ := ih apartRest (events ++ [.frame r]) _ next fun j member readyJ => by
            rw [others j fun same => fresh (same ▸ member)]
            exact pending j (List.mem_cons_of_mem i member) readyJ
          refine ⟨.frame r :: more, ?_, quiet, fun j => ?_⟩
          · rw [serve, List.foldl_cons, if_pos ready]
            rw [List.append_assoc] at last
            exact last
          · rw [frames_on_cons, place, List.length_append, served j, List.filter_cons_of_pos ready, List.count_cons]
            by_cases here : i = j
            · simp [here, Nat.add_comm]
            · simp [here]
      | false =>
          have unready : ¬ turn.ready i = true := by rw [ready]; exact Bool.false_ne_true
          obtain ⟨more, last, quiet, served⟩ := ih apartRest events s follows fun j member readyJ =>
            pending j (List.mem_cons_of_mem i member) readyJ
          refine ⟨more, ?_, quiet, fun j => ?_⟩
          · rw [serve, List.foldl_cons, if_neg unready]
            exact last
          · rw [served j, List.filter_cons_of_neg unready]

end

theorem follows_more (cfg : Network) (came : Nat → List (List UInt8)) (events : List Event) (s : Stack) (turn : Turn)
    (follows : Follows cfg came events s) :
    Follows cfg (fun i => came i ++ turn.arrived i) events (arrive s turn) where
  table := follows.table
  console := follows.console
  outgoing := follows.outgoing
  incoming := by
    intro i
    obtain ⟨left, pipe, sum⟩ := follows.incoming i
    exact ⟨left ++ turn.arrived i, by rw [wire_append, ← pipe]; rfl, by rw [← List.append_assoc, sum]⟩

theorem follows_turn (cfg : Network) (came : Nat → List (List UInt8)) (events : List Event) (s : Stack) (turn : Turn)
    (sizes : ∀ i, ∀ frame ∈ came i, 4 ≤ frame.length ∧ frame.length ≤ 1596) (follows : Follows cfg came events s)
    (orderly : Orderly s turn) :
    ∃ more, Follows cfg (fun i => came i ++ turn.arrived i) (events ++ more) (pollTurn cfg s turn) ∧
      more.filterMap inputOf = turn.input.toList ∧
      ∀ i < cfg.interfaceList.length, (framesOn i more).length = if turn.ready i then 1 else 0 := by
  have longer : ∀ i, ∀ frame ∈ came i ++ turn.arrived i, 4 ≤ frame.length ∧ frame.length ≤ 1596 := by
    intro i frame member
    cases List.mem_append.mp member with
    | inl old => exact sizes i frame old
    | inr new => exact orderly.sizes i frame new
  obtain ⟨more, served, quiet, count⟩ := follows_serve cfg _ turn longer orderly.whole
    (List.range cfg.interfaceList.length) List.nodup_range events _ (follows_more cfg came events s turn follows)
    fun i _ ready => orderly.pending i ready
  have once : ∀ i < cfg.interfaceList.length, (framesOn i more).length = if turn.ready i then 1 else 0 := by
    intro i within
    rw [count i, List.Nodup.count (List.nodup_range.filter _)]
    simp [within]
  cases given : turn.input with
  | none =>
      refine ⟨more, ?_, quiet, once⟩
      rw [pollTurn, given]
      exact served
  | some u =>
      refine ⟨more ++ [.input u], ?_, by rw [List.filterMap_append, quiet]; rfl, fun i within => ?_⟩
      · rw [pollTurn, given, ← List.append_assoc]
        refine follows_perform cfg _ _ _ served (.input u) _ fun i => ?_
        obtain ⟨left, pipe, sum⟩ := served.incoming i
        refine ⟨left, pipe, ?_⟩
        rw [frames_on_append, ← sum]
        simp [framesOn, frameOn]
      · rw [frames_on_append, List.length_append, once i within]
        rfl

theorem follows_turns (cfg : Network) (turns : List Turn) (came : Nat → List (List UInt8)) (events : List Event) (s : Stack)
    (sizes : ∀ i, ∀ frame ∈ came i, 4 ≤ frame.length ∧ frame.length ≤ 1596) (follows : Follows cfg came events s)
    (orderly : Runs.Always (pollTurn cfg) Orderly s turns) :
    ∃ more, Follows cfg (fun i => came i ++ turns.flatMap fun turn => turn.arrived i) (events ++ more)
        (Runs.run (pollTurn cfg) s turns) ∧
      more.filterMap inputOf = turns.filterMap Turn.input ∧
      ∀ i < cfg.interfaceList.length, (framesOn i more).length = turns.countP fun turn => turn.ready i := by
  induction turns generalizing came events s with
  | nil =>
      refine ⟨[], ?_, rfl, fun _ _ => rfl⟩
      simp only [List.flatMap_nil, List.append_nil]
      exact follows
  | cons turn rest ih =>
      obtain ⟨first, next, typed, count⟩ := follows_turn cfg came events s turn sizes follows orderly.1
      have longer : ∀ i, ∀ frame ∈ came i ++ turn.arrived i, 4 ≤ frame.length ∧ frame.length ≤ 1596 := by
        intro i frame member
        cases List.mem_append.mp member with
        | inl old => exact sizes i frame old
        | inr new => exact orderly.1.sizes i frame new
      obtain ⟨later, last, typedLater, countLater⟩ := ih _ (events ++ first) _ longer next orderly.2
      refine ⟨first ++ later, ?_, ?_, fun i within => ?_⟩
      · rw [Runs.run_cons, ← List.append_assoc]
        simp only [List.flatMap_cons, ← List.append_assoc]
        exact last
      · rw [List.filterMap_append, typed, typedLater, List.filterMap_cons]
        cases turn.input with
        | none => rfl
        | some u => rfl
      · rw [frames_on_append, List.length_append, count i within, countLater i within, List.countP_cons, Nat.add_comm]

theorem poll_loop_refines (cfg : Network) (turns : List Turn) (orderly : Runs.Always (pollTurn cfg) Orderly idle turns) :
    ∃ events, Follows cfg (fun i => turns.flatMap fun turn => turn.arrived i) events (Runs.run (pollTurn cfg) idle turns) ∧
      events.filterMap inputOf = turns.filterMap Turn.input ∧
      ∀ i < cfg.interfaceList.length, (framesOn i events).length = turns.countP fun turn => turn.ready i := by
  have start : Follows cfg (fun _ => []) [] idle := ⟨rfl, rfl, fun _ => rfl, fun _ => ⟨[], rfl, rfl⟩⟩
  exact follows_turns cfg turns (fun _ => []) [] idle (fun _ _ member => nomatch member) start orderly

def asking (ipAddr : IpAddr) : List UInt8 := fetch (arpRequest ipAddr) 0 64

theorem length_some : 0 < 2 := by omega

theorem frame_some : 0 < 1596 := by omega

def wholeReads : Reads := ⟨2, 1596, length_some, frame_some⟩

def calmTurn (arrived : Nat → List (List UInt8)) (ready : Nat → Bool) (input : Option UserRead) : Turn :=
  ⟨arrived, ready, fun _ => wholeReads, fun _ => ⟨0, fun _ => 0⟩, fun _ => 0, fun _ => [], input⟩

def busyTurns : List Turn :=
  [calmTurn (fun i => if i = 0 then [asking (ipOctets 1 3 1 1), asking (ipOctets 1 4 1 1)]
      else if i = 2 then [asking (ipOctets 1 4 1 1)] else []) (fun i => i == 0 || i == 2) (some ⟨[], Nat.zero_le 1023⟩),
    calmTurn (fun i => if i = 0 then [asking (ipOctets 9 9 9 9)] else []) (fun i => i == 0) none]

theorem wire_filled (pipe frame : List UInt8) (frames : List (List UInt8)) : pipe ++ wire (frame :: frames) ≠ [] := by
  simp [wire, wireOctets, bytes16]

theorem busy_turns_orderly : Runs.Always (pollTurn mainConfig) Orderly idle busyTurns := by
  have asked (ipAddr : IpAddr) : 4 ≤ (asking ipAddr).length ∧ (asking ipAddr).length ≤ 1596 := by simp [asking]
  refine ⟨⟨fun i frame member => ?_, fun i ready => ?_, fun _ => ⟨Nat.le_refl 2, Nat.le_refl 1596⟩⟩,
    ⟨fun i frame member => ?_, fun i ready => ?_, fun _ => ⟨Nat.le_refl 2, Nat.le_refl 1596⟩⟩, trivial⟩
  · by_cases first : i = 0
    · simp only [calmTurn, if_pos first, List.mem_cons, List.not_mem_nil, or_false] at member
      cases member with
      | inl same => rw [same]; exact asked _
      | inr same => rw [same]; exact asked _
    · by_cases third : i = 2
      · simp only [calmTurn, if_neg first, if_pos third, List.mem_singleton] at member
        rw [member]
        exact asked _
      · simp only [calmTurn, if_neg first, if_neg third, List.not_mem_nil] at member
  · by_cases first : i = 0
    · simp only [arrive, calmTurn, if_pos first]
      exact wire_filled _ _ _
    · by_cases third : i = 2
      · simp only [arrive, calmTurn, if_neg first, if_pos third]
        exact wire_filled _ _ _
      · simp [calmTurn, first, third] at ready
  · by_cases first : i = 0
    · simp only [calmTurn, if_pos first, List.mem_singleton] at member
      rw [member]
      exact asked _
    · simp only [calmTurn, if_neg first, List.not_mem_nil] at member
  · have first : i = 0 := by simpa [calmTurn] using ready
    simp only [arrive, calmTurn, if_pos first]
    exact wire_filled _ _ _

theorem poll_loop_refines_busy : ∃ events,
    Follows mainConfig (fun i => busyTurns.flatMap fun turn => turn.arrived i) events
      (Runs.run (pollTurn mainConfig) idle busyTurns) ∧
    events.filterMap inputOf = busyTurns.filterMap Turn.input ∧
    ∀ i < mainConfig.interfaceList.length, (framesOn i events).length = busyTurns.countP fun turn => turn.ready i :=
  poll_loop_refines mainConfig busyTurns busy_turns_orderly

end OsiStack
