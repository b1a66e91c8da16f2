import OsiStack.BackoffRun

set_option autoImplicit false

namespace OsiStack

namespace BinaryExp

section
variable {n : Nat}

def Apart (s : State n) : Prop :=
  ∀ i j, (s.devices i).completed = 0 → (s.devices j).completed = 0 →
    (s.devices i).nextAttempt = (s.devices j).nextAttempt → i = j

theorem apart_quiet (s : State n) (apart : Apart s) : ¬ Collision s := by
  intro collision
  obtain ⟨i, sends, j, otherSends, differ⟩ := Finset.one_lt_card.mp collision
  rw [mem_transmitters, transmits_iff] at sends otherSends
  exact differ (apart i j sends.2 otherSends.2 (sends.1.trans otherSends.1.symm))

theorem apart_slot (s : State n) (apart : Apart s) (draws : Fin n → Option UInt32) (i : Fin n)
    (pending : ((slot s draws).devices i).completed = 0) : (slot s draws).devices i = s.devices i ∧ i ∉ transmitters s := by
  rw [slot_device, slotDevice, if_neg (apart_quiet s apart)] at pending ⊢
  by_cases sends : i ∈ transmitters s
  · rw [if_pos sends] at pending
    cases pending
  · rw [if_neg sends]
    exact ⟨rfl, sends⟩

theorem apart_slot_apart (s : State n) (apart : Apart s) (draws : Fin n → Option UInt32) : Apart (slot s draws) := by
  intro i j pending otherPending same
  have first := (apart_slot s apart draws i pending).1
  have second := (apart_slot s apart draws j otherPending).1
  rw [first, second] at same
  rw [first] at pending
  rw [second] at otherPending
  exact apart i j pending otherPending same

theorem quiet_in_range (s : State n) (quiet : ¬ Collision s) (draws : Fin n → Option UInt32) : InRange s draws :=
  fun _ i backs => absurd ((backs_off_iff s i).mp backs).2 quiet

theorem finished_no_overflow (s : State n) (finished : ¬ s.numberCompleted < n) (slots : List (Fin n → Option UInt32)) :
    Runs.Always step NoOverflow s slots := by
  induction slots with
  | nil => trivial
  | cons draws rest ih =>
      refine ⟨⟨fun active => absurd active finished, fun active => absurd active finished⟩, ?_⟩
      rw [step, if_neg finished]
      exact ih

theorem slot_counter (s : State n) (draws : Fin n → Option UInt32) (room : s.t.toNat + 1 < 2 ^ 32) :
    (slot s draws).t.toNat = s.t.toNat + 1 := by
  change (s.t + 1).toNat = s.t.toNat + 1
  rw [UInt32.toNat_add, UInt32.toNat_one]
  omega

theorem ends_behind (s : State n) (active : s.numberCompleted < n) (draws : Fin n → Option UInt32) (safe : NoOverflow s draws)
    (slots : List (Fin n → Option UInt32)) (result : UInt32) (ends : simulationLoop (slot s draws) slots = some result)
    (always : Runs.Always step NoOverflow (slot s draws) slots) :
    simulationLoop s (draws :: slots) = some result ∧ Runs.Always step NoOverflow s (draws :: slots) := by
  refine ⟨?_, safe, ?_⟩
  · rw [simulationLoop, if_pos active]
    exact ends
  · rw [step, if_pos active]
    exact always

theorem apart_ends (slots : List (Fin n → Option UInt32)) (s : State n) (counted : Counted s) (apart : Apart s)
    (ahead : ∀ i, (s.devices i).completed = 0 → s.t.toNat ≤ (s.devices i).nextAttempt.toNat ∧
      (s.devices i).nextAttempt.toNat < s.t.toNat + slots.length) (room : s.t.toNat + slots.length < 2 ^ 32) :
    ∃ result, simulationLoop s slots = some result ∧ result.toNat ≤ s.t.toNat + slots.length ∧
      Runs.Always step NoOverflow s slots := by
  induction slots generalizing s with
  | nil =>
      have finished : ¬ s.numberCompleted < n := by
        intro active
        obtain ⟨i, pending⟩ := (active_iff s counted).mp active
        obtain ⟨low, high⟩ := ahead i pending
        exact absurd high (Nat.not_lt.mpr low)
      exact ⟨s.t, by rw [simulationLoop, if_neg finished], Nat.le_refl _, trivial⟩
  | cons draws rest ih =>
      rw [List.length_cons] at ahead room ⊢
      by_cases active : s.numberCompleted < n
      · have counter := slot_counter s draws (by omega)
        obtain ⟨result, ends, bound, always⟩ := ih (slot s draws) (slot_counted s draws counted)
          (apart_slot_apart s apart draws) (fun i pending => by
            obtain ⟨same, silent⟩ := apart_slot s apart draws i pending
            rw [same] at pending ⊢
            obtain ⟨low, high⟩ := ahead i pending
            have later : (s.devices i).nextAttempt.toNat ≠ s.t.toNat := fun now =>
              silent ((mem_transmitters s i).mpr ((transmits_iff _ _).mpr ⟨UInt32.toNat_inj.mp now, pending⟩))
            omega) (by omega)
        have safe : NoOverflow s draws := ⟨quiet_in_range s (apart_quiet s apart) draws, fun _ => by omega⟩
        obtain ⟨whole, throughout⟩ := ends_behind s active draws safe rest result ends always
        exact ⟨result, whole, by omega, throughout⟩
      · exact ⟨s.t, by rw [simulationLoop, if_neg active], by omega, finished_no_overflow s active _⟩

structure Together (s : State n) (k : Nat) : Prop where
  clock : s.t.toNat = k
  pending : s.numberCompleted = 0
  doubled : AllDoubled s
  device : ∀ i, (s.devices i).completed = 0 ∧ (s.devices i).nextAttempt = s.t ∧ (s.devices i).currMax.toNat = k + 1

theorem together_initial : Together (initial n) 0 := ⟨rfl, rfl, initial_doubled, fun _ => ⟨rfl, rfl, rfl⟩⟩

theorem drawn_as_is (device : DeviceConfig) (doubled : Doubled device) (few : device.currMax.toNat ≤ 29) (buf : UInt32)
    (small : buf.toNat < 2 ^ device.currMax.toNat) : randGenerator 0 device.maxRange (some buf) = buf := by
  have bound : 2 ^ device.currMax.toNat ≤ 2 ^ 29 := Nat.pow_le_pow_right (by decide) few
  have range := doubled.range
  have modulus : (device.maxRange - 0 + 1).toNat = 2 ^ device.currMax.toNat := by
    rw [UInt32.sub_zero, UInt32.toNat_add, UInt32.toNat_one]
    omega
  apply UInt32.toNat_inj.mp
  rw [randGenerator, UInt32.zero_add, UInt32.toNat_mod, modulus]
  exact Nat.mod_eq_of_lt small

theorem together_no_overflow (s : State n) (k : Nat) (together : Together s k) (few : k ≤ 28) (draws : Fin n → Option UInt32) :
    NoOverflow s draws := by
  have clock := together.clock
  refine ⟨(in_range_iff s draws together.doubled).mpr fun _ i _ _ _ _ => ?_, fun _ => by omega⟩
  obtain ⟨-, -, count⟩ := together.device i
  omega

section
variable (several : 2 ≤ n) (s : State n) (k : Nat) (together : Together s k) (few : k ≤ 28)
include several together

theorem together_transmits : transmitters s = Finset.univ ∧ Collision s := by
  have all : transmitters s = Finset.univ := by
    refine Finset.eq_univ_iff_forall.mpr fun i => ?_
    obtain ⟨pending, now, -⟩ := together.device i
    exact (mem_transmitters s i).mpr ((transmits_iff _ _).mpr ⟨now, pending⟩)
  refine ⟨all, ?_⟩
  rw [Collision, all, Finset.card_univ, Fintype.card_fin]
  exact several

theorem together_device (draws : Fin n → Option UInt32) (i : Fin n) :
    (slot s draws).devices i = backOff s.t (draws i) (s.devices i) := by
  obtain ⟨all, collision⟩ := together_transmits several s k together
  rw [slot_device, slotDevice, all, if_pos (Finset.mem_univ i), if_pos collision]

include few

theorem together_drawn (buf : Fin n → UInt32) (small : ∀ i, (buf i).toNat < 2 ^ (k + 1)) (i : Fin n) :
    ((slot s fun i => some (buf i)).devices i).nextAttempt.toNat = k + 1 + (buf i).toNat := by
  obtain ⟨-, now, count⟩ := together.device i
  have range := back_off_in_range s.t (some (buf i)) (s.devices i) (together.doubled i) (by omega) now
  have drawn := drawn_as_is (s.devices i) (together.doubled i) (by omega) (buf i) (by rw [count]; exact small i)
  rw [together_device several s k together, back_off_attempt _ _ _ range, drawn, together.clock]
  omega

theorem together_again : Together (slot s fun _ => some 0) (k + 1) := by
  have clock := together.clock
  have counter := slot_counter s (fun _ => some 0) (by omega)
  have active : s.numberCompleted < n := by
    rw [together.pending]
    omega
  have stepped : step s (fun _ => some 0) = slot s fun _ => some 0 := if_pos active
  refine ⟨by omega, ?_, ?_, fun i => ?_⟩
  · rw [slot_number_completed, if_pos (together_transmits several s k together).2, together.pending]
  · rw [← stepped]
    exact step_doubled s _ together.doubled (together_no_overflow s k together few _).1
  · obtain ⟨pending, -, count⟩ := together.device i
    have due := together_drawn several s k together few (fun _ => 0) (fun _ => Nat.two_pow_pos _) i
    refine ⟨?_, UInt32.toNat_inj.mp (by rw [due, counter, clock]; rfl), ?_⟩
    · rw [together_device several s k together]
      exact pending
    · rw [together_device several s k together]
      change ((s.devices i).currMax + 1).toNat = k + 1 + 1
      rw [next_curr_max _ (by omega), count]

theorem together_apart (room : n ≤ 2 ^ (k + 1)) :
    Apart (slot s fun i => some (UInt32.ofNat i)) ∧
      ∀ i, ((slot s fun i => some (UInt32.ofNat i)).devices i).nextAttempt.toNat = k + 1 + i.val := by
  have bound : 2 ^ (k + 1) ≤ 2 ^ 29 := Nat.pow_le_pow_right (by decide) (by omega)
  have own (i : Fin n) : (UInt32.ofNat i.val).toNat = i.val := by
    have small := i.isLt
    rw [UInt32.toNat_ofNat']
    exact Nat.mod_eq_of_lt (by omega)
  have due (i : Fin n) : ((slot s fun i => some (UInt32.ofNat i)).devices i).nextAttempt.toNat = k + 1 + i.val := by
    have drawn := together_drawn several s k together few (fun i => UInt32.ofNat i.val) (fun i => by
      have small := i.isLt
      rw [own]
      omega) i
    rw [own] at drawn
    exact drawn
  refine ⟨fun i j _ _ same => ?_, due⟩
  have values := congrArg UInt32.toNat same
  rw [due, due] at values
  exact Fin.ext (by omega)

end

-- The devices draw alike until their range is wide enough for each to draw a slot of its own.
theorem together_ends (several : 2 ≤ n) (c more : Nat) (room : n ≤ 2 ^ c) (range : c ≤ 29) (s : State n) (k : Nat)
    (together : Together s k) (left : k + 1 + more = c) (counted : Counted s) :
    ∃ slots result, simulationLoop s slots = some result ∧ result.toNat ≤ n + c ∧ Runs.Always step NoOverflow s slots := by
  have bound : 2 ^ c ≤ 2 ^ 29 := Nat.pow_le_pow_right (by decide) range
  have few : k ≤ 28 := by omega
  have active : s.numberCompleted < n := by
    rw [together.pending]
    omega
  have safe := together_no_overflow s k together few
  induction more generalizing s k with
  | zero =>
      have counter := slot_counter s (fun i => some (UInt32.ofNat i)) ((safe fun _ => none).2 active)
      rw [together.clock] at counter
      obtain ⟨apart, due⟩ := together_apart several s k together few (by rw [show k + 1 = c by omega]; exact room)
      obtain ⟨result, ends, last, always⟩ := apart_ends (List.replicate n fun _ => none) _ (slot_counted s _ counted) apart
        (fun i _ => by
          have small := i.isLt
          rw [due, counter, List.length_replicate]
          omega) (by rw [counter, List.length_replicate]; omega)
      rw [counter, List.length_replicate] at last
      obtain ⟨whole, throughout⟩ := ends_behind s active _ (safe _) _ result ends always
      exact ⟨_, result, whole, by omega, throughout⟩
  | succ more ih =>
      have next := together_again several s k together few
      have active' : (slot s fun _ => some 0).numberCompleted < n := by
        rw [next.pending]
        omega
      obtain ⟨slots, result, ends, last, always⟩ := ih _ (k + 1) next (by omega) (slot_counted s _ counted) (by omega) active'
        (together_no_overflow _ (k + 1) next (by omega))
      obtain ⟨whole, throughout⟩ := ends_behind s active _ (safe _) slots result ends always
      exact ⟨_, result, whole, last, throughout⟩

theorem first_slot_pending (several : 2 ≤ n) (slots : List (Fin n → Option UInt32)) (begun : 0 < slots.length) (i : Fin n) :
    ((stateAt slots 1).devices i).completed = 0 := by
  have active : (initial n).numberCompleted < n := Nat.zero_lt_of_lt several
  have next := Runs.run_take_succ step (initial n) slots 0 begun
  change stateAt slots 1 = step (initial n) slots[0] at next
  rw [next, step, if_pos active, together_device several (initial n) 0 together_initial]
  rfl

theorem more_than_devices (several : 2 ≤ n) (slots : List (Fin n → Option UInt32)) (result : UInt32)
    (ends : simulation n slots = some result) (noOverflow : Runs.Always step NoOverflow (initial n) slots) :
    n + 1 ≤ result.toNat := by
  obtain ⟨length, loop, last⟩ := loop_result slots result ends
  have advances := state_advances slots length loop noOverflow
  have clock := Contention.slot_throughout (fun k => channel (stateAt slots k)) length advances rfl length (Nat.le_refl length)
  have total : result.toNat = length := last ▸ clock
  cases length with
  | zero => exact absurd (Nat.zero_lt_of_lt several) loop.finished
  | succ length =>
      have bound := Contention.card_le_length (fun k => channel (stateAt slots (k + 1))) length
        (fun k before => advances (k + 1) (Nat.succ_lt_succ before))
        (fun i => (pending_none _).not.mpr (not_not.mpr (first_slot_pending several slots (by have := loop.within; omega) i)))
        (fun i => (pending_none _).mpr (all_completed slots (length + 1) loop i))
      rw [Fintype.card_fin] at bound
      omega

end

theorem backoff_can_end (n c : Nat) (several : 2 ≤ n) (room : n ≤ 2 ^ c) (range : c ≤ 29) :
    (∀ (slots : List (Fin n → Option UInt32)) (result : UInt32), simulation n slots = some result →
      Runs.Always step NoOverflow (initial n) slots → n + 1 ≤ result.toNat) ∧
    ∃ (slots : List (Fin n → Option UInt32)) (result : UInt32), simulation n slots = some result ∧ result.toNat ≤ n + c ∧
      Runs.Always step NoOverflow (initial n) slots := by
  refine ⟨more_than_devices several, ?_⟩
  cases c with
  | zero => exact absurd room (by omega)
  | succ c => exact together_ends several (c + 1) c room range (initial n) 0 together_initial (by omega) initial_counted

theorem backoff_can_end_two : ∃ (slots : List (Fin 2 → Option UInt32)) (result : UInt32), simulation 2 slots = some result ∧
    result.toNat = 3 := by
  obtain ⟨least, slots, result, ends, most, always⟩ := backoff_can_end 2 1 (by decide) (by decide) (by decide)
  exact ⟨slots, result, ends, Nat.le_antisymm most (least slots result ends always)⟩

end BinaryExp

end OsiStack
