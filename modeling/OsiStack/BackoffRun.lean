import OsiStack.BackoffRange
import OsiStack.Contention

set_option autoImplicit false

namespace OsiStack

namespace BinaryExp

def NoOverflow {n : Nat} (s : State n) (draws : Fin n → Option UInt32) : Prop :=
  InRange s draws ∧ (s.numberCompleted < n → s.t.toNat + 1 < 2 ^ 32)

instance decidableNoOverflow {n : Nat} (s : State n) (draws : Fin n → Option UInt32) : Decidable (NoOverflow s draws) :=
  inferInstanceAs (Decidable (_ ∧ (_ → _)))

def pendingAttempt (device : DeviceConfig) : Option Nat :=
  if device.completed = 0 then some device.nextAttempt.toNat else none

def channel {n : Nat} (s : State n) : Contention.State (Fin n) := ⟨s.t.toNat, fun i => pendingAttempt (s.devices i)⟩

theorem pending_none (device : DeviceConfig) : pendingAttempt device = none ↔ device.completed ≠ 0 := by
  unfold pendingAttempt
  split <;> simp_all

theorem pending_some (device : DeviceConfig) (due : Nat) :
    pendingAttempt device = some due ↔ device.completed = 0 ∧ device.nextAttempt.toNat = due := by
  unfold pendingAttempt
  split <;> simp_all

section
variable {n : Nat}

theorem attempts_iff (s : State n) (i : Fin n) : Contention.Attempts (channel s) i ↔ i ∈ transmitters s := by
  rw [mem_transmitters, transmits_iff, Contention.Attempts]
  change pendingAttempt (s.devices i) = some s.t.toNat ↔ _
  rw [pending_some, UInt32.toNat_inj, and_comm]

theorem slot_advances (s : State n) (draws : Fin n → Option UInt32) (active : s.numberCompleted < n)
    (noOverflow : NoOverflow s draws) : Contention.Advance (channel s) (channel (slot s draws)) where
  slot := by
    have counter := noOverflow.2 active
    change (s.t + 1).toNat = s.t.toNat + 1
    rw [UInt32.toNat_add, UInt32.toNat_one]
    omega
  silent i silent := by
    rw [attempts_iff] at silent
    change pendingAttempt ((slot s draws).devices i) = pendingAttempt (s.devices i)
    rw [slot_device, slotDevice, if_neg silent]
  alone i attempt sole := by
    rw [attempts_iff] at attempt
    have quiet : ¬ Collision s := by
      intro collision
      obtain ⟨other, differ, contends⟩ := (collision_iff s i attempt).mp collision
      exact differ (sole other ((attempts_iff s other).mpr contends)).symm
    change pendingAttempt ((slot s draws).devices i) = none
    rw [slot_device, slotDevice, if_pos attempt, if_neg quiet]
    rfl
  collided i other attempt contends differ := by
    rw [attempts_iff] at attempt contends
    have collision := (collision_iff s i attempt).mpr ⟨other, differ.symm, contends⟩
    have backs := (backs_off_iff s i).mpr ⟨attempt, collision⟩
    have next := back_off_attempt s.t (draws i) (s.devices i) (noOverflow.1 active i backs)
    refine ⟨_, (pending_some _ _).mpr ⟨?_, rfl⟩, ?_⟩
    · rw [slot_device, slotDevice, if_pos attempt, if_pos collision]
      exact backs.1
    · rw [slot_device, slotDevice, if_pos attempt, if_pos collision, next]
      change s.t.toNat < _
      omega

def completed (s : State n) : Finset (Fin n) := Finset.univ.filter fun i => (s.devices i).completed ≠ 0

def Counted (s : State n) : Prop := s.numberCompleted = (completed s).card

theorem mem_completed (s : State n) (i : Fin n) : i ∈ completed s ↔ (s.devices i).completed ≠ 0 := by
  simp [completed]

theorem initial_counted : Counted (initial n) := by
  have empty : completed (initial n) = ∅ := by
    ext i
    simp [mem_completed, initial]
  rw [Counted, empty, Finset.card_empty]
  rfl

theorem transmitter_pending (s : State n) (i : Fin n) (sends : i ∈ transmitters s) : i ∉ completed s := by
  rw [mem_completed, not_not]
  exact ((transmits_iff _ _).mp ((mem_transmitters s i).mp sends)).2

theorem slot_completed (s : State n) (draws : Fin n → Option UInt32) :
    completed (slot s draws) = completed s ∪ if Collision s then ∅ else transmitters s := by
  ext i
  rw [mem_completed, slot_device, slotDevice, Finset.mem_union, mem_completed]
  by_cases sends : i ∈ transmitters s
  · have pending := (mem_completed s i).not.mp (transmitter_pending s i sends)
    by_cases collision : Collision s
    · simp only [sends, collision, if_true, Finset.notMem_empty, or_false]
      rfl
    · simp [sends, collision]
  · by_cases collision : Collision s <;> simp [sends, collision]

theorem slot_counted (s : State n) (draws : Fin n → Option UInt32) (counted : Counted s) : Counted (slot s draws) := by
  rw [Counted, slot_number_completed, slot_completed, counted]
  by_cases collision : Collision s
  · rw [if_pos collision, if_pos collision, Finset.union_empty, Nat.add_zero]
  · have apart : Disjoint (completed s) (transmitters s) :=
      Finset.disjoint_right.mpr fun i sends => transmitter_pending s i sends
    rw [if_neg collision, if_neg collision, Finset.card_union_of_disjoint apart]

theorem step_counted (s : State n) (draws : Fin n → Option UInt32) (counted : Counted s) : Counted (step s draws) := by
  by_cases active : s.numberCompleted < n
  · rw [step, if_pos active]
    exact slot_counted s draws counted
  · rw [step, if_neg active]
    exact counted

theorem active_iff (s : State n) (counted : Counted s) : s.numberCompleted < n ↔ ∃ i, (s.devices i).completed = 0 := by
  have bound := (completed s).card_le_univ
  have full := Finset.card_eq_iff_eq_univ (completed s)
  rw [Fintype.card_fin] at bound full
  rw [counted, Nat.lt_iff_le_and_ne, and_iff_right bound, Ne, full, Finset.eq_univ_iff_forall, not_forall]
  exact exists_congr fun i => by rw [mem_completed, not_not]

theorem finished_run (s : State n) (slots : List (Fin n → Option UInt32)) (finished : ¬ s.numberCompleted < n) :
    Runs.run step s slots = s := by
  induction slots with
  | nil => rfl
  | cons draws rest ih => rw [Runs.run_cons, step, if_neg finished, ih]

theorem simulation_loop_ends (s : State n) (slots : List (Fin n → Option UInt32)) (result : UInt32)
    (ends : simulationLoop s slots = some result) :
    ∃ length, length ≤ slots.length ∧ (∀ k, k < length → (Runs.run step s (slots.take k)).numberCompleted < n) ∧
      ¬ (Runs.run step s (slots.take length)).numberCompleted < n ∧ (Runs.run step s (slots.take length)).t = result := by
  induction slots generalizing s with
  | nil =>
      rw [simulationLoop] at ends
      split at ends
      · cases ends
      · rename_i finished
        cases ends
        exact ⟨0, Nat.le_refl 0, fun k before => absurd before (Nat.not_lt_zero k), finished, rfl⟩
  | cons draws rest ih =>
      rw [simulationLoop] at ends
      split at ends
      · rename_i active
        obtain ⟨length, within, before, finished, at_end⟩ := ih (slot s draws) ends
        have first : step s draws = slot s draws := if_pos active
        refine ⟨length + 1, Nat.succ_le_succ within, ?_, ?_, ?_⟩
        · intro k inside
          cases k with
          | zero => exact active
          | succ k =>
              rw [List.take_succ_cons, Runs.run_cons, first]
              exact before k (Nat.lt_of_succ_lt_succ inside)
        · rw [List.take_succ_cons, Runs.run_cons, first]
          exact finished
        · rw [List.take_succ_cons, Runs.run_cons, first]
          exact at_end
      · rename_i finished
        cases ends
        exact ⟨0, Nat.zero_le _, fun k before => absurd before (Nat.not_lt_zero k), finished, rfl⟩

def stateAt (slots : List (Fin n → Option UInt32)) (k : Nat) : State n := Runs.run step (initial n) (slots.take k)

def CompletesAt (slots : List (Fin n → Option UInt32)) (k : Nat) (i : Fin n) : Prop :=
  ((stateAt slots k).devices i).completed = 0 ∧ ((stateAt slots (k + 1)).devices i).completed ≠ 0

structure ExclusiveComplete (slots : List (Fin n → Option UInt32)) (result : UInt32) : Prop where
  onTime : ∀ k, (stateAt slots k).numberCompleted < n → (stateAt slots k).t.toNat = k ∧
    ∀ i, ((stateAt slots k).devices i).completed = 0 → (stateAt slots k).t ≤ ((stateAt slots k).devices i).nextAttempt
  exclusive : ∀ k i j, CompletesAt slots k i → CompletesAt slots k j → i = j
  once : ∀ i, ∃! k, CompletesAt slots k i
  last : ∃ last, (∃ i, CompletesAt slots last i) ∧ (∀ k i, CompletesAt slots k i → k ≤ last) ∧ result.toNat = last + 1
  enough : n ≤ result.toNat

structure Loop (slots : List (Fin n → Option UInt32)) (length : Nat) : Prop where
  within : length ≤ slots.length
  active : ∀ k, k < length → (stateAt slots k).numberCompleted < n
  finished : ¬ (stateAt slots length).numberCompleted < n

section
variable (slots : List (Fin n → Option UInt32)) (length : Nat) (loop : Loop slots length)

theorem state_counted (k : Nat) : Counted (stateAt slots k) :=
  Runs.run_invariant step Counted step_counted _ _ initial_counted

include loop

theorem state_after (k : Nat) (after : length ≤ k) : stateAt slots k = stateAt slots length := by
  obtain ⟨more, rfl⟩ := Nat.exists_eq_add_of_le after
  rw [stateAt, List.take_add, Runs.run_append]
  exact finished_run _ _ loop.finished

theorem active_before (k : Nat) (active : (stateAt slots k).numberCompleted < n) : k < length := by
  by_contra after
  rw [state_after slots length loop k (Nat.le_of_not_lt after)] at active
  exact loop.finished active

theorem all_completed (i : Fin n) : ((stateAt slots length).devices i).completed ≠ 0 := fun pending =>
  loop.finished ((active_iff _ (state_counted slots length)).mpr ⟨i, pending⟩)

theorem state_advances (noOverflow : Runs.Always step NoOverflow (initial n) slots) (k : Nat) (before : k < length) :
    Contention.Advance (channel (stateAt slots k)) (channel (stateAt slots (k + 1))) := by
  have within := Nat.lt_of_lt_of_le before loop.within
  have next := Runs.run_take_succ step (initial n) slots k within
  have active := loop.active k before
  change stateAt slots (k + 1) = step (stateAt slots k) slots[k] at next
  rw [next, step, if_pos active]
  exact slot_advances _ _ active (Runs.always_get step NoOverflow (initial n) slots noOverflow k within)

theorem completes_iff (k : Nat) (i : Fin n) :
    CompletesAt slots k i ↔ k < length ∧
      Contention.Finishes (channel (stateAt slots k)) (channel (stateAt slots (k + 1))) i := by
  have finishes : CompletesAt slots k i ↔
      Contention.Finishes (channel (stateAt slots k)) (channel (stateAt slots (k + 1))) i := by
    change _ ↔ pendingAttempt _ ≠ none ∧ pendingAttempt _ = none
    rw [Ne, pending_none, pending_none, not_not]
    rfl
  rw [← finishes]
  refine ⟨fun completes => ⟨?_, completes⟩, And.right⟩
  by_contra after
  rw [CompletesAt, state_after slots length loop k (Nat.le_of_not_lt after),
    state_after slots length loop (k + 1) (Nat.le_succ_of_le (Nat.le_of_not_lt after))] at completes
  exact completes.2 completes.1

end

theorem initial_pending (slots : List (Fin n → Option UInt32)) (i : Fin n) : (channel (stateAt slots 0)).due i = some 0 := by
  rw [stateAt, List.take_zero]
  rfl

theorem state_on_time (slots : List (Fin n → Option UInt32)) (length : Nat) (loop : Loop slots length)
    (noOverflow : Runs.Always step NoOverflow (initial n) slots) (k : Nat) (before : k < length) (i : Fin n)
    (pending : ((stateAt slots k).devices i).completed = 0) :
    (stateAt slots k).t ≤ ((stateAt slots k).devices i).nextAttempt := by
  have early : Contention.OnTime (channel (stateAt slots 0)) := by
    intro device due _
    rw [stateAt, List.take_zero]
    exact Nat.zero_le due
  have onTime := Contention.on_time_throughout (fun k => channel (stateAt slots k)) length
    (state_advances slots length loop noOverflow) early k (Nat.le_of_lt before)
  exact UInt32.le_iff_toNat_le.mpr (onTime i _ ((pending_some _ _).mpr ⟨pending, rfl⟩))

theorem loop_result (slots : List (Fin n → Option UInt32)) (result : UInt32) (ends : simulation n slots = some result) :
    ∃ length, Loop slots length ∧ (stateAt slots length).t = result := by
  obtain ⟨length, within, active, finished, at_end⟩ := simulation_loop_ends (initial n) slots result ends
  exact ⟨length, ⟨within, active, finished⟩, at_end⟩

end

theorem backoff_exclusive_complete (n : Nat) (positive : 1 ≤ n) (slots : List (Fin n → Option UInt32)) (result : UInt32)
    (ends : simulation n slots = some result) (noOverflow : Runs.Always step NoOverflow (initial n) slots) :
    ExclusiveComplete slots result := by
  obtain ⟨length, loop, at_end⟩ := loop_result slots result ends
  have advances := state_advances slots length loop noOverflow
  have pending (i : Fin n) : (channel (stateAt slots 0)).due i ≠ none := by
    rw [initial_pending]
    exact Option.some_ne_none 0
  have done (i : Fin n) : (channel (stateAt slots length)).due i = none :=
    (pending_none _).mpr (all_completed slots length loop i)
  have clock := Contention.slot_throughout (fun k => channel (stateAt slots k)) length advances rfl
  have total : result.toNat = length := at_end ▸ clock length (Nat.le_refl length)
  have bound := Contention.card_le_length (fun k => channel (stateAt slots k)) length advances pending done
  rw [Fintype.card_fin] at bound
  refine ⟨fun k active => ?_, fun k i j first second => ?_, fun i => ?_, ?_, by omega⟩
  · have before := active_before slots length loop k active
    exact ⟨clock k (Nat.le_of_lt before), state_on_time slots length loop noOverflow k before⟩
  · rw [completes_iff slots length loop] at first second
    exact Contention.finishes_exclusive _ _ (advances k first.1) i j first.2 second.2
  · simp only [completes_iff slots length loop]
    exact Contention.finishes_exactly_once (fun k => channel (stateAt slots k)) length advances i (pending i) (done i)
  · obtain ⟨last, rfl⟩ := Nat.exists_eq_add_of_le' (Nat.le_trans positive bound)
    obtain ⟨i, waiting⟩ := (active_iff _ (state_counted slots last)).mp (loop.active last (Nat.lt_succ_self last))
    refine ⟨last, ⟨i, waiting, all_completed slots (last + 1) loop i⟩, fun k j completes => ?_, total⟩
    exact Nat.le_of_lt_succ ((completes_iff slots (last + 1) loop k j).mp completes).1

theorem backoff_two_devices :
    ExclusiveComplete (n := 2) [fun i => some (UInt32.ofNat i), fun _ => none, fun _ => none] 3 :=
  backoff_exclusive_complete 2 (by decide) _ 3 (by decide +kernel) (by decide +kernel)

end BinaryExp

end OsiStack
