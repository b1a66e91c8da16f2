import OsiStack.EthernetStudy

set_option autoImplicit false

namespace OsiStack

namespace BinaryExp

section
variable {n : Nat}

def step (s : State n) (draws : Fin n → Option UInt32) : State n :=
  if s.numberCompleted < n then slot s draws else s

def transmitters (s : State n) : Finset (Fin n) := Finset.univ.filter fun i => transmits (s.devices i) s.t = true

def Collision (s : State n) : Prop := 2 ≤ (transmitters s).card

instance decidableCollision (s : State n) : Decidable (Collision s) := inferInstanceAs (Decidable (2 ≤ _))

theorem mem_transmitters (s : State n) (i : Fin n) : i ∈ transmitters s ↔ transmits (s.devices i) s.t = true := by
  simp [transmitters]

theorem transmits_iff (device : DeviceConfig) (t : UInt32) :
    transmits device t = true ↔ device.nextAttempt = t ∧ device.completed = 0 := by
  simp [transmits]

theorem count_transmitting (s : State n) :
    ((List.finRange n).countP fun i => transmits (s.devices i) s.t) = (transmitters s).card := by
  have count := Sweep.count_cells fun i => transmits (s.devices i) s.t = true
  simp only [Bool.decide_eq_true] at count
  exact count

theorem col_det_quiet (s : State n) (quiet : ¬ Collision s) : (colDet s.devices s.t).result = false := by
  have few : ¬ 2 ≤ (transmitters s).card := quiet
  rw [colDet, count_transmitting, if_neg few]

theorem col_det_collision (s : State n) (collision : Collision s) :
    (colDet s.devices s.t).result = true ∧
      ∀ i, deviceCol (colDet s.devices s.t).stored i = true ↔ i ∈ transmitters s := by
  have many : 2 ≤ (transmitters s).card := collision
  rw [colDet, count_transmitting, if_pos many]
  refine ⟨rfl, fun i => ?_⟩
  simp [device_col_iff, mem_transmitters]

def slotDevice (s : State n) (draws : Fin n → Option UInt32) (i : Fin n) : DeviceConfig :=
  if i ∈ transmitters s then
    if Collision s then backOff s.t (draws i) (s.devices i) else { s.devices i with completed := 1 }
  else s.devices i

theorem visit_transmitter (s : State n) (draws : Fin n → Option UInt32) (i : Fin n) (numberCompleted : Nat)
    (sends : i ∈ transmitters s) :
    visit s.t (colDet s.devices s.t) draws i (s.devices i) numberCompleted =
      if Collision s then (backOff s.t (draws i) (s.devices i), numberCompleted)
      else ({ s.devices i with completed := 1 }, numberCompleted + 1) := by
  obtain ⟨now, pending⟩ := (transmits_iff _ _).mp ((mem_transmitters s i).mp sends)
  have awake : ¬ (s.devices i).completed ≠ 0 := fun done => done pending
  rw [visit, if_neg awake, if_pos now]
  by_cases collision : Collision s
  · obtain ⟨result, found⟩ := col_det_collision s collision
    have listed := (found i).mpr sends
    rw [if_pos result, if_pos listed, if_pos collision]
  · have result := col_det_quiet s collision
    simp only [result, Bool.false_eq_true, if_false, if_neg collision]

theorem visit_silent (s : State n) (draws : Fin n → Option UInt32) (i : Fin n) (numberCompleted : Nat)
    (silent : i ∉ transmitters s) :
    visit s.t (colDet s.devices s.t) draws i (s.devices i) numberCompleted = (s.devices i, numberCompleted) := by
  rw [visit]
  by_cases done : (s.devices i).completed ≠ 0
  · rw [if_pos done]
  · rw [if_neg done, if_neg]
    intro now
    exact silent ((mem_transmitters s i).mpr ((transmits_iff _ _).mpr ⟨now, not_not.mp done⟩))

theorem slot_device (s : State n) (draws : Fin n → Option UInt32) (i : Fin n) :
    (slot s draws).devices i = slotDevice s draws i := by
  refine Sweep.sweep_cell _ (slotDevice s draws) s.devices (fun i numberCompleted => ?_) s.numberCompleted i
  by_cases sends : i ∈ transmitters s
  · rw [visit_transmitter s draws i numberCompleted sends, slotDevice, if_pos sends]
    by_cases collision : Collision s
    · rw [if_pos collision, if_pos collision]
    · rw [if_neg collision, if_neg collision]
  · rw [visit_silent s draws i numberCompleted sends, slotDevice, if_neg sends]

theorem slot_number_completed (s : State n) (draws : Fin n → Option UInt32) :
    (slot s draws).numberCompleted = s.numberCompleted + if Collision s then 0 else (transmitters s).card := by
  change (Sweep.sweep _ _ _).2 = _
  rw [Sweep.sweep_carried]
  have gains (carried : Nat) (i : Fin n) :
      (visit s.t (colDet s.devices s.t) draws i (s.devices i) carried).2 =
        carried + if i ∈ transmitters s ∧ ¬ Collision s then 1 else 0 := by
    by_cases sends : i ∈ transmitters s
    · rw [visit_transmitter s draws i carried sends]
      by_cases collision : Collision s <;> simp [sends, collision]
    · simp [visit_silent s draws i carried sends, sends]
  have total := Sweep.measured_cells _ id _ gains s.numberCompleted
  by_cases collision : Collision s
  · rw [if_pos collision]
    simpa [collision] using total
  · rw [if_neg collision]
    simpa [collision] using total

end

end BinaryExp

end OsiStack
