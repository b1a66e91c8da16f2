import OsiStack.Backoff

set_option autoImplicit false

namespace OsiStack

namespace BinaryExp

structure ArithmeticInRange (t : UInt32) (draw : Option UInt32) (device : DeviceConfig) : Prop where
  shift : (device.currMax + 1).toNat ≤ 30
  modulus : device.maxRange - 0 + 1 ≠ 0
  attempt : t.toNat + (randGenerator 0 device.maxRange draw).toNat + 1 < 2 ^ 32

instance decidableArithmetic (t : UInt32) (draw : Option UInt32) (device : DeviceConfig) :
    Decidable (ArithmeticInRange t draw device) :=
  decidable_of_iff ((device.currMax + 1).toNat ≤ 30 ∧ device.maxRange - 0 + 1 ≠ 0 ∧
      t.toNat + (randGenerator 0 device.maxRange draw).toNat + 1 < 2 ^ 32)
    ⟨fun parts => ⟨parts.1, parts.2.1, parts.2.2⟩, fun inRange => ⟨inRange.shift, inRange.modulus, inRange.attempt⟩⟩

structure Doubled (device : DeviceConfig) : Prop where
  shifts : device.currMax.toNat ≤ 30
  range : device.maxRange.toNat + 1 = 2 ^ device.currMax.toNat
  attempt : device.nextAttempt.toNat + 2 ≤ 2 ^ device.currMax.toNat

theorem one_shift (c : UInt32) (small : c.toNat ≤ 30) : ((1 : UInt32) <<< c).toNat = 2 ^ c.toNat := by
  have bound : 2 ^ c.toNat ≤ 2 ^ 30 := Nat.pow_le_pow_right (by decide) small
  have count : c.toNat % 32 = c.toNat := Nat.mod_eq_of_lt (by omega)
  rw [UInt32.toNat_shiftLeft, UInt32.toNat_one, count, Nat.shiftLeft_eq, Nat.one_mul]
  exact Nat.mod_eq_of_lt (by omega)

theorem rand_generator_le (max : UInt32) (draw : Option UInt32) (fits : max.toNat + 1 < 2 ^ 32) :
    (randGenerator 0 max draw).toNat ≤ max.toNat := by
  cases draw with
  | none => exact Nat.zero_le _
  | some buf =>
      have modulus : (max - 0 + 1).toNat = max.toNat + 1 := by
        rw [UInt32.sub_zero, UInt32.toNat_add, UInt32.toNat_one]
        omega
      have less : buf.toNat % (max.toNat + 1) < max.toNat + 1 := Nat.mod_lt _ (Nat.succ_pos _)
      rw [randGenerator, UInt32.zero_add, UInt32.toNat_mod, modulus]
      omega

theorem next_curr_max (device : DeviceConfig) (few : device.currMax.toNat ≤ 29) :
    (device.currMax + 1).toNat = device.currMax.toNat + 1 := by
  rw [UInt32.toNat_add, UInt32.toNat_one]
  omega

section
variable (t : UInt32) (draw : Option UInt32) (device : DeviceConfig)

theorem drawn_below (doubled : Doubled device) (few : device.currMax.toNat ≤ 29) :
    (randGenerator 0 device.maxRange draw).toNat + 1 ≤ 2 ^ device.currMax.toNat := by
  have bound : 2 ^ device.currMax.toNat ≤ 2 ^ 29 := Nat.pow_le_pow_right (by decide) few
  have range := doubled.range
  have drawn := rand_generator_le device.maxRange draw (by omega)
  omega

theorem back_off_in_range (doubled : Doubled device) (few : device.currMax.toNat ≤ 29) (now : device.nextAttempt = t) :
    ArithmeticInRange t draw device := by
  have bound : 2 ^ device.currMax.toNat ≤ 2 ^ 29 := Nat.pow_le_pow_right (by decide) few
  have range := doubled.range
  have attempt := doubled.attempt
  have drawn := drawn_below draw device doubled few
  rw [now] at attempt
  refine ⟨?_, ?_, by omega⟩
  · rw [next_curr_max device few]
    omega
  · intro wraps
    have zero := congrArg UInt32.toNat wraps
    rw [UInt32.sub_zero, UInt32.toNat_add, UInt32.toNat_one, UInt32.toNat_zero] at zero
    omega

theorem back_off_attempt (inRange : ArithmeticInRange t draw device) :
    (backOff t draw device).nextAttempt.toNat = t.toNat + (randGenerator 0 device.maxRange draw).toNat + 1 := by
  have sum := inRange.attempt
  simp only [backOff, UInt32.toNat_add, UInt32.toNat_one]
  omega

theorem back_off_doubled (doubled : Doubled device) (few : device.currMax.toNat ≤ 29) (now : device.nextAttempt = t) :
    Doubled (backOff t draw device) := by
  have attempt := doubled.attempt
  have drawn := drawn_below draw device doubled few
  have next := next_curr_max device few
  have double : 2 ^ (device.currMax.toNat + 1) = 2 * 2 ^ device.currMax.toNat := by
    rw [Nat.pow_succ, Nat.mul_comm]
  have shifted := one_shift (device.currMax + 1) (by omega)
  refine ⟨?_, ?_, ?_⟩
  · change (device.currMax + 1).toNat ≤ 30
    omega
  · change ((1 : UInt32) <<< (device.currMax + 1) - 1).toNat + 1 = 2 ^ (device.currMax + 1).toNat
    rw [UInt32.toNat_sub_of_le _ _ (by rw [UInt32.le_iff_toNat_le, shifted]; exact Nat.one_le_two_pow), shifted,
      UInt32.toNat_one]
    exact Nat.sub_add_cancel Nat.one_le_two_pow
  · rw [back_off_attempt t draw device (back_off_in_range t draw device doubled few now)]
    change _ ≤ 2 ^ (device.currMax + 1).toNat
    rw [now] at attempt
    rw [next, double]
    omega

end

section
variable {n : Nat}

def BacksOff (s : State n) (i : Fin n) : Prop :=
  let found := colDet s.devices s.t
  (s.devices i).completed = 0 ∧ (s.devices i).nextAttempt = s.t ∧ found.result = true ∧ deviceCol found.stored i = true

def InRange (s : State n) (draws : Fin n → Option UInt32) : Prop :=
  s.numberCompleted < n → ∀ i, BacksOff s i → ArithmeticInRange s.t (draws i) (s.devices i)

instance decidableBacksOff (s : State n) (i : Fin n) : Decidable (BacksOff s i) :=
  inferInstanceAs (Decidable (_ = _ ∧ _ = _ ∧ _ = _ ∧ _ = _))

instance decidableInRange (s : State n) (draws : Fin n → Option UInt32) : Decidable (InRange s draws) :=
  have : Decidable (∀ i, BacksOff s i → ArithmeticInRange s.t (draws i) (s.devices i)) := Nat.decidableForallFin _
  inferInstanceAs (Decidable (_ → _))

-- curr_max counts from 1, so none of two or more that transmit has collided 29 times before.
def FewCollisions (s : State n) (_ : Fin n → Option UInt32) : Prop :=
  s.numberCompleted < n → ∀ i other, i ≠ other → transmits (s.devices i) s.t = true → transmits (s.devices other) s.t = true →
    (s.devices i).currMax.toNat ≤ 29

theorem backs_off_iff (s : State n) (i : Fin n) : BacksOff s i ↔ i ∈ transmitters s ∧ Collision s := by
  constructor
  · rintro ⟨pending, now, result, -⟩
    refine ⟨(mem_transmitters s i).mpr ((transmits_iff _ _).mpr ⟨now, pending⟩), ?_⟩
    by_cases collision : Collision s
    · exact collision
    · rw [col_det_quiet s collision] at result
      cases result
  · rintro ⟨sends, collision⟩
    obtain ⟨now, pending⟩ := (transmits_iff _ _).mp ((mem_transmitters s i).mp sends)
    obtain ⟨result, found⟩ := col_det_collision s collision
    exact ⟨pending, now, result, (found i).mpr sends⟩

theorem collision_iff (s : State n) (i : Fin n) (sends : i ∈ transmitters s) :
    Collision s ↔ ∃ other, i ≠ other ∧ other ∈ transmitters s := by
  rw [Collision, Nat.succ_le_iff, Finset.one_lt_card]
  constructor
  · rintro ⟨first, firstSends, second, secondSends, differ⟩
    by_cases same : i = first
    · exact ⟨second, same ▸ differ, secondSends⟩
    · exact ⟨first, same, firstSends⟩
  · rintro ⟨other, differ, otherSends⟩
    exact ⟨i, sends, other, otherSends, differ⟩

theorem few_collisions_iff (s : State n) (draws : Fin n → Option UInt32) :
    FewCollisions s draws ↔ (s.numberCompleted < n → ∀ i, BacksOff s i → (s.devices i).currMax.toNat ≤ 29) := by
  refine forall_congr' fun _ => forall_congr' fun i => ?_
  rw [backs_off_iff]
  constructor
  · rintro few ⟨sends, collision⟩
    obtain ⟨other, differ, otherSends⟩ := (collision_iff s i sends).mp collision
    exact few other differ ((mem_transmitters s i).mp sends) ((mem_transmitters s other).mp otherSends)
  · intro few other differ sends otherSends
    have member := (mem_transmitters s i).mpr sends
    exact few ⟨member, (collision_iff s i member).mpr ⟨other, differ, (mem_transmitters s other).mpr otherSends⟩⟩

def AllDoubled (s : State n) : Prop := ∀ i, Doubled (s.devices i)

theorem initial_doubled : AllDoubled (initial n) := by
  intro i
  change Doubled { maxRange := 1, nextAttempt := 0, completed := 0, currMax := 1 }
  exact ⟨by decide, by decide, by decide⟩

theorem in_range_iff (s : State n) (draws : Fin n → Option UInt32) (doubled : AllDoubled s) :
    InRange s draws ↔ FewCollisions s draws := by
  rw [few_collisions_iff]
  refine forall_congr' fun _ => forall_congr' fun i => forall_congr' fun backs => ?_
  constructor
  · intro inRange
    have shift := inRange.shift
    have shifts := (doubled i).shifts
    rw [UInt32.toNat_add, UInt32.toNat_one] at shift
    omega
  · intro few
    exact back_off_in_range s.t (draws i) (s.devices i) (doubled i) few backs.2.1

theorem step_doubled (s : State n) (draws : Fin n → Option UInt32) (doubled : AllDoubled s) (inRange : InRange s draws) :
    AllDoubled (step s draws) := by
  by_cases active : s.numberCompleted < n
  · have few := (few_collisions_iff s draws).mp ((in_range_iff s draws doubled).mp inRange) active
    intro i
    rw [step, if_pos active, slot_device, slotDevice]
    by_cases sends : i ∈ transmitters s
    · rw [if_pos sends]
      by_cases collision : Collision s
      · have backs := (backs_off_iff s i).mpr ⟨sends, collision⟩
        rw [if_pos collision]
        exact back_off_doubled s.t (draws i) (s.devices i) (doubled i) (few i backs) backs.2.1
      · rw [if_neg collision]
        exact ⟨(doubled i).shifts, (doubled i).range, (doubled i).attempt⟩
    · rw [if_neg sends]
      exact doubled i
  · rw [step, if_neg active]
    exact doubled

end

theorem backoff_arithmetic (n : Nat) (slots : List (Fin n → Option UInt32)) :
    Runs.Always step InRange (initial n) slots ↔ Runs.Always step FewCollisions (initial n) slots := by
  constructor
  · exact Runs.always_of_invariant step AllDoubled InRange FewCollisions step_doubled
      (fun s draws doubled => (in_range_iff s draws doubled).mp) (initial n) slots initial_doubled
  · exact Runs.always_of_invariant step AllDoubled FewCollisions InRange
      (fun s draws doubled few => step_doubled s draws doubled ((in_range_iff s draws doubled).mpr few))
      (fun s draws doubled => (in_range_iff s draws doubled).mpr) (initial n) slots initial_doubled

def lockstep (t : UInt32) : State 2 :=
  ⟨t, 0, fun _ => { maxRange := (1 <<< (t + 1)) - 1, nextAttempt := t, completed := 0, currMax := t + 1 }⟩

theorem lockstep_transmitters (t : UInt32) : transmitters (lockstep t) = Finset.univ := by
  ext i
  rw [mem_transmitters, transmits_iff]
  simp [lockstep]

theorem lockstep_collision (t : UInt32) : Collision (lockstep t) := by
  rw [Collision, lockstep_transmitters]
  decide

theorem lockstep_step (t : UInt32) : step (lockstep t) (fun _ => some 0) = lockstep (t + 1) := by
  have completed := slot_number_completed (lockstep t) fun _ => some 0
  rw [if_pos (lockstep_collision t)] at completed
  have devices : (slot (lockstep t) fun _ => some 0).devices = (lockstep (t + 1)).devices := by
    funext i
    rw [slot_device, slotDevice, lockstep_transmitters, if_pos (Finset.mem_univ i), if_pos (lockstep_collision t)]
    simp [backOff, lockstep, randGenerator]
  have active : (lockstep t).numberCompleted < 2 := Nat.two_pos
  rw [step, if_pos active]
  exact State.ext rfl completed devices

theorem lockstep_run (t : UInt32) (k : Nat) :
    Runs.run step (lockstep t) (List.replicate k fun _ => some 0) = lockstep (t + UInt32.ofNat k) := by
  induction k generalizing t with
  | zero => exact congrArg lockstep (UInt32.add_zero t).symm
  | succ k ih =>
      rw [List.replicate_succ, Runs.run_cons, lockstep_step, ih, UInt32.add_assoc, UInt32.ofNat_add, UInt32.add_comm 1]
      rfl

theorem thirtieth_collision : ¬ Runs.Always step InRange (initial 2) (List.replicate 30 fun _ => some 0) := by
  intro always
  have last := Runs.always_at step InRange (initial 2) (List.replicate 29 fun _ => some 0) (fun _ => some 0) [] always
  have start : initial 2 = lockstep 0 := rfl
  rw [start, lockstep_run, UInt32.zero_add] at last
  have backs := (backs_off_iff _ 0).mpr
    ⟨(lockstep_transmitters (UInt32.ofNat 29)).symm ▸ Finset.mem_univ (0 : Fin 2), lockstep_collision (UInt32.ofNat 29)⟩
  have shift := (last Nat.two_pos 0 backs).shift
  exact absurd shift (by decide)

end BinaryExp

end OsiStack
