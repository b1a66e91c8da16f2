import OsiStack.Verdicts

set_option autoImplicit false

namespace OsiStack

section
variable {n : Nat}

def Tally.succeeding (tally : Tally) : Tally :=
  { tally with attempted := tally.attempted + 1, successful := tally.successful + 1 }

def Tally.failing (tally : Tally) : Tally := { tally with attempted := tally.attempted + 1, failed := tally.failed + 1 }

def verdict (devices : Fin n → DeviceConfig) (wins : Fin n → Prop) [DecidablePred wins] (tally : Tally) (i : Fin n) : Tally :=
  if Sends devices i then if wins i then tally.succeeding else tally.failing else tally

def Tally.plus (tally slot : Tally) : Tally :=
  ⟨tally.attempted + slot.attempted, tally.successful + slot.successful, tally.failed + slot.failed⟩

def Tally.Balanced (tally : Tally) : Prop := tally.attempted = tally.successful + tally.failed

theorem plus_balanced (tally slot : Tally) (before : tally.Balanced) (more : slot.Balanced) : (tally.plus slot).Balanced := by
  simp only [Tally.Balanced, Tally.plus] at before more ⊢
  omega

def slotTally (devices : Fin n → DeviceConfig) (wins : Fin n → Prop) [DecidablePred wins] : Tally :=
  ⟨(senders devices).card, ((senders devices).filter wins).card, ((senders devices).filter fun i => ¬ wins i).card⟩

section
variable (devices : Fin n → DeviceConfig) (wins : Fin n → Prop) [DecidablePred wins]

theorem verdict_balanced (tally : Tally) (balanced : tally.Balanced) (i : Fin n) :
    (verdict devices wins tally i).Balanced := by
  unfold verdict
  split
  · split <;> simp only [Tally.Balanced, Tally.succeeding, Tally.failing] at balanced ⊢ <;> omega
  · exact balanced

theorem verdict_attempted (tally : Tally) (i : Fin n) :
    (verdict devices wins tally i).attempted = tally.attempted + if Sends devices i then 1 else 0 := by
  unfold verdict
  split
  · split <;> rfl
  · rfl

theorem slot_balanced : (slotTally devices wins).Balanced := by
  have parts := Finset.card_filter_add_card_filter_not wins (s := senders devices)
  exact parts.symm

theorem verdict_slot (tally : Tally) :
    Runs.run (verdict devices wins) tally (List.finRange n) = tally.plus (slotTally devices wins) := by
  have gains (tally : Tally) (i : Fin n) :
      (verdict devices wins tally i).successful = tally.successful + (if Sends devices i ∧ wins i then 1 else 0) ∧
      (verdict devices wins tally i).failed = tally.failed + if Sends devices i ∧ ¬ wins i then 1 else 0 := by
    rw [verdict]
    by_cases sends : Sends devices i
    · by_cases win : wins i <;> simp [sends, win, Tally.succeeding, Tally.failing]
    · simp [sends]
  have attempted := Sweep.measured_cells _ Tally.attempted (verdict devices wins) (verdict_attempted devices wins) tally
  have successful := Sweep.measured_cells _ Tally.successful (verdict devices wins) (fun tally i => (gains tally i).1) tally
  have failed := Sweep.measured_cells _ Tally.failed (verdict devices wins) (fun tally i => (gains tally i).2) tally
  rw [← Finset.filter_filter] at successful failed
  exact Tally.ext attempted successful failed

end

def Chosen {Draws : Type} (choose : (Fin n → DeviceConfig) → Draws → Option (Fin n → DeviceConfig)) :
    (Fin n → DeviceConfig) → List Draws → List (Fin n → DeviceConfig) → Prop
  | _, [], configs => configs = []
  | devices, draws :: rest, configs =>
      ∃ chosen later, configs = chosen :: later ∧ choose devices draws = some chosen ∧ Chosen choose chosen rest later

theorem chosen_replicate {Draws : Type} (choose : (Fin n → DeviceConfig) → Draws → Option (Fin n → DeviceConfig))
    (devices config : Fin n → DeviceConfig) (draws : Draws) (length : Nat) (first : choose devices draws = some config)
    (again : choose config draws = some config) :
    Chosen choose devices (List.replicate length draws) (List.replicate length config) := by
  induction length generalizing devices with
  | zero => rfl
  | succ length ih => exact ⟨config, List.replicate length config, rfl, first, ih config again⟩

def total (tallies : List Tally) (tally : Tally) : Tally := tallies.foldl Tally.plus tally

def attempts (configs : List (Fin n → DeviceConfig)) : Nat := (configs.map fun devices => (senders devices).card).sum

theorem total_balanced (slotCount : (Fin n → DeviceConfig) → Tally) (each : ∀ devices, (slotCount devices).Balanced)
    (configs : List (Fin n → DeviceConfig)) (tally : Tally) (start : tally.Balanced) :
    (total (configs.map slotCount) tally).Balanced := by
  induction configs generalizing tally with
  | nil => exact start
  | cons devices rest ih =>
      exact ih (tally.plus (slotCount devices)) (plus_balanced tally _ start (each devices))

-- A program of the study: how a slot begins, what it counts for a device that is not
-- found behind a collision, and which devices succeed.
structure Study (n : Nat) (Draws : Type) where
  choose : (Fin n → DeviceConfig) → Draws → Option (Fin n → DeviceConfig)
  missed : Tally → Option Tally
  colDet : (Fin n → DeviceConfig) → Collisions n
  conflicts : (Fin n → DeviceConfig) → Finset (Fin n × Fin n)
  wins : (Fin n → DeviceConfig) → Fin n → Prop
  decidableWins : ∀ devices, DecidablePred (wins devices)
  lists : ∀ devices, Lists (colDet devices).stored (conflicts devices)
  result : ∀ devices, (colDet devices).result = decide ((colDet devices).stored ≠ [])
  stored : ∀ devices i, i ∈ (colDet devices).stored ↔ Sends devices i ∧ ¬ wins devices i
  missedKeeps : ∀ tally next, missed tally = some next → next.attempted = tally.attempted ∧ next.failed = tally.failed
  missedWins : ∀ devices, (colDet devices).result = true → ∀ i, Sends devices i → wins devices i → missed = Tally.succeed

namespace Study

section
variable {Draws : Type} (study : Study n Draws)

instance (devices : Fin n → DeviceConfig) : DecidablePred (study.wins devices) := study.decidableWins devices

def count (devices : Fin n → DeviceConfig) : Tally → Fin n → Option Tally :=
  countDevice study.missed devices (study.colDet devices)

def slot (s : StudyState n) (draws : Draws) : Option (StudyState n) :=
  (study.choose s.devices draws).bind fun devices =>
    ((List.finRange n).foldlM (study.count devices) s.tally).map fun tally => ⟨devices, tally⟩

def simulation (heap : Fin n → DeviceConfig) (slots : List Draws) : Option Percentage :=
  if n = 1 then some .hundred
  else if 2147483648 ≤ n then none
  else (slots.foldlM study.slot ⟨assignPorts heap, ⟨0, 0, 0⟩⟩).map fun s => .share s.tally

abbrev verdict (devices : Fin n → DeviceConfig) : Tally → Fin n → Tally := OsiStack.verdict devices (study.wins devices)

abbrev slotTally (devices : Fin n → DeviceConfig) : Tally := OsiStack.slotTally devices (study.wins devices)

def Fits (devices : Fin n → DeviceConfig) : Prop := SlotFits (study.conflicts devices) (senders devices)

def SlotRight (tally : Tally) (devices : Fin n → DeviceConfig) : Prop :=
  Runs.Always (study.verdict devices) (fun tally i => study.count devices tally i = some (study.verdict devices tally i)) tally
    (List.finRange n)

def RunRight (tally : Tally) (configs : List (Fin n → DeviceConfig)) : Prop :=
  Runs.Always (fun tally devices => tally.plus (study.slotTally devices)) study.SlotRight tally configs

theorem increment_some (counter : Nat) (room : counter < 2147483647) : increment counter = some (counter + 1) := if_pos room

theorem increment_none (counter : Nat) (full : ¬ counter < 2147483647) : increment counter = none := if_neg full

section
variable (devices : Fin n → DeviceConfig) (tally : Tally) (i : Fin n)

theorem count_silent (silent : ¬ Sends devices i) : study.count devices tally i = some tally := if_neg silent

theorem count_full (sends : Sends devices i) (full : ¬ tally.attempted < 2147483647) : study.count devices tally i = none := by
  have awake : (devices i).transmitting ≠ 0 := sends
  rw [count, countDevice, if_pos awake, Tally.attempt, increment_none _ full]
  rfl

theorem count_attempted (sends : Sends devices i) (room : tally.attempted < 2147483647) :
    study.count devices tally i =
      if (study.colDet devices).result then
        (HubVsSwitch.deviceCol (study.colDet devices) i).bind fun collided =>
          if collided then Tally.fail { tally with attempted := tally.attempted + 1 }
          else study.missed { tally with attempted := tally.attempted + 1 }
      else Tally.succeed { tally with attempted := tally.attempted + 1 } := by
  have awake : (devices i).transmitting ≠ 0 := sends
  rw [count, countDevice, if_pos awake, Tally.attempt, increment_some _ room]
  rfl

theorem not_stored (quiet : (study.colDet devices).result = false) : (study.colDet devices).stored = [] := by
  rw [study.result, decide_eq_false_iff_not, not_not] at quiet
  exact quiet

theorem succeed_room (room : tally.successful < 2147483647) :
    Tally.succeed { tally with attempted := tally.attempted + 1 } = some tally.succeeding := by
  rw [Tally.succeed, increment_some _ room]
  rfl

theorem fail_room (room : tally.failed < 2147483647) :
    Tally.fail { tally with attempted := tally.attempted + 1 } = some tally.failing := by
  rw [Tally.fail, increment_some _ room]
  rfl

theorem succeeding_failing : tally.succeeding ≠ tally.failing := by
  intro same
  have counts := congrArg Tally.successful same
  simp [Tally.succeeding, Tally.failing] at counts

theorem quiet_wins (sends : Sends devices i) (quiet : (study.colDet devices).result = false) : study.wins devices i := by
  by_contra loses
  have member := (study.stored devices i).mpr ⟨sends, loses⟩
  rw [not_stored study devices quiet] at member
  exact List.not_mem_nil member

theorem collided_right (balanced : tally.Balanced) (sends : Sends devices i) (collides : (study.colDet devices).result = true)
    (room : tally.attempted < 2147483647) (collided : Bool) :
    (if collided then Tally.fail { tally with attempted := tally.attempted + 1 }
      else study.missed { tally with attempted := tally.attempted + 1 }) = some (study.verdict devices tally i) ↔
      collided = decide (i ∈ (study.colDet devices).stored) := by
  have stored := study.stored devices i
  have parts : tally.attempted = tally.successful + tally.failed := balanced
  rw [verdict, OsiStack.verdict, if_pos sends]
  by_cases win : study.wins devices i
  · have absent : ¬ i ∈ (study.colDet devices).stored := fun member => (stored.mp member).2 win
    rw [if_pos win, decide_eq_false absent]
    cases collided with
    | true =>
        rw [if_pos rfl, fail_room tally (by omega), Option.some_inj]
        exact iff_of_false (Ne.symm (succeeding_failing tally)) Bool.true_eq_false_eq_False
    | false =>
        rw [if_neg Bool.false_ne_true, study.missedWins devices collides i sends win, succeed_room tally (by omega)]
        exact iff_of_true rfl rfl
  · have member := stored.mpr ⟨sends, win⟩
    rw [if_neg win, decide_eq_true member]
    cases collided with
    | true =>
        rw [if_pos rfl, fail_room tally (by omega)]
        exact iff_of_true rfl rfl
    | false =>
        rw [if_neg Bool.false_ne_true]
        refine iff_of_false (fun missed => ?_) Bool.false_ne_true
        have kept := (study.missedKeeps _ _ missed).2
        simp [Tally.failing] at kept

theorem count_right (balanced : tally.Balanced) (sends : Sends devices i) :
    study.count devices tally i = some (study.verdict devices tally i) ↔
      tally.attempted < 2147483647 ∧
        HubVsSwitch.deviceCol (study.colDet devices) i = some (decide (i ∈ (study.colDet devices).stored)) := by
  by_cases room : tally.attempted < 2147483647
  · rw [count_attempted study devices tally i sends room, and_iff_right room]
    cases resultEq : (study.colDet devices).result with
    | false =>
        have parts : tally.attempted = tally.successful + tally.failed := balanced
        have empty := not_stored study devices resultEq
        rw [if_neg Bool.false_ne_true, verdict, OsiStack.verdict, if_pos sends,
          if_pos (quiet_wins study devices i sends resultEq), succeed_room tally (by omega), HubVsSwitch.deviceCol, empty]
        exact iff_of_true rfl rfl
    | true =>
        rw [if_pos rfl]
        cases HubVsSwitch.deviceCol (study.colDet devices) i with
        | none => exact iff_of_false (Option.some_ne_none _).symm (Option.some_ne_none _).symm
        | some collided =>
            rw [Option.bind_some, Option.some_inj]
            exact collided_right study devices tally i balanced sends resultEq room collided
  · rw [count_full study devices tally i sends room]
    exact iff_of_false (Option.some_ne_none _).symm fun both => room both.1

end

theorem loop_right_iff (devices : Fin n → DeviceConfig) (ids : List (Fin n)) (tally : Tally) (balanced : tally.Balanced)
    (fits : tally.attempted < 2147483648) :
    Runs.Always (study.verdict devices)
      (fun tally i => study.count devices tally i = some (study.verdict devices tally i)) tally
        ids ↔
      tally.attempted + ids.countP (fun i => decide (Sends devices i)) < 2147483648 ∧ ∀ i ∈ ids, Sends devices i →
        HubVsSwitch.deviceCol (study.colDet devices) i = some (decide (i ∈ (study.colDet devices).stored)) := by
  induction ids generalizing tally with
  | nil => simp [Runs.Always, fits]
  | cons i rest ih =>
      rw [Runs.Always]
      by_cases sends : Sends devices i
      · have gained := verdict_attempted devices (study.wins devices) tally i
        rw [if_pos sends] at gained
        rw [count_right study devices tally i balanced sends, List.countP_cons_of_pos (by simpa using sends),
          List.forall_mem_cons]
        constructor
        · rintro ⟨⟨room, first⟩, later⟩
          obtain ⟨total, others⟩ := (ih _ (verdict_balanced devices _ tally balanced i) (by omega)).mp later
          exact ⟨by omega, fun _ => first, others⟩
        · rintro ⟨total, first, others⟩
          exact ⟨⟨by omega, first sends⟩,
            (ih _ (verdict_balanced devices _ tally balanced i) (by omega)).mpr ⟨by omega, others⟩⟩
      · have same : study.verdict devices tally i = tally := if_neg sends
        rw [same, count_silent study devices tally i sends, List.countP_cons_of_neg (by simpa using sends),
          List.forall_mem_cons, ih tally balanced fits]
        simp [sends]

theorem slot_right_iff (small : n < 2147483648) (devices : Fin n → DeviceConfig) (tally : Tally) (balanced : tally.Balanced)
    (fits : tally.attempted < 2147483648) :
    study.SlotRight tally devices ↔ tally.attempted + (senders devices).card < 2147483648 ∧ study.Fits devices := by
  have within (i : Fin n) (member : i ∈ (study.colDet devices).stored) : i ∈ senders devices :=
    (mem_senders devices i).mpr ((study.stored devices i).mp member).1
  have counted : (List.finRange n).countP (fun i => decide (Sends devices i)) = (senders devices).card := count_senders devices
  rw [SlotRight, loop_right_iff study devices _ tally balanced fits, Fits, counted,
    ← slot_fits_iff _ _ (study.lists devices) small (senders devices) within]
  refine and_congr_right fun _ => forall_congr' fun i => ?_
  rw [mem_senders]
  exact ⟨fun right => right (List.mem_finRange i), fun right _ => right⟩

theorem slot_right_counts (devices : Fin n → DeviceConfig) (tally : Tally) (right : study.SlotRight tally devices) :
    (List.finRange n).foldlM (study.count devices) tally = some (tally.plus (study.slotTally devices)) := by
  rw [← verdict_slot devices (study.wins devices) tally]
  exact Runs.always_fold (study.verdict devices) (study.count devices) tally _ right

theorem count_attempts (devices : Fin n → DeviceConfig) (tally next : Tally) (i : Fin n) (fits : tally.attempted < 2147483648)
    (counts : study.count devices tally i = some next) :
    next.attempted = tally.attempted + (if Sends devices i then 1 else 0) ∧ next.attempted < 2147483648 := by
  by_cases sends : Sends devices i
  · rw [if_pos sends]
    by_cases room : tally.attempted < 2147483647
    · have raised : next.attempted = tally.attempted + 1 := by
        rw [count_attempted study devices tally i sends room] at counts
        split at counts
        · obtain ⟨collided, -, passes⟩ := Option.bind_eq_some_iff.mp counts
          cases collided with
          | true =>
              obtain ⟨count, -, rfl⟩ := Option.map_eq_some_iff.mp passes
              rfl
          | false => exact (study.missedKeeps _ _ passes).1
        · obtain ⟨count, -, rfl⟩ := Option.map_eq_some_iff.mp counts
          rfl
      exact ⟨raised, by omega⟩
    · rw [count_full study devices tally i sends room] at counts
      cases counts
  · rw [count_silent study devices tally i sends] at counts
    cases counts
    rw [if_neg sends]
    exact ⟨rfl, fits⟩

theorem loop_attempts (devices : Fin n → DeviceConfig) (ids : List (Fin n)) (tally next : Tally)
    (fits : tally.attempted < 2147483648) (ends : ids.foldlM (study.count devices) tally = some next) :
    next.attempted = tally.attempted + ids.countP (fun i => decide (Sends devices i)) ∧ next.attempted < 2147483648 := by
  induction ids generalizing tally with
  | nil =>
      cases ends
      exact ⟨rfl, fits⟩
  | cons i rest ih =>
      rw [List.foldlM_cons] at ends
      obtain ⟨mid, first, later⟩ := Option.bind_eq_some_iff.mp ends
      obtain ⟨raised, small⟩ := count_attempts study devices tally mid i fits first
      obtain ⟨total, bound⟩ := ih mid small later
      refine ⟨?_, bound⟩
      rw [total, raised, List.countP_cons]
      simp only [decide_eq_true_eq]
      omega

theorem run_right_iff (small : n < 2147483648) (configs : List (Fin n → DeviceConfig)) (tally : Tally)
    (balanced : tally.Balanced) (fits : tally.attempted < 2147483648) :
    study.RunRight tally configs ↔
      tally.attempted + attempts configs < 2147483648 ∧ ∀ devices ∈ configs, study.Fits devices := by
  induction configs generalizing tally with
  | nil => simp [RunRight, Runs.Always, attempts, fits]
  | cons devices rest ih =>
      have balanced' : (tally.plus (study.slotTally devices)).Balanced :=
        plus_balanced tally _ balanced (slot_balanced devices (study.wins devices))
      have gained : (tally.plus (study.slotTally devices)).attempted = tally.attempted + (senders devices).card := rfl
      have sum : attempts (devices :: rest) = (senders devices).card + attempts rest := rfl
      rw [RunRight, Runs.Always, slot_right_iff study small devices tally balanced fits, sum, List.forall_mem_cons]
      constructor
      · rintro ⟨⟨room, first⟩, later⟩
        obtain ⟨whole, others⟩ := (ih _ balanced' (by omega)).mp later
        exact ⟨by omega, first, others⟩
      · rintro ⟨whole, first, others⟩
        exact ⟨⟨by omega, first⟩, (ih _ balanced' (by omega)).mpr ⟨by omega, others⟩⟩

theorem run_right_ends (slots : List Draws) (configs : List (Fin n → DeviceConfig)) (s : StudyState n)
    (chosen : Chosen study.choose s.devices slots configs) (right : study.RunRight s.tally configs) :
    ∃ last, slots.foldlM study.slot s = some ⟨last, total (configs.map study.slotTally) s.tally⟩ := by
  induction slots generalizing s configs with
  | nil =>
      cases chosen
      exact ⟨s.devices, rfl⟩
  | cons draws rest ih =>
      obtain ⟨devices, later, rfl, chooses, behind⟩ := chosen
      obtain ⟨last, ends⟩ := ih later ⟨devices, s.tally.plus (study.slotTally devices)⟩ behind right.2
      refine ⟨last, ?_⟩
      rw [List.foldlM_cons, slot, chooses, Option.bind_some, slot_right_counts study devices s.tally right.1]
      exact ends

theorem ended_chosen (slots : List Draws) (s final : StudyState n) (fits : s.tally.attempted < 2147483648)
    (ends : slots.foldlM study.slot s = some final) : ∃ configs, Chosen study.choose s.devices slots configs ∧
      final.tally.attempted = s.tally.attempted + attempts configs ∧ final.tally.attempted < 2147483648 := by
  induction slots generalizing s with
  | nil =>
      cases ends
      exact ⟨[], rfl, rfl, fits⟩
  | cons draws rest ih =>
      rw [List.foldlM_cons] at ends
      obtain ⟨mid, first, later⟩ := Option.bind_eq_some_iff.mp ends
      obtain ⟨devices, chooses, counts⟩ := Option.bind_eq_some_iff.mp first
      obtain ⟨tally, loop, rfl⟩ := Option.map_eq_some_iff.mp counts
      have counted : (List.finRange n).countP (fun i => decide (Sends devices i)) = (senders devices).card :=
        count_senders devices
      obtain ⟨raised, small⟩ := loop_attempts study devices _ s.tally tally fits loop
      obtain ⟨configs, chosen, sum, bound⟩ := ih ⟨devices, tally⟩ small later
      refine ⟨devices :: configs, ⟨devices, configs, rfl, chooses, chosen⟩, ?_, bound⟩
      have whole : attempts (devices :: configs) = (senders devices).card + attempts configs := rfl
      rw [sum, whole, raised, counted, Nat.add_assoc]

theorem chosen_unique (slots : List Draws) (devices : Fin n → DeviceConfig) (configs others : List (Fin n → DeviceConfig))
    (chosen : Chosen study.choose devices slots configs) (again : Chosen study.choose devices slots others) :
    configs = others := by
  induction slots generalizing devices configs others with
  | nil =>
      cases chosen
      cases again
      rfl
  | cons draws rest ih =>
      obtain ⟨next, later, rfl, chooses, behind⟩ := chosen
      obtain ⟨next', later', rfl, chooses', behind'⟩ := again
      rw [chooses] at chooses'
      cases chooses'
      rw [ih next later later' behind behind']

structure RunJudged (configs : List (Fin n → DeviceConfig)) (result : Option Percentage) : Prop where
  verdicts : study.RunRight ⟨0, 0, 0⟩ configs
  totals : ∃ tally, result = some (.share tally) ∧ tally = total (configs.map study.slotTally) ⟨0, 0, 0⟩ ∧ tally.Balanced

structure RunInRange (configs : List (Fin n → DeviceConfig)) : Prop where
  devices : n < 2147483648
  attempts : attempts configs < 2147483648
  slots : ∀ devices ∈ configs, study.Fits devices

section
variable (several : n ≠ 1) (heap : Fin n → DeviceConfig) (slots : List Draws)
include several

theorem simulation_ends (result : Percentage) (ends : study.simulation heap slots = some result) : n < 2147483648 ∧
    ∃ final, slots.foldlM study.slot ⟨assignPorts heap, ⟨0, 0, 0⟩⟩ = some final ∧ result = .share final.tally := by
  rw [simulation, if_neg several] at ends
  split at ends
  · cases ends
  · rename_i small
    obtain ⟨final, run, rfl⟩ := Option.map_eq_some_iff.mp ends
    exact ⟨Nat.lt_of_not_le small, final, run, rfl⟩

theorem run_in_range_judged (configs : List (Fin n → DeviceConfig))
    (chosen : Chosen study.choose (assignPorts heap) slots configs) (inRange : study.RunInRange configs) :
    study.RunJudged configs (study.simulation heap slots) := by
  have start : (⟨0, 0, 0⟩ : Tally).Balanced := rfl
  have right := (run_right_iff study inRange.devices configs ⟨0, 0, 0⟩ start (by simp)).mpr
    ⟨by simpa using inRange.attempts, inRange.slots⟩
  obtain ⟨last, ends⟩ := run_right_ends study slots configs ⟨assignPorts heap, ⟨0, 0, 0⟩⟩ chosen right
  refine ⟨right, _, ?_, rfl, total_balanced _ (fun devices => slot_balanced devices _) configs _ start⟩
  rw [simulation, if_neg several, if_neg (Nat.not_le.mpr inRange.devices), ends]
  rfl

theorem run_judged_iff (configs : List (Fin n → DeviceConfig))
    (chosen : Chosen study.choose (assignPorts heap) slots configs) :
    study.RunJudged configs (study.simulation heap slots) ↔ study.RunInRange configs := by
  constructor
  · intro judged
    obtain ⟨tally, ends, -⟩ := judged.totals
    obtain ⟨small, -⟩ := simulation_ends study several heap slots _ ends
    have parts := (run_right_iff study small configs ⟨0, 0, 0⟩ rfl (by simp)).mp judged.verdicts
    exact ⟨small, by simpa using parts.1, parts.2⟩
  · exact run_in_range_judged study several heap slots configs chosen

theorem attempts_exhausted (configs : List (Fin n → DeviceConfig))
    (chosen : Chosen study.choose (assignPorts heap) slots configs)
    (many : 2147483648 ≤ attempts configs) : study.simulation heap slots = none := by
  cases ends : study.simulation heap slots with
  | none => rfl
  | some result =>
      obtain ⟨-, final, run, -⟩ := simulation_ends study several heap slots result ends
      obtain ⟨others, again, sum, bound⟩ := ended_chosen study slots _ final (by simp) run
      rw [chosen_unique study slots _ configs others chosen again, ← Nat.zero_add (attempts others)] at many
      exact absurd (sum ▸ bound) (Nat.not_lt.mpr many)

theorem ended_judged (roomy : ∀ devices, study.Fits devices) (result : Percentage)
    (ends : study.simulation heap slots = some result) : ∃ configs, Chosen study.choose (assignPorts heap) slots configs ∧
      study.RunJudged configs (some result) := by
  obtain ⟨small, final, run, -⟩ := simulation_ends study several heap slots result ends
  obtain ⟨configs, chosen, sum, bound⟩ := ended_chosen study slots _ final (by simp) run
  refine ⟨configs, chosen, ?_⟩
  rw [← ends]
  exact run_in_range_judged study several heap slots configs chosen ⟨small, by simpa [sum] using bound,
    fun devices _ => roomy devices⟩

end

end

end Study

def Switch.study (n : Nat) : Study n (Switch.Draws n) where
  choose := Switch.choose
  missed := Tally.succeed
  colDet := Switch.colDet
  conflicts := portConflicts
  wins devices i := ¬ Contended devices i
  decidableWins devices := inferInstance
  lists := switch_lists
  result := switch_result
  stored devices i := by rw [not_not]; exact switch_stored devices i
  missedKeeps tally next missed := by
    obtain ⟨count, -, rfl⟩ := Option.map_eq_some_iff.mp missed
    exact ⟨rfl, rfl⟩
  missedWins _ _ _ _ _ := rfl

def Hub.choose (devices : Fin n → DeviceConfig) (draws : Fin n → Option UInt32) : Option (Fin n → DeviceConfig) :=
  some (chooseTransmitting devices draws)

def Hub.study (n : Nat) : Study n (Fin n → Option UInt32) where
  choose := Hub.choose
  missed := some
  colDet := Hub.colDet
  conflicts := hubConflicts
  wins := Sole
  decidableWins devices := inferInstance
  lists := hub_lists
  result := hub_result
  stored := hub_stored
  missedKeeps tally next missed := by
    cases missed
    exact ⟨rfl, rfl⟩
  missedWins devices collides i sends sole := by
    rw [hub_result, decide_eq_true_iff] at collides
    obtain ⟨other, member⟩ := List.exists_mem_of_ne_nil _ collides
    obtain ⟨otherSends, contested⟩ := (hub_stored devices other).mp member
    rw [sole other otherSends] at contested
    exact absurd sole contested

theorem switch_study (heap : Fin n → DeviceConfig) (slots : List (Switch.Draws n)) :
    Switch.switchSimulation heap slots = (Switch.study n).simulation heap slots := rfl

theorem hub_study (heap : Fin n → DeviceConfig) (slots : List (Fin n → Option UInt32)) :
    Hub.hubSimulation heap slots = (Hub.study n).simulation heap slots := rfl

end

end OsiStack
