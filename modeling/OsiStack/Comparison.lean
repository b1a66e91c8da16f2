import OsiStack.Study

set_option autoImplicit false

namespace OsiStack

section
variable {n : Nat}

def switchTally (devices : Fin n → DeviceConfig) : Tally := slotTally devices fun i => ¬ Contended devices i

def hubTally (devices : Fin n → DeviceConfig) : Tally := slotTally devices (Sole devices)

theorem sole_uncontended (devices : Fin n → DeviceConfig) (i : Fin n) (sole : Sole devices i) : ¬ Contended devices i := by
  rintro ⟨other, differ, sends, -⟩
  exact differ (sole other sends)

theorem choose_dst_port_transmitting (ids : List (Fin n)) (draws : Fin n → List (Option UInt32))
    (devices chosen : Fin n → DeviceConfig) (chooses : ids.foldlM (Switch.chooseDstPort draws) devices = some chosen)
    (i : Fin n) : (chosen i).transmitting = (devices i).transmitting := by
  induction ids generalizing devices with
  | nil =>
      cases chooses
      rfl
  | cons first rest ih =>
      rw [List.foldlM_cons, Switch.chooseDstPort] at chooses
      by_cases sends : (devices first).transmitting ≠ 0
      · rw [if_pos sends] at chooses
        cases portEq : Switch.randDstPrt first (draws first) with
        | none =>
            rw [portEq] at chooses
            cases chooses
        | some port =>
            rw [portEq] at chooses
            rw [ih (Function.update devices first { devices first with dstPort := port }) chooses]
            by_cases same : i = first
            · rw [same, Function.update_self]
            · rw [Function.update_of_ne same]
      · rw [if_neg sends] at chooses
        exact ih devices chooses

def Flagged (draws : Fin n → Option UInt32) (i : Fin n) : Prop := randGenerator 0 1 (draws i) ≠ 0

theorem hub_choose_sends (devices chosen : Fin n → DeviceConfig) (draws : Fin n → Option UInt32)
    (chooses : Hub.choose devices draws = some chosen) (i : Fin n) : Sends chosen i ↔ Flagged draws i := by
  cases chooses
  rfl

theorem switch_choose_sends (devices chosen : Fin n → DeviceConfig) (draws : Switch.Draws n)
    (chooses : Switch.choose devices draws = some chosen) (i : Fin n) : Sends chosen i ↔ Flagged draws.transmitting i := by
  rw [Sends, choose_dst_port_transmitting _ _ _ _ chooses]
  rfl

def SameSenders (hub switch : Fin n → DeviceConfig) : Prop := ∀ i, Sends hub i ↔ Sends switch i

theorem chosen_same_senders (slots : List (Switch.Draws n)) (hub switch : Fin n → DeviceConfig)
    (hubs switches : List (Fin n → DeviceConfig))
    (hubChosen : Chosen Hub.choose hub (slots.map Switch.Draws.transmitting) hubs)
    (switchChosen : Chosen Switch.choose switch slots switches) : List.Forall₂ SameSenders hubs switches := by
  induction slots generalizing hub switch hubs switches with
  | nil =>
      cases hubChosen
      cases switchChosen
      exact List.Forall₂.nil
  | cons draws rest ih =>
      obtain ⟨nextHub, laterHubs, rfl, hubChooses, hubRest⟩ := hubChosen
      obtain ⟨nextSwitch, laterSwitches, rfl, switchChooses, switchRest⟩ := switchChosen
      refine List.Forall₂.cons (fun i => ?_) (ih nextHub nextSwitch laterHubs laterSwitches hubRest switchRest)
      rw [hub_choose_sends hub nextHub draws.transmitting hubChooses,
        switch_choose_sends switch nextSwitch draws switchChooses]

theorem same_senders_sole (hub switch : Fin n → DeviceConfig) (same : SameSenders hub switch) (i : Fin n) :
    Sole hub i ↔ Sole switch i :=
  forall_congr' fun other => imp_congr_left (same other)

theorem same_senders_tally (hub switch : Fin n → DeviceConfig) (same : SameSenders hub switch) :
    (hubTally hub).attempted = (switchTally switch).attempted ∧
      (hubTally hub).successful ≤ (switchTally switch).successful := by
  have equal : senders hub = senders switch := by
    ext i
    rw [mem_senders, mem_senders, same i]
  have fewer : (senders hub).filter (Sole hub) ⊆ (senders switch).filter fun i => ¬ Contended switch i := by
    intro i member
    rw [Finset.mem_filter, equal] at member
    rw [Finset.mem_filter]
    exact ⟨member.1, sole_uncontended switch i ((same_senders_sole hub switch same i).mp member.2)⟩
  exact ⟨congrArg Finset.card equal, Finset.card_le_card fewer⟩

theorem same_senders_total (hubs switches : List (Fin n → DeviceConfig)) (same : List.Forall₂ SameSenders hubs switches)
    (hub switch : Tally) (attempted : hub.attempted = switch.attempted) (successful : hub.successful ≤ switch.successful) :
    (total (hubs.map hubTally) hub).attempted = (total (switches.map switchTally) switch).attempted ∧
      (total (hubs.map hubTally) hub).successful ≤ (total (switches.map switchTally) switch).successful := by
  induction same generalizing hub switch with
  | nil => exact ⟨attempted, successful⟩
  | @cons hubDevices switchDevices _ _ first _ ih =>
      have slot := same_senders_tally hubDevices switchDevices first
      refine ih (hub.plus (hubTally hubDevices)) (switch.plus (switchTally switchDevices)) ?_ ?_
      · simp only [Tally.plus, attempted, slot.1]
      · exact Nat.add_le_add successful slot.2

section
variable (members : Finset (Fin n)) (last : Fin n) (member : last ∈ members) (greatest : ∀ i ∈ members, i ≤ last)
include member greatest

theorem filtered_last : (members.offDiag.filter fun pair => ¬ pair.1 < last).card = members.card - 1 := by
  rw [← Finset.card_erase_of_mem member]
  refine Finset.card_bij (fun pair _ => pair.2) ?_ ?_ ?_
  · intro pair chosen
    simp only [Finset.mem_filter, Finset.mem_offDiag] at chosen
    obtain ⟨⟨first, second, differ⟩, notBefore⟩ := chosen
    have same : pair.1 = last := le_antisymm (greatest _ first) (not_lt.mp notBefore)
    rw [Finset.mem_erase]
    exact ⟨fun equal => differ (same.trans equal.symm), second⟩
  · intro left leftChosen right rightChosen same
    simp only [Finset.mem_filter, Finset.mem_offDiag] at leftChosen rightChosen
    have first := le_antisymm (greatest _ leftChosen.1.1) (not_lt.mp leftChosen.2)
    have second := le_antisymm (greatest _ rightChosen.1.1) (not_lt.mp rightChosen.2)
    exact Prod.ext (first.trans second.symm) same
  · intro other chosen
    rw [Finset.mem_erase] at chosen
    refine ⟨(last, other), ?_, rfl⟩
    simp only [Finset.mem_filter, Finset.mem_offDiag]
    exact ⟨⟨member, chosen.2, Ne.symm chosen.1⟩, lt_irrefl last⟩

theorem filtered_before :
    (members.offDiag.filter fun pair => pair.1 < last).card = (members.card - 1) * (members.card - 1) := by
  have parts := Finset.card_filter_add_card_filter_not (fun pair : Fin n × Fin n => pair.1 < last) (s := members.offDiag)
  rw [filtered_last members last member greatest, Finset.offDiag_card] at parts
  have positive : 0 < members.card := Finset.card_pos.mpr ⟨last, member⟩
  obtain ⟨rest, size⟩ : ∃ rest, members.card = rest + 1 := ⟨members.card - 1, by omega⟩
  rw [size] at parts ⊢
  rw [← Nat.mul_sub_one, Nat.add_sub_cancel, Nat.succ_mul] at parts
  rw [Nat.add_sub_cancel]
  omega

end

theorem few_pairs (members : Finset (Fin n)) (few : members.card ≤ 46341) : members.offDiag.card < 2147483648 := by
  have square : members.card * (members.card - 1) ≤ 46341 * 46340 := Nat.mul_le_mul few (by omega)
  rw [Finset.offDiag_card, ← Nat.mul_sub_one]
  omega

theorem few_conflicts_fit (conflicts : Finset (Fin n × Fin n)) (members : Finset (Fin n)) (few : conflicts.card < 2147483648) :
    SlotFits conflicts members := by
  refine ⟨by omega, fun i _ => ?_⟩
  have part := Finset.card_filter_le conflicts fun pair => pair.1 < i
  unfold searchEnd
  split <;> omega

-- At a hub every sender conflicts with every other one, and the last of them is
-- stored behind all the entries of those before it.
theorem hub_fits_iff (devices : Fin n → DeviceConfig) : (Hub.study n).Fits devices ↔ (senders devices).card ≤ 46341 := by
  constructor
  · intro fits
    by_contra many
    have two : 2 ≤ (senders devices).card := by omega
    have crowd : (senders devices).Nonempty := Finset.card_pos.mp (by omega)
    generalize lastEq : (senders devices).max' crowd = last
    have member : last ∈ senders devices := lastEq ▸ Finset.max'_mem _ crowd
    have greatest (i : Fin n) (sends : i ∈ senders devices) : i ≤ last := lastEq ▸ Finset.le_max' _ i sends
    obtain ⟨other, sends, differ⟩ := Finset.exists_mem_ne two last
    have conflict : ∃ pair ∈ hubConflicts devices, pair.1 = last :=
      ⟨(last, other), Finset.mem_offDiag.mpr ⟨member, sends, Ne.symm differ⟩, rfl⟩
    have ends : searchEnd (hubConflicts devices) last < 2147483648 := fits.searched last member
    rw [searchEnd, if_pos conflict, hubConflicts, filtered_before _ last member greatest] at ends
    have square : 46341 * 46341 ≤ ((senders devices).card - 1) * ((senders devices).card - 1) :=
      Nat.mul_le_mul (by omega) (by omega)
    omega
  · exact fun few => few_conflicts_fit _ _ (few_pairs (senders devices) few)

theorem switch_fits (devices : Fin n → DeviceConfig) (few : (senders devices).card ≤ 46341) :
    (Switch.study n).Fits devices := by
  have part := Finset.card_filter_le (senders devices).offDiag fun pair => (devices pair.1).dstPort = (devices pair.2).dstPort
  exact few_conflicts_fit _ _ (Nat.lt_of_le_of_lt part (few_pairs (senders devices) few))

theorem senders_le (devices : Fin n → DeviceConfig) : (senders devices).card ≤ n := by
  have bound := Finset.card_le_univ (senders devices)
  rwa [Fintype.card_fin] at bound

theorem hub_collided_keeps (devices : Fin n → DeviceConfig) (tally next : Tally) (i : Fin n)
    (collides : (Hub.colDet devices).result = true) (counts : Hub.count devices (Hub.colDet devices) tally i = some next) :
    next.successful = tally.successful := by
  have study : (Hub.study n).count devices tally i = some next := counts
  by_cases sends : Sends devices i
  · by_cases room : tally.attempted < 2147483647
    · rw [Study.count_attempted _ devices tally i sends room] at study
      change (if (Hub.colDet devices).result = true then _ else _) = some next at study
      rw [if_pos collides] at study
      obtain ⟨collided, -, passes⟩ := Option.bind_eq_some_iff.mp study
      cases collided with
      | true =>
          obtain ⟨count, -, rfl⟩ := Option.map_eq_some_iff.mp passes
          rfl
      | false =>
          cases passes
          rfl
    · rw [Study.count_full _ devices tally i sends room] at study
      cases study
  · rw [Study.count_silent _ devices tally i sends] at study
    cases study
    rfl

theorem hub_succeeds (devices : Fin n → DeviceConfig) (tally : Tally) (i : Fin n)
    (succeeds : Hub.count devices (Hub.colDet devices) tally i = some tally.succeeding) :
    Sends devices i ∧ Sole devices i := by
  by_cases sends : Sends devices i
  · refine ⟨sends, ?_⟩
    by_contra contested
    have member := (hub_stored devices i).mpr ⟨sends, contested⟩
    have collides : (Hub.colDet devices).result = true := by
      rw [hub_result]
      exact decide_eq_true (List.ne_nil_of_mem member)
    have kept := hub_collided_keeps devices tally tally.succeeding i collides succeeds
    simp [Tally.succeeding] at kept
  · have silent : Hub.count devices (Hub.colDet devices) tally i = some tally :=
      Study.count_silent (Hub.study n) devices tally i sends
    rw [silent] at succeeds
    have raised := congrArg Tally.attempted (Option.some_inj.mp succeeds)
    simp [Tally.succeeding] at raised

theorem switch_lone (devices : Fin n → DeviceConfig) (tally : Tally) (i : Fin n) (sends : Sends devices i)
    (sole : Sole devices i) (room : tally.attempted < 2147483647) (more : tally.successful < 2147483647) :
    Switch.count devices (Switch.colDet devices) tally i = some tally.succeeding := by
  have quiet : (Switch.colDet devices).result = false := by
    rw [switch_result, decide_eq_false_iff_not, not_not]
    refine List.eq_nil_iff_forall_not_mem.mpr fun other member => ?_
    obtain ⟨otherSends, third, differ, thirdSends, -⟩ := (switch_stored devices other).mp member
    exact differ ((sole third thirdSends).trans (sole other otherSends).symm)
  have counts := (Switch.study n).count_attempted devices tally i sends room
  change Switch.count devices (Switch.colDet devices) tally i = if (Switch.colDet devices).result = true
    then _ else _ at counts
  rw [counts, quiet, if_neg Bool.false_ne_true, Study.succeed_room tally more]

structure Compared (hubs switches : List (Fin n → DeviceConfig)) (hub switch : Option Percentage) : Prop where
  devices : List.Forall₂ (fun hub switch => ∀ (i : Fin n) (hubTally switchTally : Tally),
    switchTally.attempted < 2147483647 → switchTally.successful < 2147483647 →
    Hub.count hub (Hub.colDet hub) hubTally i = some hubTally.succeeding →
      Switch.count switch (Switch.colDet switch) switchTally i = some switchTally.succeeding) hubs switches
  tallies : ∀ hubTally switchTally, hub = some (.share hubTally) → switch = some (.share switchTally) →
    hubTally.attempted = switchTally.attempted ∧ hubTally.successful ≤ switchTally.successful

structure StudyRight (hubs switches : List (Fin n → DeviceConfig)) (hub switch : Option Percentage) : Prop where
  hubJudged : (Hub.study n).RunJudged hubs hub
  switchJudged : (Switch.study n).RunJudged switches switch
  compared : Compared hubs switches hub switch

structure HubInRange (configs : List (Fin n → DeviceConfig)) : Prop where
  devices : n < 2147483648
  attempts : attempts configs < 2147483648
  senders : ∀ devices ∈ configs, (senders devices).card ≤ 46341

theorem hub_in_range_iff (configs : List (Fin n → DeviceConfig)) : (Hub.study n).RunInRange configs ↔ HubInRange configs := by
  constructor
  · rintro ⟨small, few, fits⟩
    exact ⟨small, few, fun devices member => (hub_fits_iff devices).mp (fits devices member)⟩
  · rintro ⟨small, few, crowd⟩
    exact ⟨small, few, fun devices member => (hub_fits_iff devices).mpr (crowd devices member)⟩

end

theorem study_verdicts (n : Nat) (several : 2 ≤ n) (hubHeap switchHeap : Fin n → DeviceConfig) (slots : List (Switch.Draws n))
    (hubs switches : List (Fin n → DeviceConfig))
    (hubChosen : Chosen Hub.choose (assignPorts hubHeap) (slots.map Switch.Draws.transmitting) hubs)
    (switchChosen : Chosen Switch.choose (assignPorts switchHeap) slots switches) :
    let hub := Hub.hubSimulation hubHeap (slots.map Switch.Draws.transmitting)
    let switch := Switch.switchSimulation switchHeap slots
    ((Hub.study n).RunJudged hubs hub ↔ HubInRange hubs) ∧
      ((Switch.study n).RunJudged switches switch ↔ (Switch.study n).RunInRange switches) ∧
      (StudyRight hubs switches hub switch ↔ HubInRange hubs ∧ (Switch.study n).RunInRange switches) := by
  intro hub switch
  have one : n ≠ 1 := by omega
  have hubIff : (Hub.study n).RunJudged hubs hub ↔ HubInRange hubs := by
    rw [show hub = _ from hub_study hubHeap _]
    exact ((Hub.study n).run_judged_iff one hubHeap _ hubs hubChosen).trans (hub_in_range_iff hubs)
  have switchIff : (Switch.study n).RunJudged switches switch ↔ (Switch.study n).RunInRange switches := by
    rw [show switch = _ from switch_study switchHeap slots]
    exact (Switch.study n).run_judged_iff one switchHeap slots switches switchChosen
  have same := chosen_same_senders slots _ _ hubs switches hubChosen switchChosen
  refine ⟨hubIff, switchIff, fun right => ⟨hubIff.mp right.hubJudged, switchIff.mp right.switchJudged⟩, ?_⟩
  rintro ⟨hubRange, switchRange⟩
  have hubJudged := hubIff.mpr hubRange
  have switchJudged := switchIff.mpr switchRange
  refine ⟨hubJudged, switchJudged, ?_, ?_⟩
  · refine same.imp fun hubDevices switchDevices alike i hubTally switchTally room more succeeds => ?_
    obtain ⟨sends, sole⟩ := hub_succeeds hubDevices hubTally i succeeds
    exact switch_lone switchDevices switchTally i ((alike i).mp sends)
      ((same_senders_sole hubDevices switchDevices alike i).mp sole) room more
  · intro hubTally switchTally hubEnds switchEnds
    obtain ⟨counted, hubResult, hubTotal, -⟩ := hubJudged.totals
    obtain ⟨counted', switchResult, switchTotal, -⟩ := switchJudged.totals
    rw [hubResult] at hubEnds
    rw [switchResult] at switchEnds
    cases hubEnds
    cases switchEnds
    rw [hubTotal, switchTotal]
    exact same_senders_total hubs switches same ⟨0, 0, 0⟩ ⟨0, 0, 0⟩ rfl (Nat.le_refl 0)

def idlePair : Fin 2 → DeviceConfig := fun _ => ⟨0, 0, 0⟩

def bothSend : Switch.Draws 2 := ⟨fun _ => some 1, fun i => [some (1 - UInt32.ofNat i)]⟩

def firstSends : Switch.Draws 2 := ⟨fun i => some (1 - UInt32.ofNat i), fun i => [some (1 - UInt32.ofNat i)]⟩

def busySlots (length : Nat) : List (Switch.Draws 2) := bothSend :: List.replicate length firstSends

def hubPair (second : UInt32) : Fin 2 → DeviceConfig := fun i => ⟨UInt32.ofNat i, 0, if i = 0 then 1 else second⟩

def switchPair (second : UInt32) : Fin 2 → DeviceConfig := fun i =>
  ⟨UInt32.ofNat i, 1 - UInt32.ofNat i, if i = 0 then 1 else second⟩

theorem busy_hub (length : Nat) : Chosen Hub.choose (assignPorts idlePair) ((busySlots length).map Switch.Draws.transmitting)
    (hubPair 1 :: List.replicate length (hubPair 0)) := by
  rw [busySlots, List.map_cons, List.map_replicate]
  exact ⟨hubPair 1, _, rfl, by decide +kernel, chosen_replicate Hub.choose _ _ _ length (by decide +kernel)
    (by decide +kernel)⟩

theorem busy_switch (length : Nat) : Chosen Switch.choose (assignPorts idlePair) (busySlots length)
    (switchPair 1 :: List.replicate length (switchPair 0)) :=
  ⟨switchPair 1, _, rfl, by decide +kernel, chosen_replicate Switch.choose _ _ _ length (by decide +kernel)
    (by decide +kernel)⟩

theorem busy_attempts (both first : Fin 2 → DeviceConfig) (two : (senders both).card = 2) (one : (senders first).card = 1)
    (length : Nat) : attempts (both :: List.replicate length first) = length + 2 := by
  rw [attempts, List.map_cons, List.map_replicate, List.sum_cons, List.sum_replicate, two, one, smul_eq_mul, Nat.mul_one,
    Nat.add_comm]

theorem study_verdicts_two :
    StudyRight (hubPair 1 :: List.replicate 3 (hubPair 0)) (switchPair 1 :: List.replicate 3 (switchPair 0))
      (Hub.hubSimulation idlePair ((busySlots 3).map Switch.Draws.transmitting))
        (Switch.switchSimulation idlePair (busySlots 3)) :=
  (study_verdicts 2 (by decide) idlePair idlePair (busySlots 3) _ _ (busy_hub 3) (busy_switch 3)).2.2.mpr
    ⟨⟨by decide, by decide +kernel, fun devices _ => Nat.le_trans (senders_le devices) (by decide)⟩,
      by decide, by decide +kernel, fun devices _ => switch_fits devices (Nat.le_trans (senders_le devices) (by decide))⟩

theorem attempts_overflow : ∃ hubs switches,
    Chosen Hub.choose (assignPorts idlePair) ((busySlots 2147483646).map Switch.Draws.transmitting) hubs ∧
    Chosen Switch.choose (assignPorts idlePair) (busySlots 2147483646) switches ∧
    Hub.hubSimulation idlePair ((busySlots 2147483646).map Switch.Draws.transmitting) = none ∧
    Switch.switchSimulation idlePair (busySlots 2147483646) = none ∧
    ¬ StudyRight hubs switches (Hub.hubSimulation idlePair ((busySlots 2147483646).map Switch.Draws.transmitting))
      (Switch.switchSimulation idlePair (busySlots 2147483646)) := by
  have hubAttempts := busy_attempts (hubPair 1) (hubPair 0) (by decide +kernel) (by decide +kernel) 2147483646
  have switchAttempts := busy_attempts (switchPair 1) (switchPair 0) (by decide +kernel) (by decide +kernel) 2147483646
  have hubNone := (Hub.study 2).attempts_exhausted (by decide) idlePair _ _ (busy_hub 2147483646) (by rw [hubAttempts])
  have switchNone := (Switch.study 2).attempts_exhausted (by decide) idlePair _ _ (busy_switch 2147483646)
    (by rw [switchAttempts])
  refine ⟨_, _, busy_hub 2147483646, busy_switch 2147483646, hubNone, switchNone, fun right => ?_⟩
  obtain ⟨tally, ends, -⟩ := right.hubJudged.totals
  rw [hub_study, hubNone] at ends
  cases ends

-- Every index at which col_det stores is one of the n entries. Its k is a uint32_t, and
-- would pass n before it could wrap.
def ListFits {n : Nat} (found : Collisions n) : Prop := ∀ k, k < found.stored.length → k < n

section
variable {n : Nat}

theorem list_fits_iff (found : Collisions n) : ListFits found ↔ found.stored.length ≤ n := by
  constructor
  · intro fits
    by_contra more
    exact Nat.lt_irrefl n (fits n (Nat.lt_of_not_le more))
  · exact fun short k stored => Nat.lt_of_lt_of_le stored short

theorem switch_stores (devices : Fin n → DeviceConfig) :
    (Switch.colDet devices).stored.length = (portConflicts devices).card :=
  lists_length _ _ (switch_lists devices)

theorem hub_stores (devices : Fin n → DeviceConfig) :
    (Hub.colDet devices).stored.length = (senders devices).card * ((senders devices).card - 1) := by
  rw [lists_length _ _ (hub_lists devices), hubConflicts, Finset.offDiag_card, Nat.mul_sub_one]

theorem backoff_stores (devices : Fin n → BinaryExp.DeviceConfig) (t : UInt32) :
    (BinaryExp.colDet devices t).stored.length ≤ n := by
  by_cases many : 2 ≤ (List.finRange n).countP fun i => BinaryExp.transmits (devices i) t
  · rw [BinaryExp.colDet, if_pos many]
    have bound := List.length_filter_le (fun i => BinaryExp.transmits (devices i) t) (List.finRange n)
    rw [List.length_finRange] at bound
    exact bound
  · rw [BinaryExp.colDet, if_neg many]
    exact Nat.zero_le n

end

theorem collision_list_fits (n : Nat) :
    (∀ devices : Fin n → DeviceConfig, ListFits (Switch.colDet devices) ↔ (portConflicts devices).card ≤ n) ∧
    (∀ devices : Fin n → DeviceConfig,
      ListFits (Hub.colDet devices) ↔ (senders devices).card * ((senders devices).card - 1) ≤ n) ∧
    ∀ (devices : Fin n → BinaryExp.DeviceConfig) (t : UInt32), ListFits (BinaryExp.colDet devices t) := by
  refine ⟨fun devices => ?_, fun devices => ?_, fun devices t => ?_⟩
  · rw [list_fits_iff, switch_stores]
  · rw [list_fits_iff, hub_stores]
  · exact (list_fits_iff _).mpr (backoff_stores devices t)

theorem crowded_collision_list :
    (∃ devices : Fin 3 → DeviceConfig, Hub.choose (fun _ => ⟨0, 0, 0⟩) (fun _ => some 1) = some devices ∧
      ¬ ListFits (Hub.colDet devices)) ∧
    ∃ devices : Fin 4 → DeviceConfig,
      Switch.choose (fun _ => ⟨0, 0, 0⟩) ⟨fun i => if i = 3 then some 0 else some 1, fun _ => [some 3]⟩ = some devices ∧
        ¬ ListFits (Switch.colDet devices) := by
  refine ⟨⟨_, rfl, fun fits => ?_⟩, (Switch.choose _ _).get (by decide +kernel), (Option.some_get _).symm, fun fits => ?_⟩
  · exact absurd (fits 3 (by decide +kernel)) (by decide)
  · exact absurd (fits 4 (by decide +kernel)) (by decide)

end OsiStack
