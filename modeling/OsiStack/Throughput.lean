import Mathlib.Algebra.Order.BigOperators.Group.Finset
import OsiStack.Comparison

set_option autoImplicit false

namespace OsiStack

section
variable {n : Nat}

theorem hub_slot_capacity (devices : Fin n → DeviceConfig) : (hubTally devices).successful ≤ 1 := by
  change ((senders devices).filter (Sole devices)).card ≤ 1
  refine Finset.card_le_one.mpr fun i first j second => ?_
  rw [Finset.mem_filter, mem_senders] at first second
  exact second.2 i first.1

def addressed (devices : Fin n → DeviceConfig) : Finset UInt32 := (senders devices).image fun i => (devices i).dstPort

def sendersTo (devices : Fin n → DeviceConfig) (port : UInt32) : Finset (Fin n) :=
  (senders devices).filter fun i => (devices i).dstPort = port

def reaching (devices : Fin n → DeviceConfig) : Finset (Fin n) := (senders devices).filter fun i => ¬ Contended devices i

theorem attempted_ports (devices : Fin n → DeviceConfig) :
    (switchTally devices).attempted = ∑ port ∈ addressed devices, (sendersTo devices port).card :=
  Finset.card_eq_sum_card_image (fun i => (devices i).dstPort) (senders devices)

theorem successful_ports (devices : Fin n → DeviceConfig) :
    (switchTally devices).successful =
      ∑ port ∈ addressed devices, ((reaching devices).filter fun i => (devices i).dstPort = port).card := by
  have within : Set.MapsTo (fun i => (devices i).dstPort) (reaching devices) (addressed devices) := by
    intro i member
    exact Finset.mem_image_of_mem _ (Finset.mem_filter.mp member).1
  exact Finset.card_eq_sum_card_fiberwise within

-- To a port come one frame that reaches it, or two or more of which none does.
theorem port_share (devices : Fin n → DeviceConfig) (port : UInt32) (used : port ∈ addressed devices) :
    ((reaching devices).filter fun i => (devices i).dstPort = port).card ≤ 1 ∧
      2 ≤ (sendersTo devices port).card + ((reaching devices).filter fun i => (devices i).dstPort = port).card := by
  obtain ⟨i, sends, target⟩ := Finset.mem_image.mp used
  have here : i ∈ sendersTo devices port := Finset.mem_filter.mpr ⟨sends, target⟩
  by_cases contended : Contended devices i
  · obtain ⟨other, differ, otherSends, same⟩ := contended
    have there : other ∈ sendersTo devices port :=
      Finset.mem_filter.mpr ⟨(mem_senders devices other).mpr otherSends, same.trans target⟩
    have two : 2 ≤ (sendersTo devices port).card := Finset.one_lt_card.mpr ⟨other, there, i, here, differ⟩
    have nobody : ((reaching devices).filter fun i => (devices i).dstPort = port) = ∅ := by
      refine Finset.filter_eq_empty_iff.mpr fun j member targetJ => ?_
      obtain ⟨-, free⟩ := Finset.mem_filter.mp member
      by_cases self : j = i
      · subst self
        exact free ⟨other, differ, otherSends, same⟩
      · exact free ⟨i, fun equal => self equal.symm, (mem_senders devices i).mp sends, target.trans targetJ.symm⟩
    rw [nobody, Finset.card_empty]
    omega
  · have alone : ((reaching devices).filter fun i => (devices i).dstPort = port) = {i} := by
      ext j
      rw [Finset.mem_filter, Finset.mem_singleton]
      constructor
      · rintro ⟨member, targetJ⟩
        by_contra differ
        exact contended ⟨j, differ, (mem_senders devices j).mp (Finset.mem_filter.mp member).1, targetJ.trans target.symm⟩
      · rintro rfl
        exact ⟨Finset.mem_filter.mpr ⟨sends, contended⟩, target⟩
    have reached : 1 ≤ (sendersTo devices port).card := Finset.card_pos.mpr ⟨i, here⟩
    rw [alone, Finset.card_singleton]
    omega

theorem switch_slot_capacity (devices : Fin n → DeviceConfig) :
    (switchTally devices).successful ≤ (addressed devices).card ∧
      2 * (addressed devices).card ≤ (switchTally devices).attempted + (switchTally devices).successful := by
  have each := port_share devices
  constructor
  · rw [successful_ports, ← Nat.mul_one (addressed devices).card, ← smul_eq_mul]
    exact Finset.sum_le_card_nsmul _ _ 1 fun port used => (each port used).1
  · rw [attempted_ports, successful_ports, ← Finset.sum_add_distrib, Nat.mul_comm, ← smul_eq_mul]
    exact Finset.card_nsmul_le_sum _ _ 2 fun port used => (each port used).2

theorem chosen_slots {Draws : Type} (choose : (Fin n → DeviceConfig) → Draws → Option (Fin n → DeviceConfig))
    (devices : Fin n → DeviceConfig) (slots : List Draws) (configs : List (Fin n → DeviceConfig))
    (chosen : Chosen choose devices slots configs) : configs.length = slots.length := by
  induction slots generalizing devices configs with
  | nil =>
      cases chosen
      rfl
  | cons draws rest ih =>
      obtain ⟨next, later, rfl, -, behind⟩ := chosen
      rw [List.length_cons, List.length_cons, ih next later behind]

theorem total_measured (measure : Tally → Nat) (plus : ∀ a b, measure (a.plus b) = measure a + measure b)
    (tallies : List Tally) (tally : Tally) : measure (total tallies tally) = measure tally + (tallies.map measure).sum := by
  induction tallies generalizing tally with
  | nil => rfl
  | cons first rest ih =>
      have step : total (first :: rest) tally = total rest (tally.plus first) := rfl
      rw [step, ih, plus, List.map_cons, List.sum_cons, Nat.add_assoc]

theorem total_attempted (tallies : List Tally) :
    (total tallies ⟨0, 0, 0⟩).attempted = (tallies.map Tally.attempted).sum := by
  rw [total_measured Tally.attempted fun _ _ => rfl]
  exact Nat.zero_add _

theorem total_successful (tallies : List Tally) :
    (total tallies ⟨0, 0, 0⟩).successful = (tallies.map Tally.successful).sum := by
  rw [total_measured Tally.successful fun _ _ => rfl]
  exact Nat.zero_add _

theorem hub_capacity (configs : List (Fin n → DeviceConfig)) :
    (total (configs.map hubTally) ⟨0, 0, 0⟩).successful ≤ configs.length := by
  have most := List.sum_le_card_nsmul ((configs.map hubTally).map Tally.successful) 1 fun count member => by
    obtain ⟨tally, counted, rfl⟩ := List.mem_map.mp member
    obtain ⟨devices, -, rfl⟩ := List.mem_map.mp counted
    exact hub_slot_capacity devices
  rw [List.length_map, List.length_map, smul_eq_mul, Nat.mul_one] at most
  rw [total_successful]
  exact most

theorem switch_capacity (configs : List (Fin n → DeviceConfig)) :
    (total (configs.map switchTally) ⟨0, 0, 0⟩).successful ≤ (configs.map fun devices => (addressed devices).card).sum ∧
      2 * (configs.map fun devices => (addressed devices).card).sum ≤
        (total (configs.map switchTally) ⟨0, 0, 0⟩).attempted + (total (configs.map switchTally) ⟨0, 0, 0⟩).successful := by
  rw [total_successful, total_attempted, List.map_map, List.map_map]
  induction configs with
  | nil => exact ⟨Nat.le_refl 0, Nat.le_refl 0⟩
  | cons devices rest ih =>
      obtain ⟨most, least⟩ := switch_slot_capacity devices
      simp only [List.map_cons, List.sum_cons, Function.comp_apply]
      omega

end

namespace Switch

section
variable {n : Nat} (ports : n < 4294967296)
include ports

theorem device_index (i : Fin n) : (UInt32.ofNat i).toNat = i := by
  have small := i.isLt
  rw [UInt32.toNat_ofNat']
  exact Nat.mod_eq_of_lt (by omega)

theorem device_index_inj (i j : Fin n) (same : UInt32.ofNat i = UInt32.ofNat j) : i = j := by
  have values := congrArg UInt32.toNat same
  rw [device_index ports i, device_index ports j] at values
  exact Fin.ext values

theorem port_drawn (i : Fin n) (buf : UInt32) :
    randGenerator 0 (UInt32.ofNat n - 1) (some buf) = UInt32.ofNat (buf.toNat % n) := by
  have positive : 0 < n := Nat.zero_lt_of_lt i.isLt
  have less : buf.toNat % n < n := Nat.mod_lt _ positive
  have modulus : UInt32.ofNat n - 1 - 0 + 1 = UInt32.ofNat n := by rw [UInt32.sub_zero, UInt32.sub_add_cancel]
  apply UInt32.toNat_inj.mp
  rw [randGenerator, modulus, UInt32.zero_add, UInt32.toNat_mod, UInt32.toNat_ofNat', UInt32.toNat_ofNat',
    Nat.mod_eq_of_lt (a := n) (by omega), Nat.mod_eq_of_lt (a := buf.toNat % n) (by omega)]

theorem port_result (i : Fin n) (draw : Option UInt32) :
    ∃ j : Fin n, randGenerator 0 (UInt32.ofNat n - 1) draw = UInt32.ofNat j := by
  have positive : 0 < n := Nat.zero_lt_of_lt i.isLt
  cases draw with
  | none => exact ⟨⟨0, positive⟩, rfl⟩
  | some buf => exact ⟨⟨buf.toNat % n, Nat.mod_lt _ positive⟩, port_drawn ports i buf⟩

theorem port_other (i : Fin n) (draws : List (Option UInt32)) (port : UInt32) (chosen : randDstPrt i draws = some port) :
    ∃ j : Fin n, j ≠ i ∧ port = UInt32.ofNat j := by
  induction draws with
  | nil => cases chosen
  | cons draw rest ih =>
      simp only [randDstPrt] at chosen
      by_cases own : randGenerator 0 (UInt32.ofNat n - 1) draw = UInt32.ofNat i
      · rw [if_pos own] at chosen
        exact ih chosen
      · rw [if_neg own, Option.some.injEq] at chosen
        obtain ⟨j, drawn⟩ := port_result ports i draw
        refine ⟨j, fun same => own ?_, chosen.symm.trans drawn⟩
        rw [drawn, same]

theorem port_choosable (i j : Fin n) (differ : j ≠ i) : randDstPrt i [some (UInt32.ofNat j)] = some (UInt32.ofNat j) := by
  have drawn := port_drawn ports i (UInt32.ofNat j)
  rw [device_index ports j, Nat.mod_eq_of_lt j.isLt] at drawn
  simp only [randDstPrt, drawn]
  exact if_neg fun same => differ (device_index_inj ports j i same)

end

section
variable {n : Nat}

theorem pending_draws (i : Fin n) (draws behind : List (Option UInt32)) (pending : randDstPrt i draws = none) :
    randDstPrt i (draws ++ behind) = randDstPrt i behind := by
  induction draws with
  | nil => rfl
  | cons draw rest ih =>
      simp only [randDstPrt] at pending
      by_cases own : randGenerator 0 (UInt32.ofNat n - 1) draw = UInt32.ofNat i
      · rw [if_pos own] at pending
        simp only [List.cons_append, randDstPrt, if_pos own]
        exact ih pending
      · rw [if_neg own] at pending
        cases pending

theorem chosen_port_decide (ports : n < 4294967296) (i : Fin n) (draws : List (Option UInt32)) :
    (∀ port, randDstPrt i draws = some port → ∃ j : Fin n, j ≠ i ∧ port = UInt32.ofNat j) ∧
    (randDstPrt i draws = none → ∀ j : Fin n, j ≠ i ↔ ∃ draw, randDstPrt i (draws ++ [draw]) = some (UInt32.ofNat j)) ∧
    (n = 1 → randDstPrt i draws = none) := by
  refine ⟨port_other ports i draws, fun pending j => ⟨fun differ => ?_, ?_⟩, fun lone => ?_⟩
  · exact ⟨some (UInt32.ofNat j), by rw [pending_draws i draws _ pending]; exact port_choosable ports i j differ⟩
  · rintro ⟨draw, chosen⟩
    obtain ⟨other, differ, same⟩ := port_other ports i _ _ chosen
    rw [device_index_inj ports j other same]
    exact differ
  · cases chosen : randDstPrt i draws with
    | none => rfl
    | some port =>
        obtain ⟨j, differ, -⟩ := port_other ports i draws port chosen
        subst lone
        exact absurd (Subsingleton.elim j i) differ

theorem chosen_port_decide_third : ∃ draw, randDstPrt (2 : Fin 4) ([some 2, some 6] ++ [draw]) = some 3 :=
  ((chosen_port_decide (by decide) (2 : Fin 4) [some 2, some 6]).2.1 (by decide +kernel) 3).mp (by decide)

theorem choose_dst_ports (ids : List (Fin n)) (once : ids.Nodup) (draws : Fin n → List (Option UInt32))
    (target : Fin n → UInt32) (devices : Fin n → DeviceConfig) (sends : ∀ i ∈ ids, (devices i).transmitting ≠ 0)
    (drawn : ∀ i ∈ ids, randDstPrt i (draws i) = some (target i)) : ids.foldlM (chooseDstPort draws) devices =
      some (fun i => if i ∈ ids then { devices i with dstPort := target i } else devices i) := by
  induction ids generalizing devices with
  | nil => simp
  | cons first rest ih =>
      rw [List.nodup_cons] at once
      have apart (i : Fin n) (member : i ∈ rest) : i ≠ first := fun same => once.1 (same ▸ member)
      have head : chooseDstPort draws devices first =
          some (Function.update devices first { devices first with dstPort := target first }) := by
        rw [chooseDstPort, if_pos (sends first List.mem_cons_self), drawn first List.mem_cons_self, Option.map_some]
      rw [List.foldlM_cons, head, Option.bind_eq_bind, Option.bind_some, ih once.2 _ (fun i member => by
          rw [Function.update_of_ne (apart i member)]
          exact sends i (List.mem_cons_of_mem first member)) fun i member => drawn i (List.mem_cons_of_mem first member)]
      congr 1
      funext i
      by_cases here : i = first
      · subst here
        rw [if_neg once.1, if_pos List.mem_cons_self, Function.update_self]
      · by_cases later : i ∈ rest
        · rw [if_pos later, if_pos (List.mem_cons_of_mem first later), Function.update_of_ne here]
        · have absent : i ∉ first :: rest := by simp [here, later]
          rw [if_neg later, if_neg absent, Function.update_of_ne here]

end

end Switch

section
variable {n : Nat}

def nextDevice (i : Fin n) : Fin n := ⟨(i.val + 1) % n, Nat.mod_lt _ (Nat.zero_lt_of_lt i.isLt)⟩

theorem next_device_other (several : 2 ≤ n) (i : Fin n) : nextDevice i ≠ i := by
  intro same
  have value : (i.val + 1) % n = i.val := congrArg Fin.val same
  have small := i.isLt
  by_cases last : i.val + 1 = n
  · rw [last, Nat.mod_self] at value
    omega
  · rw [Nat.mod_eq_of_lt (by omega)] at value
    omega

theorem next_device_inj (i j : Fin n) (same : nextDevice i = nextDevice j) : i = j := by
  have value : (i.val + 1) % n = (j.val + 1) % n := congrArg Fin.val same
  have first := i.isLt
  have second := j.isLt
  by_cases lastI : i.val + 1 = n
  · by_cases lastJ : j.val + 1 = n
    · exact Fin.ext (by omega)
    · rw [lastI, Nat.mod_self, Nat.mod_eq_of_lt (by omega)] at value
      omega
  · by_cases lastJ : j.val + 1 = n
    · rw [lastJ, Nat.mod_self, Nat.mod_eq_of_lt (by omega)] at value
      omega
    · rw [Nat.mod_eq_of_lt (by omega), Nat.mod_eq_of_lt (by omega)] at value
      exact Fin.ext (by omega)

def crossing (n : Nat) : Switch.Draws n := ⟨fun _ => some 1, fun i => [some (UInt32.ofNat (nextDevice i))]⟩

def crossed (devices : Fin n → DeviceConfig) : Fin n → DeviceConfig := fun i =>
  { devices i with transmitting := 1, dstPort := UInt32.ofNat (nextDevice i) }

theorem crossing_sends (i : Fin n) : Flagged (crossing n).transmitting i := by
  change randGenerator 0 1 (some 1) ≠ 0
  decide

theorem crossed_sends (devices : Fin n → DeviceConfig) (i : Fin n) : Sends (crossed devices) i := by
  change (1 : UInt32) ≠ 0
  decide

theorem crossing_chosen (several : 2 ≤ n) (ports : n < 4294967296) (devices : Fin n → DeviceConfig) :
    Switch.choose devices (crossing n) = some (crossed devices) := by
  have chosen := Switch.choose_dst_ports (List.finRange n) (List.nodup_finRange n) (crossing n).dstPort
    (fun i => UInt32.ofNat (nextDevice i)) (chooseTransmitting devices (crossing n).transmitting)
    (fun i _ => crossing_sends i) (fun i _ => Switch.port_choosable ports i (nextDevice i) (next_device_other several i))
  rw [Switch.choose, chosen]
  congr 1
  funext i
  rw [if_pos (List.mem_finRange i)]
  rfl

theorem all_senders (devices : Fin n → DeviceConfig) (sends : ∀ i, Sends devices i) : senders devices = Finset.univ :=
  Finset.filter_true_of_mem fun i _ => sends i

theorem crossed_tally (ports : n < 4294967296) (devices : Fin n → DeviceConfig) :
    switchTally (crossed devices) = ⟨n, n, 0⟩ := by
  have free (i : Fin n) : ¬ Contended (crossed devices) i := by
    rintro ⟨other, differ, -, same⟩
    exact differ (next_device_inj other i (Switch.device_index_inj ports _ _ same))
  have all := all_senders (crossed devices) (crossed_sends devices)
  simp [switchTally, slotTally, all, free]

theorem crowded_tally (several : 2 ≤ n) (devices : Fin n → DeviceConfig) (sends : ∀ i, Sends devices i) :
    hubTally devices = ⟨n, 0, n⟩ := by
  have contested (i : Fin n) : ¬ Sole devices i := fun sole =>
    next_device_other several i (sole (nextDevice i) (sends _))
  simp [hubTally, slotTally, all_senders devices sends, contested]

theorem total_replicate (slot : Tally) (length : Nat) (tally : Tally) : total (List.replicate length slot) tally =
    tally.plus ⟨slot.attempted * length, slot.successful * length, slot.failed * length⟩ := by
  induction length generalizing tally with
  | zero => rfl
  | succ length ih =>
      have step : total (List.replicate (length + 1) slot) tally = total (List.replicate length slot) (tally.plus slot) := rfl
      rw [step, ih]
      simp only [Tally.plus, Nat.mul_succ, Nat.add_assoc, Nat.add_comm (_ * length)]

theorem steady_run {Draws : Type} (study : Study n Draws) (several : n ≠ 1) (small : n < 2147483648)
    (heap : Fin n → DeviceConfig) (draws : Draws) (config : Fin n → DeviceConfig) (length : Nat)
    (first : study.choose (assignPorts heap) draws = some config)
    (again : study.choose config draws = some config) (fits : study.Fits config)
    (few : (senders config).card * length < 2147483648) : study.simulation heap (List.replicate length draws) =
      some (.share ⟨(study.slotTally config).attempted * length, (study.slotTally config).successful * length,
        (study.slotTally config).failed * length⟩) := by
  have chosen := chosen_replicate study.choose (assignPorts heap) config draws length first again
  have sum : attempts (List.replicate length config) = (senders config).card * length := by
    rw [attempts, List.map_replicate, List.sum_replicate, smul_eq_mul, Nat.mul_comm]
  have judged := study.run_in_range_judged several heap _ _ chosen
    ⟨small, by rw [sum]; exact few, fun devices member => (List.eq_of_mem_replicate member) ▸ fits⟩
  obtain ⟨tally, ends, counted, -⟩ := judged.totals
  rw [ends, counted, List.map_replicate, total_replicate]
  simp only [Tally.plus, Nat.zero_add]

structure Throughput (n : Nat) : Prop where
  hub : ∀ (heap : Fin n → DeviceConfig) (slots : List (Fin n → Option UInt32)) (tally : Tally),
    Hub.hubSimulation heap slots = some (.share tally) → tally.successful ≤ slots.length
  switch : ∀ (heap : Fin n → DeviceConfig) (slots : List (Switch.Draws n)) (tally : Tally),
    Switch.switchSimulation heap slots = some (.share tally) →
      ∃ configs, Chosen Switch.choose (assignPorts heap) slots configs ∧
      tally.successful ≤ (configs.map fun devices => (addressed devices).card).sum ∧
      2 * (configs.map fun devices => (addressed devices).card).sum ≤ tally.attempted + tally.successful
  saturated : ∀ (hubHeap switchHeap : Fin n → DeviceConfig) (length : Nat), n * length < 2147483648 →
    ∃ slots : List (Switch.Draws n), slots.length = length ∧
      Switch.switchSimulation switchHeap slots = some (.share ⟨n * length, n * length, 0⟩) ∧
      Hub.hubSimulation hubHeap (slots.map Switch.Draws.transmitting) = some (.share ⟨n * length, 0, n * length⟩)

end

theorem study_throughput (n : Nat) (several : 2 ≤ n) (few : n ≤ 46341) : Throughput n where
  hub heap slots tally ends := by
    have roomy (devices : Fin n → DeviceConfig) : (Hub.study n).Fits devices :=
      (hub_fits_iff devices).mpr (Nat.le_trans (senders_le devices) few)
    obtain ⟨configs, chosen, judged⟩ := (Hub.study n).ended_judged (by omega) heap slots roomy _ ends
    obtain ⟨counted, result, sum, -⟩ := judged.totals
    cases result
    rw [sum, ← chosen_slots _ _ _ _ chosen]
    exact hub_capacity configs
  switch heap slots tally ends := by
    have roomy (devices : Fin n → DeviceConfig) : (Switch.study n).Fits devices :=
      switch_fits devices (Nat.le_trans (senders_le devices) few)
    obtain ⟨configs, chosen, judged⟩ := (Switch.study n).ended_judged (by omega) heap slots roomy _ ends
    obtain ⟨counted, result, sum, -⟩ := judged.totals
    cases result
    rw [sum]
    exact ⟨configs, chosen, switch_capacity configs⟩
  saturated hubHeap switchHeap length room := by
    have one : n ≠ 1 := by omega
    have ports : n < 4294967296 := by omega
    have small : n < 2147483648 := by omega
    refine ⟨List.replicate length (crossing n), List.length_replicate, ?_, ?_⟩
    · have sends := crossed_sends (assignPorts switchHeap)
      have tally : (Switch.study n).slotTally (crossed (assignPorts switchHeap)) = ⟨n, n, 0⟩ := crossed_tally ports _
      have size : (senders (crossed (assignPorts switchHeap))).card = n := congrArg Tally.attempted tally
      have run := steady_run (Switch.study n) one small switchHeap (crossing n) (crossed (assignPorts switchHeap)) length
        (crossing_chosen several ports _) (crossing_chosen several ports _)
        (switch_fits _ (Nat.le_trans (senders_le _) few)) (by rw [size]; exact room)
      rw [tally, Nat.zero_mul] at run
      exact run
    · have tally : (Hub.study n).slotTally (chooseTransmitting (assignPorts hubHeap) (crossing n).transmitting) = ⟨n, 0, n⟩ :=
        crowded_tally several _ crossing_sends
      have size : (senders (chooseTransmitting (assignPorts hubHeap) (crossing n).transmitting)).card = n :=
        congrArg Tally.attempted tally
      have run := steady_run (Hub.study n) one small hubHeap (crossing n).transmitting
        (chooseTransmitting (assignPorts hubHeap) (crossing n).transmitting) length rfl rfl
        ((hub_fits_iff _).mpr (Nat.le_trans (senders_le _) few)) (by rw [size]; exact room)
      rw [tally, Nat.zero_mul] at run
      rw [List.map_replicate]
      exact run

theorem study_throughput_four : Throughput 4 := study_throughput 4 (by decide) (by decide)

end OsiStack
