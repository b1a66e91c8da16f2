import OsiStack.EthernetStudy

set_option autoImplicit false

namespace OsiStack

section
variable {n : Nat}

def Sends (devices : Fin n → DeviceConfig) (i : Fin n) : Prop := (devices i).transmitting ≠ 0

instance decidableSends (devices : Fin n → DeviceConfig) : DecidablePred (Sends devices) := fun i =>
  inferInstanceAs (Decidable ((devices i).transmitting ≠ 0))

def senders (devices : Fin n → DeviceConfig) : Finset (Fin n) := Finset.univ.filter (Sends devices)

def Contended (devices : Fin n → DeviceConfig) (i : Fin n) : Prop :=
  ∃ other, other ≠ i ∧ Sends devices other ∧ (devices other).dstPort = (devices i).dstPort

def Sole (devices : Fin n → DeviceConfig) (i : Fin n) : Prop := ∀ other, Sends devices other → other = i

instance decidableContended (devices : Fin n → DeviceConfig) : DecidablePred (Contended devices) := fun _ =>
  Nat.decidableExistsFin _

instance decidableSole (devices : Fin n → DeviceConfig) : DecidablePred (Sole devices) := fun _ =>
  Nat.decidableForallFin _

theorem mem_senders (devices : Fin n → DeviceConfig) (i : Fin n) : i ∈ senders devices ↔ Sends devices i := by
  simp [senders]

theorem count_senders (devices : Fin n → DeviceConfig) :
    (List.finRange n).countP (fun i => decide ((devices i).transmitting ≠ 0)) = (senders devices).card :=
  Sweep.count_cells (Sends devices)

theorem mem_transmitting (devices : Fin n → DeviceConfig) (i : Fin n) :
    i ∈ Switch.transmittingDevices devices ↔ Sends devices i := by
  simp [Switch.transmittingDevices, Sends]

theorem transmitting_once (devices : Fin n → DeviceConfig) : (Switch.transmittingDevices devices).Nodup :=
  (List.nodup_finRange n).filter _

theorem length_transmitting (devices : Fin n → DeviceConfig) :
    (Switch.transmittingDevices devices).length = (senders devices).card := by
  rw [Switch.transmittingDevices, ← List.countP_eq_length_filter, count_senders]

theorem two_senders (devices : Fin n → DeviceConfig) (i other : Fin n) (sends : Sends devices i)
    (otherSends : Sends devices other) (differ : other ≠ i) : 2 ≤ (senders devices).card :=
  Finset.one_lt_card.mpr ⟨other, (mem_senders devices other).mpr otherSends, i, (mem_senders devices i).mpr sends, differ⟩

theorem switch_stored (devices : Fin n → DeviceConfig) (i : Fin n) :
    i ∈ (Switch.colDet devices).stored ↔ Sends devices i ∧ Contended devices i := by
  have mem := Sweep.mem_item_clashes (Switch.transmittingDevices devices)
    (fun device other => decide ((devices device).dstPort = (devices other).dstPort)) (transmitting_once devices) i
  have meaning : Sends devices i ∧ Contended devices i ↔ i ∈ Switch.transmittingDevices devices ∧
      ∃ other ∈ Switch.transmittingDevices devices, i ≠ other ∧
        decide ((devices i).dstPort = (devices other).dstPort) = true := by
    rw [mem_transmitting]
    refine and_congr_right fun _ => exists_congr fun other => ?_
    rw [mem_transmitting, decide_eq_true_iff]
    constructor
    · rintro ⟨differ, sends, same⟩
      exact ⟨sends, differ.symm, same.symm⟩
    · rintro ⟨sends, differ, same⟩
      exact ⟨differ.symm, sends, same.symm⟩
  rw [meaning, ← mem, Switch.colDet]
  by_cases many : 2 ≤ (Switch.transmittingDevices devices).length
  · rw [if_pos many]
  · rw [if_neg many]
    refine ⟨fun member => absurd member List.not_mem_nil, fun member => ?_⟩
    obtain ⟨sends, other, differ, otherSends, -⟩ := meaning.mpr (mem.mp member)
    rw [length_transmitting] at many
    exact absurd (two_senders devices i other sends otherSends differ) many

theorem hub_stored (devices : Fin n → DeviceConfig) (i : Fin n) :
    i ∈ (Hub.colDet devices).stored ↔ Sends devices i ∧ ¬ Sole devices i := by
  have mem := Sweep.mem_clashes
    (fun i j => decide ((devices i).transmitting ≠ 0) && decide ((devices j).transmitting ≠ 0)) (id : Fin n → Fin n) i
  have meaning : Sends devices i ∧ ¬ Sole devices i ↔ ∃ first second : Fin n, first ≠ second ∧
      (decide ((devices first).transmitting ≠ 0) && decide ((devices second).transmitting ≠ 0)) = true ∧ id first = i := by
    simp only [Bool.and_eq_true, decide_eq_true_iff, Sole, not_forall]
    constructor
    · rintro ⟨sends, other, otherSends, differ⟩
      exact ⟨i, other, fun same => differ same.symm, ⟨sends, otherSends⟩, rfl⟩
    · rintro ⟨first, second, differ, ⟨firstSends, secondSends⟩, rfl⟩
      exact ⟨firstSends, second, secondSends, fun same => differ same.symm⟩
  rw [meaning, ← mem, Hub.colDet, count_senders]
  by_cases many : 2 ≤ (senders devices).card
  · rw [if_pos many]
  · rw [if_neg many]
    refine ⟨fun member => absurd member List.not_mem_nil, fun member => ?_⟩
    obtain ⟨sends, contested⟩ := meaning.mpr (mem.mp member)
    simp only [Sole, not_forall] at contested
    obtain ⟨other, otherSends, differ⟩ := contested
    exact absurd (two_senders devices i other sends otherSends differ) many

theorem switch_result (devices : Fin n → DeviceConfig) :
    (Switch.colDet devices).result = decide ((Switch.colDet devices).stored ≠ []) := by
  by_cases many : 2 ≤ (Switch.transmittingDevices devices).length
  · rw [Switch.colDet, if_pos many]
  · rw [Switch.colDet, if_neg many]
    rfl

theorem hub_result (devices : Fin n → DeviceConfig) :
    (Hub.colDet devices).result = decide ((Hub.colDet devices).stored ≠ []) := by
  by_cases many : 2 ≤ (List.finRange n).countP fun i => decide ((devices i).transmitting ≠ 0)
  · rw [Hub.colDet, if_pos many]
  · rw [Hub.colDet, if_neg many]
    rfl

def portConflicts (devices : Fin n → DeviceConfig) : Finset (Fin n × Fin n) :=
  (senders devices).offDiag.filter fun pair => (devices pair.1).dstPort = (devices pair.2).dstPort

def hubConflicts (devices : Fin n → DeviceConfig) : Finset (Fin n × Fin n) := (senders devices).offDiag

structure Lists (stored : List (Fin n)) (conflicts : Finset (Fin n × Fin n)) : Prop where
  sorted : stored.Pairwise (· ≤ ·)
  counts : ∀ counted : Fin n → Bool, stored.countP counted = (conflicts.filter fun pair => counted pair.1 = true).card

theorem lists_none : Lists ([] : List (Fin n)) ∅ := ⟨List.Pairwise.nil, fun _ => by simp⟩

theorem off_diag_empty (members : Finset (Fin n)) (few : ¬ 2 ≤ members.card) : members.offDiag = ∅ := by
  rw [← Finset.card_eq_zero, Finset.offDiag_card]
  have size : members.card = 0 ∨ members.card = 1 := by omega
  rcases size with empty | one
  · rw [empty]
  · rw [one]

theorem switch_lists (devices : Fin n → DeviceConfig) : Lists (Switch.colDet devices).stored (portConflicts devices) := by
  have members : (Switch.transmittingDevices devices).toFinset = senders devices := by
    ext i
    rw [List.mem_toFinset, mem_transmitting, mem_senders]
  by_cases many : 2 ≤ (Switch.transmittingDevices devices).length
  · rw [Switch.colDet, if_pos many]
    have ordered : (Switch.transmittingDevices devices).Pairwise (· ≤ ·) :=
      ((List.pairwise_lt_finRange n).imp fun before => Nat.le_of_lt before).filter _
    refine ⟨Sweep.item_clashes_sorted (Switch.transmittingDevices devices)
      (fun device other => decide ((devices device).dstPort = (devices other).dstPort)) ordered, fun counted => ?_⟩
    have count := Sweep.count_item_clashes (Switch.transmittingDevices devices)
      (fun device other => decide ((devices device).dstPort = (devices other).dstPort)) (transmitting_once devices) counted
    rw [Sweep.clashingItems, members] at count
    simp only [decide_eq_true_eq] at count
    exact count
  · rw [Switch.colDet, if_neg many]
    rw [length_transmitting] at many
    rw [portConflicts, off_diag_empty _ many, Finset.filter_empty]
    exact lists_none

theorem hub_lists (devices : Fin n → DeviceConfig) : Lists (Hub.colDet devices).stored (hubConflicts devices) := by
  by_cases many : 2 ≤ (senders devices).card
  · have pairs : Sweep.clashing (fun i j => decide ((devices i).transmitting ≠ 0) && decide ((devices j).transmitting ≠ 0)) =
        hubConflicts devices := by
      ext pair
      simp only [hubConflicts, Sweep.clashing, Finset.mem_filter, Finset.mem_univ, true_and, Finset.mem_offDiag, mem_senders,
        Bool.and_eq_true, decide_eq_true_iff, Sends]
      rw [and_comm, and_assoc]
    rw [Hub.colDet, count_senders, if_pos many, ← pairs]
    exact ⟨Sweep.clashes_sorted _ id fun _ _ order => order, fun counted => Sweep.count_clashes _ id counted⟩
  · rw [Hub.colDet, count_senders, if_neg many, hubConflicts, off_diag_empty _ many]
    exact lists_none

section
variable (stored : List (Fin n)) (conflicts : Finset (Fin n × Fin n)) (lists : Lists stored conflicts)
include lists

theorem lists_length : stored.length = conflicts.card := by
  have all := lists.counts fun _ => true
  rw [List.countP_true, Finset.filter_true_of_mem fun _ _ => rfl] at all
  exact all

theorem lists_mem (i : Fin n) : i ∈ stored ↔ ∃ pair ∈ conflicts, pair.1 = i := by
  have count := lists.counts fun device => decide (device = i)
  have listed : i ∈ stored ↔ 0 < stored.countP fun device => decide (device = i) := by
    rw [List.countP_pos_iff]
    simp
  rw [listed, count, Finset.card_pos]
  simp only [Finset.Nonempty, Finset.mem_filter, decide_eq_true_eq]

theorem lists_few (i : Fin n) : (stored.countP fun device => decide (device = i)) ≤ n := by
  rw [lists.counts]
  calc (conflicts.filter fun pair => decide (pair.1 = i) = true).card
      ≤ (Finset.univ : Finset (Fin n)).card := by
        refine Finset.card_le_card_of_injOn Prod.snd (fun _ _ => Finset.mem_coe.mpr (Finset.mem_univ _)) ?_
        intro left leftMember right rightMember same
        rw [Finset.mem_coe, Finset.mem_filter, decide_eq_true_eq] at leftMember rightMember
        exact Prod.ext (leftMember.2.trans rightMember.2.symm) same
    _ = n := by rw [Finset.card_univ, Fintype.card_fin]

end

-- The index at which device_col is done with device i.
def searchEnd (conflicts : Finset (Fin n × Fin n)) (i : Fin n) : Nat :=
  if ∃ pair ∈ conflicts, pair.1 = i then (conflicts.filter fun pair => pair.1 < i).card else conflicts.card

structure SlotFits (conflicts : Finset (Fin n × Fin n)) (members : Finset (Fin n)) : Prop where
  listed : conflicts.card < 4294967296
  searched : ∀ i ∈ members, searchEnd conflicts i < 2147483648

section
variable (found : Collisions n) (conflicts : Finset (Fin n × Fin n)) (lists : Lists found.stored conflicts)
include lists

theorem device_col_right (short : conflicts.card < 4294967296) (i : Fin n) :
    HubVsSwitch.deviceCol found i = some (decide (i ∈ found.stored)) ↔ searchEnd conflicts i < 2147483648 := by
  rw [← lists_length _ _ lists] at short
  have smaller := lists.counts fun device => decide (device < i)
  simp only [decide_eq_true_eq] at smaller
  by_cases member : i ∈ found.stored
  · rw [HubVsSwitch.deviceCol, decide_eq_true member, WrappedList.search_found _ lists.sorted short, smaller, searchEnd,
      if_pos ((lists_mem _ _ lists i).mp member)]
    exact and_iff_right member
  · rw [HubVsSwitch.deviceCol, decide_eq_false member, WrappedList.search_missing _ lists.sorted short i member, searchEnd,
      if_neg fun listed => member ((lists_mem _ _ lists i).mpr listed), lists_length _ _ lists]

theorem slot_fits_iff (small : n < 2147483648) (members : Finset (Fin n)) (within : ∀ i ∈ found.stored, i ∈ members) :
    (∀ i ∈ members, HubVsSwitch.deviceCol found i = some (decide (i ∈ found.stored))) ↔ SlotFits conflicts members := by
  constructor
  · intro right
    have listed : conflicts.card < 4294967296 := by
      by_contra long
      rw [← lists_length _ _ lists, Nat.not_lt] at long
      cases storedEq : found.stored with
      | nil => simp [storedEq] at long
      | cons first rest =>
          have member : first ∈ found.stored := by rw [storedEq]; exact List.mem_cons_self
          have hit := right first (within first member)
          rw [decide_eq_true member] at hit
          have few := lists_few _ _ lists first
          exact WrappedList.search_lost found.stored lists.sorted first rest storedEq long (by omega) hit
    exact ⟨listed, fun i member => (device_col_right found conflicts lists listed i).mp (right i member)⟩
  · exact fun fits i member => (device_col_right found conflicts lists fits.listed i).mpr (fits.searched i member)

end

end

end OsiStack
