import Mathlib.Algebra.BigOperators.Fin
import Mathlib.Data.Fintype.Card
import Mathlib.Tactic.Common

set_option autoImplicit false

namespace Sweep

variable {n : Nat}

section
variable {Cell Carried : Type}
variable (visit : Fin n → Cell → Carried → Cell × Carried)

def sweepOver (cells : List (Fin n)) (table : Fin n → Cell) (carried : Carried) : (Fin n → Cell) × Carried :=
  cells.foldl
    (fun state i =>
      let (cell, next) := visit i (state.1 i) state.2
      (Function.update state.1 i cell, next))
    (table, carried)

def sweep (table : Fin n → Cell) (carried : Carried) : (Fin n → Cell) × Carried :=
  sweepOver visit (List.finRange n) table carried

theorem sweep_over_cons (i : Fin n) (cells : List (Fin n)) (table : Fin n → Cell) (carried : Carried) :
    sweepOver visit (i :: cells) table carried =
      sweepOver visit cells (Function.update table i (visit i (table i) carried).1) (visit i (table i) carried).2 := rfl

theorem sweep_over_apart (cells : List (Fin n)) (table : Fin n → Cell) (carried : Carried) (i : Fin n) (apart : i ∉ cells) :
    (sweepOver visit cells table carried).1 i = table i := by
  induction cells generalizing table carried with
  | nil => rfl
  | cons first cells ih =>
      rw [List.mem_cons, not_or] at apart
      rw [sweep_over_cons, ih _ _ apart.2, Function.update_of_ne apart.1]

theorem sweep_over_cell (rewritten : Fin n → Cell) (cells : List (Fin n)) (once : cells.Nodup) (table : Fin n → Cell)
    (rewrites : ∀ i ∈ cells, ∀ carried, (visit i (table i) carried).1 = rewritten i) (carried : Carried) (i : Fin n)
    (member : i ∈ cells) : (sweepOver visit cells table carried).1 i = rewritten i := by
  induction cells generalizing table carried with
  | nil => cases member
  | cons first cells ih =>
      rw [List.nodup_cons] at once
      rw [sweep_over_cons]
      rcases List.mem_cons.mp member with rfl | later
      · rw [sweep_over_apart visit cells _ _ i once.1, Function.update_self]
        exact rewrites i List.mem_cons_self carried
      · refine ih once.2 _ (fun j remains value => ?_) _ later
        have other : j ≠ first := fun same => once.1 (same ▸ remains)
        rw [Function.update_of_ne other]
        exact rewrites j (List.mem_cons_of_mem first remains) value

-- Each cell is visited once, so the loop reads the table as it was.
theorem sweep_over_carried (cells : List (Fin n)) (once : cells.Nodup) (table : Fin n → Cell) (carried : Carried) :
    (sweepOver visit cells table carried).2 = cells.foldl (fun value i => (visit i (table i) value).2) carried := by
  induction cells generalizing table carried with
  | nil => rfl
  | cons first cells ih =>
      rw [List.nodup_cons] at once
      rw [sweep_over_cons, ih once.2, List.foldl_cons]
      refine List.foldl_ext _ _ _ fun value i later => ?_
      have other : i ≠ first := fun same => once.1 (same ▸ later)
      rw [Function.update_of_ne other]

theorem sweep_cell (rewritten : Fin n → Cell) (table : Fin n → Cell)
    (rewrites : ∀ i carried, (visit i (table i) carried).1 = rewritten i) (carried : Carried) (i : Fin n) :
    (sweep visit table carried).1 i = rewritten i :=
  sweep_over_cell visit rewritten _ (List.nodup_finRange n) table (fun i _ => rewrites i) carried i (List.mem_finRange i)

theorem sweep_carried (table : Fin n → Cell) (carried : Carried) :
    (sweep visit table carried).2 = (List.finRange n).foldl (fun value i => (visit i (table i) value).2) carried :=
  sweep_over_carried visit _ (List.nodup_finRange n) table carried

end

section
variable (counted : Fin n → Prop) [DecidablePred counted]

theorem count_cells : (List.finRange n).countP (fun i => decide (counted i)) = (Finset.univ.filter counted).card := by
  rw [List.countP_eq_length_filter, ← List.toFinset_card_of_nodup ((List.nodup_finRange n).filter _)]
  congr 1
  ext i
  simp

theorem measured_cells {Carried : Type} (measure : Carried → Nat) (visit : Carried → Fin n → Carried)
    (gains : ∀ carried i, measure (visit carried i) = measure carried + if counted i then 1 else 0) (carried : Carried) :
    measure ((List.finRange n).foldl visit carried) = measure carried + (Finset.univ.filter counted).card := by
  rw [← count_cells counted]
  generalize List.finRange n = cells
  induction cells generalizing carried with
  | nil => rfl
  | cons first cells ih =>
      rw [List.foldl_cons, ih, gains, List.countP_cons]
      simp only [decide_eq_true_eq]
      omega

end

section
variable {Name : Type}
variable (clash : Fin n → Fin n → Bool) (name : Fin n → Name)

def clashes : List Name :=
  (List.finRange n).flatMap fun i =>
    (List.finRange n).filterMap fun j => if i = j then none else if clash i j then some (name i) else none

def clashing : Finset (Fin n × Fin n) := Finset.univ.filter fun pair => pair.1 ≠ pair.2 ∧ clash pair.1 pair.2

theorem mem_clashes (recorded : Name) :
    recorded ∈ clashes clash name ↔ ∃ i j, i ≠ j ∧ clash i j = true ∧ name i = recorded := by
  simp only [clashes, List.mem_flatMap, List.mem_filterMap, List.mem_finRange, true_and]
  refine exists_congr fun i => exists_congr fun j => ?_
  by_cases same : i = j
  · simp [same]
  · by_cases clashed : clash i j = true <;> simp [same, clashed]

def row (i : Fin n) : List Name :=
  (List.finRange n).filterMap fun j => if i = j then none else if clash i j then some (name i) else none

theorem mem_row (i : Fin n) (recorded : Name) (member : recorded ∈ row clash name i) : recorded = name i := by
  rw [row, List.mem_filterMap] at member
  obtain ⟨j, -, passes⟩ := member
  by_cases same : i = j
  · simp [same] at passes
  · by_cases clashed : clash i j = true <;> simp [same, clashed] at passes
    exact passes.symm

theorem count_row (counted : Name → Bool) (i : Fin n) : (row clash name i).countP counted =
    (Finset.univ.filter fun j => (i ≠ j ∧ clash i j = true) ∧ counted (name i) = true).card := by
  rw [← count_cells, row, List.countP_filterMap]
  refine List.countP_congr fun j _ => ?_
  by_cases same : i = j
  · simp [same]
  · by_cases clashed : clash i j = true <;> simp [same, clashed]

theorem count_clashes (counted : Name → Bool) : (clashes clash name).countP counted =
    ((clashing clash).filter fun pair => counted (name pair.1) = true).card := by
  change ((List.finRange n).flatMap (row clash name)).countP counted = _
  rw [List.countP_flatMap]
  simp only [count_row, Function.comp_def]
  rw [← Fin.sum_univ_def, clashing, Finset.filter_filter]
  simp only [Finset.card_filter, Fintype.sum_prod_type]

theorem clashes_sorted [Preorder Name] (monotone : Monotone name) : (clashes clash name).Pairwise (· ≤ ·) := by
  change ((List.finRange n).flatMap (row clash name)).Pairwise (· ≤ ·)
  rw [List.pairwise_flatMap]
  constructor
  · intro i _
    refine List.pairwise_of_forall_mem_list fun first firstMember second secondMember => ?_
    rw [mem_row clash name i first firstMember, mem_row clash name i second secondMember]
  · refine (List.pairwise_lt_finRange n).imp fun {i j} before first firstMember second secondMember => ?_
    rw [mem_row clash name i first firstMember, mem_row clash name j second secondMember]
    exact monotone (Nat.le_of_lt before)

end

section
variable {Item : Type}
variable (items : List Item) (clash : Item → Item → Bool)

def itemClashes : List Item := clashes (fun i j => clash (items.get i) (items.get j)) items.get

def clashingItems [DecidableEq Item] : Finset (Item × Item) :=
  items.toFinset.offDiag.filter fun pair => clash pair.1 pair.2 = true

variable (once : items.Nodup)
include once

theorem mem_item_clashes (item : Item) :
    item ∈ itemClashes items clash ↔ item ∈ items ∧ ∃ other ∈ items, item ≠ other ∧ clash item other = true := by
  rw [itemClashes, mem_clashes]
  constructor
  · rintro ⟨i, j, differ, clashed, rfl⟩
    refine ⟨List.get_mem items i, items.get j, List.get_mem items j, fun same => ?_, clashed⟩
    exact differ (List.nodup_iff_injective_get.mp once same)
  · rintro ⟨member, other, otherMember, differ, clashed⟩
    obtain ⟨i, rfl⟩ := List.get_of_mem member
    obtain ⟨j, rfl⟩ := List.get_of_mem otherMember
    exact ⟨i, j, fun same => differ (congrArg items.get same), clashed, rfl⟩

theorem count_item_clashes [DecidableEq Item] (counted : Item → Bool) : (itemClashes items clash).countP counted =
    ((clashingItems items clash).filter fun pair => counted pair.1 = true).card := by
  have injective := List.nodup_iff_injective_get.mp once
  rw [itemClashes, count_clashes]
  refine Finset.card_bij (fun pair _ => (items.get pair.1, items.get pair.2)) ?_ ?_ ?_
  · intro pair member
    simp only [clashing, Finset.mem_filter, Finset.mem_univ, true_and] at member
    simp only [clashingItems, Finset.mem_filter, Finset.mem_offDiag, List.mem_toFinset]
    obtain ⟨⟨differ, clashed⟩, counts⟩ := member
    exact ⟨⟨⟨List.get_mem _ _, List.get_mem _ _, fun same => differ (injective same)⟩, clashed⟩, counts⟩
  · intro left _ right _ same
    exact Prod.ext (injective (congrArg Prod.fst same)) (injective (congrArg Prod.snd same))
  · rintro ⟨first, second⟩ member
    simp only [clashingItems, Finset.mem_filter, Finset.mem_offDiag, List.mem_toFinset] at member
    obtain ⟨⟨⟨firstMember, secondMember, differ⟩, clashed⟩, counts⟩ := member
    obtain ⟨i, rfl⟩ := List.get_of_mem firstMember
    obtain ⟨j, rfl⟩ := List.get_of_mem secondMember
    refine ⟨(i, j), ?_, rfl⟩
    simp only [clashing, Finset.mem_filter, Finset.mem_univ, true_and]
    exact ⟨⟨fun same => differ (congrArg items.get same), clashed⟩, counts⟩

omit once in
theorem item_clashes_sorted [Preorder Item] (sorted : items.Pairwise (· ≤ ·)) :
    (itemClashes items clash).Pairwise (· ≤ ·) := by
  refine clashes_sorted _ _ fun i j order => ?_
  rcases Nat.lt_or_eq_of_le order with before | same
  · exact List.pairwise_iff_get.mp sorted i j before
  · rw [Fin.ext same]

end

end Sweep
