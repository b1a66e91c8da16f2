import Mathlib.Data.List.Induction
import Mathlib.Logic.Function.Basic
import Mathlib.Order.Lattice

set_option autoImplicit false

namespace WrappedList

section
variable {α : Type}

def push (list : (UInt32 → Option α) × UInt32) (value : α) : (UInt32 → Option α) × UInt32 :=
  (Function.update list.1 list.2 (some value), list.2 + 1)

def fill (values : List α) : (UInt32 → Option α) × UInt32 := values.foldl push (fun _ => none, 0)

-- No result where the index of the search would overflow.
def search [DecidableEq α] (list : (UInt32 → Option α) × UInt32) (value : α) : Option Bool :=
  if (List.range (min list.2.toNat 2147483648)).any fun i => decide (list.1 (UInt32.ofNat i) = some value) then some true
  else if list.2.toNat < 2147483648 then some false
  else none

theorem fill_concat (values : List α) (value : α) : fill (values ++ [value]) = push (fill values) value := by
  rw [fill, List.foldl_append]
  rfl

theorem fill_index (values : List α) : (fill values).2 = UInt32.ofNat values.length := by
  induction values using List.reverseRecOn with
  | nil => rfl
  | append_singleton values value ih =>
      rw [fill_concat, List.length_append, List.length_singleton, UInt32.ofNat_add, ← ih]
      rfl

theorem fill_get (values : List α) (p : UInt32) (inside : p.toNat < values.length % 4294967296) :
    (fill values).1 p = values[4294967296 * (values.length / 4294967296) + p.toNat]? := by
  induction values using List.reverseRecOn with
  | nil => exact absurd inside (Nat.not_lt_zero _)
  | append_singleton values value ih =>
      rw [List.length_append, List.length_singleton] at inside ⊢
      have rounds : (values.length + 1) / 4294967296 = values.length / 4294967296 := by omega
      have last : (UInt32.ofNat values.length).toNat = values.length % 4294967296 := UInt32.toNat_ofNat'
      rw [fill_concat, push, fill_index, rounds]
      dsimp only
      by_cases written : p = UInt32.ofNat values.length
      · have place : 4294967296 * (values.length / 4294967296) + p.toNat = values.length := by
          rw [written, last]
          exact Nat.div_add_mod _ _
        subst written
        rw [Function.update_self, place, List.getElem?_concat_length]
      · have before : p.toNat < values.length % 4294967296 := by
          have apart : p.toNat ≠ values.length % 4294967296 := fun same => written (UInt32.toNat_inj.mp (same.trans last.symm))
          omega
        rw [Function.update_of_ne written, ih before, List.getElem?_append_left (by omega)]

section
variable [DecidableEq α] (values : List α) (value : α)

theorem search_true : search (fill values) value = some true ↔ ∃ p, p < min (values.length % 4294967296) 2147483648 ∧
    values[4294967296 * (values.length / 4294967296) + p]? = some value := by
  have number : (fill values).2.toNat = values.length % 4294967296 := by rw [fill_index, UInt32.toNat_ofNat']
  have entry (p : Nat) (inside : p < min (values.length % 4294967296) 2147483648) :
      (fill values).1 (UInt32.ofNat p) = values[4294967296 * (values.length / 4294967296) + p]? := by
    have small : (UInt32.ofNat p).toNat = p := by
      rw [UInt32.toNat_ofNat']
      exact Nat.mod_eq_of_lt (by omega)
    rw [fill_get values _ (by omega), small]
  have found : search (fill values) value = some true ↔
      ((List.range (min (values.length % 4294967296) 2147483648)).any fun i =>
        decide ((fill values).1 (UInt32.ofNat i) = some value)) = true := by
    rw [search, number]
    split
    · rename_i stored
      exact iff_of_true rfl stored
    · rename_i missing
      refine iff_of_false ?_ missing
      split <;> simp
  rw [found, List.any_eq_true]
  constructor
  · rintro ⟨p, listed, same⟩
    have inside := List.mem_range.mp listed
    exact ⟨p, inside, by rw [← entry p inside]; exact of_decide_eq_true same⟩
  · rintro ⟨p, inside, same⟩
    exact ⟨p, List.mem_range.mpr inside, by rw [entry p inside]; exact decide_eq_true same⟩

theorem search_false : search (fill values) value = some false ↔
    search (fill values) value ≠ some true ∧ values.length % 4294967296 < 2147483648 := by
  have number : (fill values).2.toNat = values.length % 4294967296 := by rw [fill_index, UInt32.toNat_ofNat']
  rw [search, number]
  split
  · simp
  · split
    · rename_i short
      simp [short]
    · rename_i long
      simp [long]

end

end

theorem sorted_get {α : Type} [LinearOrder α] (values : List α) (sorted : values.Pairwise (· ≤ ·)) (value : α) (bound : Nat) :
    (∃ p, p < bound ∧ values[p]? = some value) ↔
      value ∈ values ∧ values.countP (fun other => decide (other < value)) < bound := by
  induction values generalizing bound with
  | nil => simp
  | cons first rest ih =>
      rw [List.pairwise_cons] at sorted
      obtain ⟨least, behind⟩ := sorted
      have bounded := ih behind
      rcases lt_trichotomy first value with smaller | same | greater
      · have apart : value ≠ first := ne_of_gt smaller
        rw [List.countP_cons_of_pos (by simpa using smaller), List.mem_cons, or_iff_right apart]
        cases bound with
        | zero => simp
        | succ bound =>
            rw [Nat.add_lt_add_iff_right, ← bounded bound]
            constructor
            · rintro ⟨p, inside, found⟩
              cases p with
              | zero => exact absurd (Option.some.inj found) apart.symm
              | succ p => exact ⟨p, by omega, found⟩
            · rintro ⟨p, inside, found⟩
              exact ⟨p + 1, by omega, found⟩
      · subst same
        have noSmaller : (first :: rest).countP (fun other => decide (other < first)) = 0 := by
          rw [List.countP_eq_zero]
          intro other member
          rcases List.mem_cons.mp member with rfl | later
          · simp
          · simpa using least other later
        rw [noSmaller]
        constructor
        · rintro ⟨p, inside, -⟩
          exact ⟨List.mem_cons_self, by omega⟩
        · rintro ⟨-, positive⟩
          exact ⟨0, positive, rfl⟩
      · have absent : value ∉ first :: rest := by
          intro member
          rcases List.mem_cons.mp member with same | later
          · exact absurd same (ne_of_lt greater)
          · exact absurd (least value later) (not_le_of_gt greater)
        refine iff_of_false ?_ fun both => absent both.1
        rintro ⟨p, -, found⟩
        exact absent (List.mem_of_getElem? found)

section
variable {α : Type} [LinearOrder α] (values : List α) (sorted : values.Pairwise (· ≤ ·))
include sorted

theorem search_found (short : values.length < 4294967296) (value : α) : search (fill values) value = some true ↔
    value ∈ values ∧ values.countP (fun other => decide (other < value)) < 2147483648 := by
  have rounds : values.length / 4294967296 = 0 := by omega
  rw [search_true, rounds, Nat.mul_zero, ← sorted_get values sorted value]
  refine exists_congr fun p => ?_
  rw [Nat.zero_add, Nat.mod_eq_of_lt short]
  refine and_congr_left fun found => ?_
  have inside : p < values.length := (List.getElem?_eq_some_iff.mp found).1
  omega

theorem search_missing (short : values.length < 4294967296) (value : α) (absent : value ∉ values) :
    search (fill values) value = some false ↔ values.length < 2147483648 := by
  rw [search_false, ne_eq, search_found values sorted short, Nat.mod_eq_of_lt short]
  exact and_iff_right fun found => absent found.1

theorem search_lost (value : α) (rest : List α) (first : values = value :: rest) (long : 4294967296 ≤ values.length)
    (few : values.countP (fun other => decide (other = value)) < 4294967296) : search (fill values) value ≠ some true := by
  rw [ne_eq, search_true]
  rintro ⟨p, inside, found⟩
  have rounds : 1 ≤ values.length / 4294967296 := by omega
  obtain ⟨within, place⟩ := List.getElem?_eq_some_iff.mp found
  have same (k : Nat) (before : k < 4294967296) (bound : k < values.length) : values[k] = value := by
    have low : value ≤ values[k] := by
      subst first
      cases k with
      | zero => exact le_refl _
      | succ k => exact (List.pairwise_cons.mp sorted).1 _ (List.getElem_mem _)
    have high := List.pairwise_iff_getElem.mp sorted k _ bound within (by omega)
    exact le_antisymm (place ▸ high) low
  have taken : (values.take 4294967296).countP (fun other => decide (other = value)) = 4294967296 := by
    have length : (values.take 4294967296).length = 4294967296 := by
      rw [List.length_take]
      exact Nat.min_eq_left long
    conv_rhs => rw [← length]
    rw [List.countP_eq_length]
    intro other member
    obtain ⟨k, bound, rfl⟩ := List.getElem_of_mem member
    rw [List.getElem_take]
    exact decide_eq_true (same k (by omega) (by omega))
  have part := (List.take_sublist 4294967296 values).countP_le (p := fun other => decide (other = value))
  omega

end

end WrappedList
