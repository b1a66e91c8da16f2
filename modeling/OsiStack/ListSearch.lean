import Mathlib.Data.List.Basic
import Mathlib.Tactic.Common

set_option autoImplicit false

namespace ListSearch

section
variable {α : Type}
variable (p : α → Prop)

def IsFirst (list : List α) (i : Nat) (x : α) : Prop :=
  p x ∧ ∃ before after, list = before ++ x :: after ∧ before.length = i ∧ ∀ y ∈ before, ¬ p y

def IsLast (list : List α) (x : α) : Prop :=
  p x ∧ ∃ before after, list = before ++ x :: after ∧ ∀ y ∈ after, ¬ p y

def IsBest (weight : α → Nat) (list : List α) (x : α) : Prop :=
  p x ∧ ∃ before after, list = before ++ x :: after ∧ (∀ y ∈ before, p y → weight y < weight x) ∧
    ∀ y ∈ after, p y → weight y ≤ weight x

structure IsBestAt (weight : α → Nat) (list : List α) (i : Nat) (x : α) : Prop where
  here : list[i]? = some x
  holds : p x
  heaviest : ∀ (j : Nat) (y : α), list[j]? = some y → p y → weight y ≤ weight x
  first : ∀ (j : Nat) (y : α), list[j]? = some y → p y → weight y = weight x → i ≤ j

theorem is_first_get (list : List α) (i : Nat) (x : α) (first : IsFirst p list i x) : list[i]? = some x := by
  obtain ⟨-, before, after, rfl, rfl, -⟩ := first
  simp

theorem is_first_unique (list : List α) (i : Nat) (x : α) (here : list[i]? = some x) (holds : p x)
    (alone : list.Pairwise fun a b => ¬ (p a ∧ p b)) : IsFirst p list i x := by
  obtain ⟨bound, rfl⟩ := List.getElem?_eq_some_iff.mp here
  refine ⟨holds, list.take i, list.drop (i + 1), ?_, List.length_take_of_le (by omega), ?_⟩
  · rw [List.getElem_cons_drop, List.take_append_drop]
  · intro y early both
    obtain ⟨j, less, same⟩ := List.mem_iff_getElem.mp early
    rw [List.length_take] at less
    rw [List.getElem_take] at same
    have apart := List.pairwise_iff_getElem.mp alone j i (by omega) bound (by omega)
    rw [same] at apart
    exact apart ⟨both, holds⟩

theorem is_best_mem (weight : α → Nat) (list : List α) (x : α) (best : IsBest p weight list x) : x ∈ list := by
  obtain ⟨-, before, after, rfl, -⟩ := best
  simp

theorem is_best_bound (weight : α → Nat) (list : List α) (x y : α) (best : IsBest p weight list x) (member : y ∈ list)
    (holds : p y) : weight y ≤ weight x := by
  obtain ⟨-, before, after, rfl, less, atMost⟩ := best
  rcases List.mem_append.mp member with early | late
  · exact Nat.le_of_lt (less y early holds)
  · rcases List.mem_cons.mp late with rfl | later
    · exact Nat.le_refl _
    · exact atMost y later holds

theorem is_best_cons (weight : α → Nat) (first : α) (rest : List α) (x : α) (best : IsBest p weight rest x)
    (lighter : p first → weight first < weight x) : IsBest p weight (first :: rest) x := by
  obtain ⟨holds, before, after, rfl, less, atMost⟩ := best
  refine ⟨holds, first :: before, after, rfl, ?_, atMost⟩
  intro y member
  rcases List.mem_cons.mp member with rfl | early
  · exact lighter
  · exact less y early

theorem is_best_exists (weight : α → Nat) (list : List α) (occurs : ∃ y ∈ list, p y) : ∃ x, IsBest p weight list x := by
  induction list with
  | nil => simp at occurs
  | cons first rest ih =>
      by_cases later : ∃ y ∈ rest, p y
      · obtain ⟨x, best⟩ := ih later
        by_cases heavier : p first ∧ weight x ≤ weight first
        · refine ⟨first, heavier.1, [], rest, rfl, by simp, ?_⟩
          intro y member holds
          exact Nat.le_trans (is_best_bound p weight rest x y best member holds) heavier.2
        · exact ⟨x, is_best_cons p weight first rest x best fun holds => Nat.not_le.mp fun most => heavier ⟨holds, most⟩⟩
      · obtain ⟨y, member, holds⟩ := occurs
        have here : y = first := (List.mem_cons.mp member).resolve_right fun late => later ⟨y, late, holds⟩
        subst here
        exact ⟨y, holds, [], rest, rfl, by simp, fun z late holdsZ => absurd ⟨z, late, holdsZ⟩ later⟩

theorem is_last_exists (list : List α) (occurs : ∃ y ∈ list, p y) : ∃ x, IsLast p list x := by
  induction list with
  | nil => simp at occurs
  | cons first rest ih =>
      by_cases later : ∃ y ∈ rest, p y
      · obtain ⟨x, holds, before, after, rfl, misses⟩ := ih later
        exact ⟨x, holds, first :: before, after, rfl, misses⟩
      · obtain ⟨y, member, holds⟩ := occurs
        have here : y = first := (List.mem_cons.mp member).resolve_right fun late => later ⟨y, late, holds⟩
        subst here
        exact ⟨y, holds, [], rest, rfl, fun z late holdsZ => later ⟨z, late, holdsZ⟩⟩

theorem is_best_at (weight : α → Nat) (before after : List α) (x : α) (holds : p x)
    (less : ∀ y ∈ before, p y → weight y < weight x) (atMost : ∀ y ∈ after, p y → weight y ≤ weight x) :
    IsBestAt p weight (before ++ x :: after) before.length x where
  here := by simp
  holds := holds
  heaviest := by
    intro j y place match'
    exact is_best_bound p weight _ x y ⟨holds, before, after, rfl, less, atMost⟩ (List.mem_of_getElem? place) match'
  first := by
    intro j y place match' same
    by_contra earlier
    rw [List.getElem?_append_left (by omega)] at place
    have lighter := less y (List.mem_of_getElem? place) match'
    omega

variable [DecidablePred p]

theorem find_idx_first (list : List α) (i : Nat) (x : α) (first : IsFirst p list i x) :
    list.findIdx? (fun y => decide (p y)) = some i := by
  obtain ⟨holds, before, after, rfl, rfl, misses⟩ := first
  rw [List.findIdx?_append, List.findIdx?_eq_none_iff.mpr (by simpa using misses), List.findIdx?_cons]
  simp [holds]

theorem find_idx_distinct {β : Type} [DecidableEq β] (key : α → β) (list : List α) (i : Nat) (x : α)
    (here : list[i]? = some x) (distinct : list.Pairwise fun a b => key a ≠ key b) :
    list.findIdx? (fun y => decide (key y = key x)) = some i := by
  have alone := distinct.imp fun {a b} apart (both : key a = key x ∧ key b = key x) => apart (both.1.trans both.2.symm)
  have first := is_first_unique (fun y => key y = key x) list i x here rfl alone
  exact find_idx_first (fun y => key y = key x) list i x first

theorem find_idx_some (list : List α) (i : Nat) (found : list.findIdx? (fun y => decide (p y)) = some i) :
    ∃ x, IsFirst p list i x := by
  obtain ⟨bound, holds, misses⟩ := List.findIdx?_eq_some_iff_getElem.mp found
  refine ⟨list[i], by simpa using holds, list.take i, list.drop (i + 1), ?_, List.length_take_of_le (by omega), ?_⟩
  · rw [List.getElem_cons_drop, List.take_append_drop]
  · intro y early
    obtain ⟨j, less, rfl⟩ := List.mem_iff_getElem.mp early
    rw [List.length_take] at less
    rw [List.getElem_take]
    simpa using misses j (by omega)

theorem find_idx_none (list : List α) : list.findIdx? (fun y => decide (p y)) = none ↔ ∀ y ∈ list, ¬ p y := by
  simp [List.findIdx?_eq_none_iff]

def lastMatch {β : Type} (value : α → β) (list : List α) (found : Option β) : Option β :=
  list.foldl (fun found x => if p x then some (value x) else found) found

theorem last_match_none {β : Type} (value : α → β) (list : List α) (found : Option β) (misses : ∀ y ∈ list, ¬ p y) :
    lastMatch p value list found = found := by
  induction list with
  | nil => rfl
  | cons first rest ih =>
      have miss : ¬ p first := misses first List.mem_cons_self
      rw [lastMatch, List.foldl_cons, if_neg miss]
      exact ih fun y late => misses y (List.mem_cons_of_mem _ late)

theorem last_match_is_last {β : Type} (value : α → β) (list : List α) (found : Option β) (x : α)
    (last : IsLast p list x) : lastMatch p value list found = some (value x) := by
  obtain ⟨holds, before, after, rfl, misses⟩ := last
  rw [lastMatch, List.foldl_append, List.foldl_cons, if_pos holds]
  exact last_match_none p value after (some (value x)) misses

-- A scan that keeps the place and the weight of the best match so far, and gives
-- them up only for a heavier one.
structure Best where
  index : Option Nat
  weight : Int

def scan (weight : α → Nat) : List α → Nat → Best → Best
  | [], _, best => best
  | x :: rest, i, best =>
      if p x ∧ best.weight < (weight x : Int) then scan weight rest (i + 1) ⟨some i, weight x⟩
      else scan weight rest (i + 1) best

theorem scan_append (weight : α → Nat) (left right : List α) (i : Nat) (best : Best) :
    scan p weight (left ++ right) i best = scan p weight right (i + left.length) (scan p weight left i best) := by
  induction left generalizing i best with
  | nil => rfl
  | cons first left ih =>
      have place : i + 1 + left.length = i + (first :: left).length := by simp; omega
      rw [List.cons_append, scan, scan]
      split
      · rw [ih, place]
      · rw [ih, place]

theorem scan_keeps (weight : α → Nat) (list : List α) (i : Nat) (best : Best)
    (lighter : ∀ y ∈ list, p y → (weight y : Int) ≤ best.weight) : scan p weight list i best = best := by
  induction list generalizing i with
  | nil => rfl
  | cons first rest ih =>
      have notHeavier : ¬ (p first ∧ best.weight < (weight first : Int)) := by
        rintro ⟨holds, heavier⟩
        have := lighter first List.mem_cons_self holds
        omega
      rw [scan, if_neg notHeavier]
      exact ih (i + 1) fun y late => lighter y (List.mem_cons_of_mem _ late)

theorem scan_none (weight : α → Nat) (list : List α) (i : Nat) (best : Best) (misses : ∀ y ∈ list, ¬ p y) :
    scan p weight list i best = best :=
  scan_keeps p weight list i best fun y member holds => absurd holds (misses y member)

theorem scan_below (weight : α → Nat) (list : List α) (i : Nat) (best : Best) (bound : Int) (start : best.weight < bound)
    (lighter : ∀ y ∈ list, p y → (weight y : Int) < bound) : (scan p weight list i best).weight < bound := by
  induction list generalizing i best with
  | nil => exact start
  | cons first rest ih =>
      have later (y : α) (late : y ∈ rest) : p y → (weight y : Int) < bound := lighter y (List.mem_cons_of_mem _ late)
      rw [scan]
      split
      · rename_i heavier
        exact ih (i + 1) _ (lighter first List.mem_cons_self heavier.1) later
      · exact ih (i + 1) best start later

theorem scan_is_best (weight : α → Nat) (list : List α) (start : Nat) (best : Best) (x : α) (light : best.weight < 0)
    (isBest : IsBest p weight list x) :
    ∃ i, scan p weight list start best = ⟨some (start + i), weight x⟩ ∧ IsBestAt p weight list i x := by
  obtain ⟨holds, before, after, rfl, less, atMost⟩ := isBest
  refine ⟨before.length, ?_, is_best_at p weight before after x holds less atMost⟩
  have lighter := scan_below p weight before start best (weight x) (by omega) fun y early holdsY => by
    have := less y early holdsY
    omega
  rw [scan_append, scan, if_pos ⟨holds, lighter⟩]
  refine scan_keeps p weight after _ _ fun y late holdsY => ?_
  have := atMost y late holdsY
  simp only
  omega

end

end ListSearch
