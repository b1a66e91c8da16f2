import Mathlib.Data.Fintype.Card
import Mathlib.Tactic.Common

set_option autoImplicit false

namespace Contention

variable {Device : Type}

-- `due` is the slot of the next attempt, none for a device that is done.
structure State (Device : Type) where
  slot : Nat
  due : Device → Option Nat

def Attempts (s : State Device) (device : Device) : Prop := s.due device = some s.slot

structure Advance (s next : State Device) : Prop where
  slot : next.slot = s.slot + 1
  silent : ∀ device, ¬ Attempts s device → next.due device = s.due device
  alone : ∀ device, Attempts s device → (∀ other, Attempts s other → other = device) → next.due device = none
  collided : ∀ device other, Attempts s device → Attempts s other → other ≠ device →
    ∃ later, next.due device = some later ∧ s.slot < later

def OnTime (s : State Device) : Prop := ∀ device due, s.due device = some due → s.slot ≤ due

def Finishes (s next : State Device) (device : Device) : Prop := s.due device ≠ none ∧ next.due device = none

section
variable (s next : State Device)

theorem attempt_fate (advance : Advance s next) (device : Device) (attempt : Attempts s device) :
    ((∀ other, Attempts s other → other = device) ∧ next.due device = none) ∨
      ∃ later, next.due device = some later ∧ s.slot < later := by
  by_cases sole : ∀ other, Attempts s other → other = device
  · exact Or.inl ⟨sole, advance.alone device attempt sole⟩
  · push Not at sole
    obtain ⟨other, contends, differs⟩ := sole
    exact Or.inr (advance.collided device other attempt contends differs)

theorem advance_on_time (advance : Advance s next) (early : OnTime s) : OnTime next := by
  intro device due pending
  rw [advance.slot]
  by_cases attempt : Attempts s device
  · rcases attempt_fate s next advance device attempt with ⟨-, done⟩ | ⟨later, put, after⟩
    · rw [done] at pending
      cases pending
    · rw [put] at pending
      cases pending
      exact after
  · have kept := advance.silent device attempt
    have before := early device due (kept ▸ pending)
    have other : due ≠ s.slot := fun same => attempt (by rw [Attempts, ← kept, pending, same])
    omega

theorem done_lasting (advance : Advance s next) (device : Device) (done : s.due device = none) : next.due device = none := by
  have silent : ¬ Attempts s device := by
    intro attempt
    rw [Attempts, done] at attempt
    cases attempt
  rw [advance.silent device silent, done]

theorem finishes_alone (advance : Advance s next) (device : Device) (finishes : Finishes s next device) :
    Attempts s device ∧ ∀ other, Attempts s other → other = device := by
  by_cases attempt : Attempts s device
  · rcases attempt_fate s next advance device attempt with ⟨sole, -⟩ | ⟨later, put, -⟩
    · exact ⟨attempt, sole⟩
    · rw [finishes.2] at put
      cases put
  · have kept := advance.silent device attempt
    exact absurd (kept ▸ finishes.2) finishes.1

theorem finishes_exclusive (advance : Advance s next) (device other : Device) (first : Finishes s next device)
    (second : Finishes s next other) : device = other :=
  (finishes_alone s next advance other second).2 device (finishes_alone s next advance device first).1

end

section
variable (history : Nat → State Device) (length : Nat)
variable (advances : ∀ k, k < length → Advance (history k) (history (k + 1)))
include advances

theorem on_time_throughout (start : OnTime (history 0)) (k : Nat) (within : k ≤ length) : OnTime (history k) := by
  induction k with
  | zero => exact start
  | succ k ih => exact advance_on_time _ _ (advances k within) (ih (Nat.le_of_lt within))

theorem slot_throughout (start : (history 0).slot = 0) (k : Nat) (within : k ≤ length) : (history k).slot = k := by
  induction k with
  | zero => exact start
  | succ k ih => rw [(advances k within).slot, ih (Nat.le_of_lt within)]

theorem done_throughout (device : Device) (j k : Nat) (order : j ≤ k) (within : k ≤ length)
    (done : (history j).due device = none) : (history k).due device = none := by
  induction k, order using Nat.le_induction with
  | base => exact done
  | succ k _ ih => exact done_lasting _ _ (advances k within) device (ih (Nat.le_of_lt within))

theorem finishes_once (device : Device) (j k : Nat) (first : j < length) (second : k < length)
    (early : Finishes (history j) (history (j + 1)) device) (late : Finishes (history k) (history (k + 1)) device) :
    j = k := by
  rcases Nat.lt_trichotomy j k with before | same | after
  · exact absurd (done_throughout history length advances device (j + 1) k before (Nat.le_of_lt second) early.2) late.1
  · exact same
  · exact absurd (done_throughout history length advances device (k + 1) j after (Nat.le_of_lt first) late.2) early.1

omit advances in
theorem finishes_some (device : Device) (start : (history 0).due device ≠ none) (k : Nat)
    (done : (history k).due device = none) : ∃ j, j < k ∧ Finishes (history j) (history (j + 1)) device := by
  induction k with
  | zero => exact absurd done start
  | succ k ih =>
      by_cases earlier : (history k).due device = none
      · obtain ⟨j, before, finishes⟩ := ih earlier
        exact ⟨j, Nat.lt_succ_of_lt before, finishes⟩
      · exact ⟨k, Nat.lt_succ_self k, earlier, done⟩

theorem finishes_exactly_once (device : Device) (start : (history 0).due device ≠ none)
    (done : (history length).due device = none) :
    ∃! k, k < length ∧ Finishes (history k) (history (k + 1)) device := by
  obtain ⟨k, within, finishes⟩ := finishes_some history device start length done
  refine ⟨k, ⟨within, finishes⟩, ?_⟩
  rintro j ⟨before, again⟩
  exact finishes_once history length advances device j k before within again finishes

theorem card_le_length [Fintype Device] (start : ∀ device, (history 0).due device ≠ none)
    (done : ∀ device, (history length).due device = none) : Fintype.card Device ≤ length := by
  have served (device : Device) := finishes_some history device (start device) length (done device)
  choose slot within finishes using served
  have injective : Function.Injective fun device => (⟨slot device, within device⟩ : Fin length) := by
    intro device other same
    have slots : slot device = slot other := congrArg Fin.val same
    have second := finishes other
    rw [← slots] at second
    exact finishes_exclusive _ _ (advances _ (within device)) device other (finishes device) second
  have bound := Fintype.card_le_of_injective _ injective
  rwa [Fintype.card_fin] at bound

end

end Contention
