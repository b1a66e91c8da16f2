import Mathlib.Logic.Function.Basic
import Mathlib.Tactic.Common

set_option autoImplicit false

namespace Runs

section
variable {State Event : Type}
variable (step : State → Event → State)

def run (s : State) (events : List Event) : State := events.foldl step s

def Always (P : State → Event → Prop) : State → List Event → Prop
  | _, [] => True
  | s, e :: rest => P s e ∧ Always P (step s e) rest

instance decidableAlways (P : State → Event → Prop) [∀ s e, Decidable (P s e)] :
    ∀ s events, Decidable (Always step P s events)
  | _, [] => .isTrue trivial
  | s, e :: rest => @instDecidableAnd (P s e) _ _ (decidableAlways P (step s e) rest)

def outputs {Out : Type} (out : State → Event → Out) : State → List Event → List Out
  | _, [] => []
  | s, e :: rest => out s e :: outputs out (step s e) rest

@[simp] theorem run_cons (s : State) (e : Event) (rest : List Event) :
    run step s (e :: rest) = run step (step s e) rest := rfl

theorem run_append (s : State) (before after : List Event) :
    run step s (before ++ after) = run step (run step s before) after := by
  simp [run]

theorem outputs_append {Out : Type} (out : State → Event → Out) (s : State) (before after : List Event) :
    outputs step out s (before ++ after) = outputs step out s before ++ outputs step out (run step s before) after := by
  induction before generalizing s with
  | nil => rfl
  | cons e before ih =>
      rw [List.cons_append, outputs, outputs, ih, List.cons_append]
      rfl

theorem run_take_succ (s : State) (events : List Event) (k : Nat) (within : k < events.length) :
    run step s (events.take (k + 1)) = step (run step s (events.take k)) events[k] := by
  rw [List.take_succ_eq_append_getElem within, run_append]
  rfl

theorem run_project {Base : Type} (base : Base → Event → Base) (project : State → Base)
    (same : ∀ s e, project (step s e) = base (project s) e) (s : State) (events : List Event) :
    project (run step s events) = run base (project s) events := by
  induction events generalizing s with
  | nil => rfl
  | cons e rest ih => rw [run_cons, run_cons, ih, same]

theorem always_fold (attempt : State → Event → Option State) (s : State) (events : List Event)
    (succeeds : Always step (fun s e => attempt s e = some (step s e)) s events) :
    events.foldlM attempt s = some (run step s events) := by
  induction events generalizing s with
  | nil => rfl
  | cons e rest ih =>
      rw [List.foldlM_cons, succeeds.1]
      exact ih (step s e) succeeds.2

theorem always_congr (P Q : State → Event → Prop) (same : ∀ s e, P s e ↔ Q s e) (s : State) (events : List Event) :
    Always step P s events ↔ Always step Q s events := by
  induction events generalizing s with
  | nil => rfl
  | cons e rest ih => rw [Always, Always, same s e, ih]

theorem always_at (P : State → Event → Prop) (s : State) (before : List Event) (e : Event) (rest : List Event)
    (always : Always step P s (before ++ e :: rest)) : P (run step s before) e := by
  induction before generalizing s with
  | nil => exact always.1
  | cons first before ih => exact ih (step s first) always.2

theorem always_get (P : State → Event → Prop) (s : State) (events : List Event) (always : Always step P s events) (k : Nat)
    (within : k < events.length) : P (run step s (events.take k)) events[k] := by
  have split : events = events.take k ++ events[k] :: events.drop (k + 1) := by
    rw [← List.drop_eq_getElem_cons within, List.take_append_drop]
  exact always_at step P s (events.take k) events[k] (events.drop (k + 1)) (split ▸ always)

theorem always_before (P : State → Event → Prop) (s : State) (before after : List Event)
    (always : Always step P s (before ++ after)) : Always step P s before := by
  induction before generalizing s with
  | nil => trivial
  | cons first before ih => exact ⟨always.1, ih (step s first) always.2⟩

theorem run_invariant (Inv : State → Prop) (preserved : ∀ s e, Inv s → Inv (step s e)) (s : State)
    (events : List Event) (start : Inv s) : Inv (run step s events) := by
  induction events generalizing s with
  | nil => exact start
  | cons e rest ih => exact ih (step s e) (preserved s e start)

theorem always_of_invariant (Inv : State → Prop) (Guard Goal : State → Event → Prop)
    (preserved : ∀ s e, Inv s → Guard s e → Inv (step s e)) (goal : ∀ s e, Inv s → Guard s e → Goal s e)
    (s : State) (events : List Event) (start : Inv s) (guarded : Always step Guard s events) :
    Always step Goal s events := by
  induction events generalizing s with
  | nil => trivial
  | cons e rest ih =>
      obtain ⟨here, later⟩ := guarded
      exact ⟨goal s e start here, ih (step s e) (preserved s e start here) later⟩

theorem always_congr_guarded (Inv : State → Prop) (P Q : State → Event → Prop)
    (preserved : ∀ s e, Inv s → P s e → Inv (step s e)) (same : ∀ s e, Inv s → (P s e ↔ Q s e)) (s : State)
    (events : List Event) (start : Inv s) : Always step P s events ↔ Always step Q s events := by
  induction events generalizing s with
  | nil => rfl
  | cons e rest ih =>
      rw [Always, Always, ← same s e start]
      exact and_congr_right fun here => ih (step s e) (preserved s e start here)

theorem always_invariant (Inv : State → Prop) (Guard : State → Event → Prop)
    (preserved : ∀ s e, Inv s → Guard s e → Inv (step s e)) (s : State) (events : List Event) (start : Inv s)
    (guarded : Always step Guard s events) : Inv (run step s events) := by
  induction events generalizing s with
  | nil => exact start
  | cons e rest ih => exact ih (step s e) (preserved s e start guarded.1) guarded.2

end

section
variable {Key State Event : Type} [DecidableEq Key]
variable (step : State → Event → State)

def keyed (machines : Key → State) (e : Key × Event) : Key → State := Function.update machines e.1 (step (machines e.1) e.2)

theorem run_keyed (machines : Key → State) (events : List (Key × Event)) (k : Key) :
    run (keyed step) machines events k = run step (machines k) ((events.filter fun e => e.1 = k).map Prod.snd) := by
  induction events generalizing machines with
  | nil => rfl
  | cons e rest ih =>
      rw [run_cons, ih, keyed]
      by_cases own : e.1 = k
      · subst own
        rw [Function.update_self, List.filter_cons_of_pos (by simp), List.map_cons, run_cons]
      · rw [Function.update_of_ne (Ne.symm own), List.filter_cons_of_neg (by simpa using own)]

end

-- Two runs, the second of the first one's marked events only. Where unmarked events keep the
-- relation of the states and marked ones keep it and give out the same, the two give out the
-- same on the marked events.
section
variable {State Event Out : Type}
variable (step : State → Event → State) (out : State → Event → Out) (marked : Event → Bool)

def markedOutputs (s : State) (events : List Event) : List Out :=
  (outputs step (fun s e => if marked e then some (out s e) else none) s events).filterMap id

theorem outputs_unmarked (Related : State → State → Prop) (Guard : State → Event → Prop)
    (others : ∀ s t e, Related s t → marked e = false → Guard s e → Related (step s e) t)
    (own : ∀ s t e, Related s t → marked e = true → Guard s e → Related (step s e) (step t e) ∧ out s e = out t e)
    (s t : State) (events : List Event) (related : Related s t) (guarded : Always step Guard s events) :
    markedOutputs step out marked s events = outputs step out t (events.filter marked) := by
  induction events generalizing s t with
  | nil => rfl
  | cons e rest ih =>
      cases mark : marked e with
      | true =>
          obtain ⟨next, same⟩ := own s t e related mark guarded.1
          rw [List.filter_cons_of_pos mark, outputs, ← ih (step s e) (step t e) next guarded.2, ← same]
          simp [markedOutputs, outputs, mark]
      | false =>
          have next := others s t e related mark guarded.1
          rw [List.filter_cons_of_neg (by simp [mark]), ← ih (step s e) t next guarded.2]
          simp [markedOutputs, outputs, mark]

end

end Runs

namespace Walks

inductive Walk {State : Type} (step : State → State → Prop) : Nat → State → State → Prop
  | stay (s : State) : Walk step 0 s s
  | take (n : Nat) (s t u : State) (first : step s t) (rest : Walk step n t u) : Walk step (n + 1) s u

section
variable {State : Type} (step : State → State → Prop)

theorem walk_one (s t : State) (only : step s t) : Walk step 1 s t := .take 0 s t t only (.stay t)

theorem walk_append (m n : Nat) (s t u : State) (before : Walk step m s t) (after : Walk step n t u) :
    Walk step (n + m) s u := by
  induction before with
  | stay => exact after
  | take m s t' t first _ ih => exact .take (n + m) s t' u first (ih after)

theorem walk_simulated {Other : Type} (led : Other → Other → Prop) (Matches : Nat → State → Other → Prop)
    (forward : ∀ n s t o, step s t → Matches (n + 1) s o → ∃ p, led o p ∧ Matches n t p) (n k : Nat) (s t : State) (o : Other)
    (walk : Walk step n s t) (start : Matches (n + k) s o) : ∃ p, Walk led n o p ∧ Matches k t p := by
  induction walk generalizing o with
  | stay s =>
      rw [Nat.zero_add] at start
      exact ⟨o, .stay o, start⟩
  | take n s t u first _ ih =>
      rw [Nat.add_right_comm] at start
      obtain ⟨p, next, matched⟩ := forward (n + k) s t o first start
      obtain ⟨q, rest, last⟩ := ih p matched
      exact ⟨q, .take n o p q next rest, last⟩

end

end Walks
