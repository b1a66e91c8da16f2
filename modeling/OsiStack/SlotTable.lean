import Mathlib.Data.Fin.Tuple.Basic
import Mathlib.Logic.Function.Basic
import Mathlib.Tactic.Common

/- Fixed tables of recycled slots, searched front to back. A slot keeps its key
   after it is freed, so a search may also find a dead slot; `Canonical` says
   that it never finds one in front of a live slot with the same key. -/
set_option autoImplicit false

namespace SlotTable

section
variable {n : Nat} {Key Slot : Type}
variable (key : Slot → Key) (live : Slot → Bool)

theorem update_key (table : Fin n → Slot) (i : Fin n) (slot : Slot) (same : key slot = key (table i)) (j : Fin n) :
    key (Function.update table i slot j) = key (table j) := by
  by_cases here : j = i
  · subst j
    simpa using same
  · rw [Function.update_of_ne here]

variable [DecidableEq Key]

-- Irreducible: a stuck search over a concrete number of slots is costly to unfold.
@[irreducible] def lookup (table : Fin n → Slot) (k : Key) : Option (Fin n) := Fin.find? fun i => decide (key (table i) = k)

@[irreducible] def space (table : Fin n → Slot) : Option (Fin n) := Fin.find? fun i => !live (table i)

def choose (table : Fin n → Slot) (k : Key) : Option (Fin n) :=
  match lookup key table k with
  | some i => some i
  | none => space live table

def Canonical (table : Fin n → Slot) : Prop :=
  ∀ i, live (table i) = true → lookup key table (key (table i)) = some i

theorem lookup_some (table : Fin n → Slot) (k : Key) (i : Fin n) :
    lookup key table k = some i ↔ key (table i) = k ∧ ∀ j, j < i → key (table j) ≠ k := by
  simp only [lookup, Fin.find?_eq_some_iff, decide_eq_true_eq, decide_eq_false_iff_not, ne_eq]

theorem lookup_none (table : Fin n → Slot) (k : Key) : lookup key table k = none ↔ ∀ i, key (table i) ≠ k := by
  simp only [lookup, Fin.find?_eq_none_iff, decide_eq_false_iff_not, ne_eq]

theorem space_some (table : Fin n → Slot) (i : Fin n) :
    space live table = some i ↔ live (table i) = false ∧ ∀ j, j < i → live (table j) = true := by
  simp [space]

theorem space_none (table : Fin n → Slot) : space live table = none ↔ ∀ i, live (table i) = true := by
  simp [space]

theorem space_some_dead (table : Fin n → Slot) (i : Fin n) (found : space live table = some i) : live (table i) = false :=
  ((space_some live table i).mp found).1

theorem lookup_congr (table table' : Fin n → Slot) (k : Key) (same : ∀ i, key (table' i) = key (table i)) :
    lookup key table' k = lookup key table k := by
  simp only [lookup, same]

theorem choose_congr (table table' : Fin n → Slot) (k : Key) (sameKey : ∀ i, key (table' i) = key (table i))
    (sameLive : ∀ i, live (table' i) = live (table i)) : choose key live table' k = choose key live table k := by
  simp only [choose, lookup_congr key table table' k sameKey, space, sameLive]

theorem choose_live (table : Fin n → Slot) (k : Key) (i : Fin n) (chosen : choose key live table k = some i)
    (alive : live (table i) = true) : key (table i) = k ∧ lookup key table k = some i := by
  unfold choose at chosen
  cases found : lookup key table k with
  | some j =>
      rw [found] at chosen
      cases chosen
      exact ⟨((lookup_some key table k i).mp found).1, rfl⟩
  | none =>
      rw [found] at chosen
      have dead := space_some_dead live table i chosen
      rw [dead] at alive
      cases alive

theorem choose_dead (table : Fin n → Slot) (k : Key) (i : Fin n) (chosen : choose key live table k = some i)
    (other : key (table i) ≠ k) : live (table i) = false := by
  by_contra alive
  rw [Bool.not_eq_false] at alive
  exact other (choose_live key live table k i chosen alive).1

theorem canonical_choose (table : Fin n → Slot) (canonical : Canonical key live table) (i : Fin n)
    (alive : live (table i) = true) : choose key live table (key (table i)) = some i := by
  rw [choose, canonical i alive]

theorem canonical_choose_other (table : Fin n → Slot) (k : Key) (i j : Fin n) (chosen : choose key live table k = some i)
    (alive : live (table j) = true) (other : key (table j) ≠ k) : i ≠ j := by
  intro same
  subst same
  rw [choose_dead key live table k i chosen other] at alive
  cases alive

theorem canonical_update (table : Fin n → Slot) (canonical : Canonical key live table) (i : Fin n) (slot : Slot)
    (same : key slot = key (table i)) (alive : live slot = true → live (table i) = true) :
    Canonical key live (Function.update table i slot) := by
  intro j liveJ
  rw [lookup_congr key table _ _ (update_key key table i slot same), update_key key table i slot same]
  apply canonical
  by_cases here : j = i
  · subst j
    exact alive (by simpa using liveJ)
  · simpa [Function.update_of_ne here] using liveJ

theorem canonical_open (table : Fin n → Slot) (canonical : Canonical key live table) (k : Key) (i : Fin n) (slot : Slot)
    (chosen : choose key live table k = some i) (keyed : key slot = k) :
    Canonical key live (Function.update table i slot) := by
  unfold choose at chosen
  cases found : lookup key table k with
  | some first =>
      rw [found] at chosen
      cases chosen
      have here := (lookup_some key table k i).mp found
      have same : key slot = key (table i) := by rw [keyed, here.1]
      intro j liveJ
      rw [lookup_congr key table _ _ (update_key key table i slot same), update_key key table i slot same]
      by_cases at' : j = i
      · subst j
        rw [here.1]
        exact found
      · exact canonical j (by simpa [Function.update_of_ne at'] using liveJ)
  | none =>
      rw [found] at chosen
      have absent := (lookup_none key table k).mp found
      intro j liveJ
      rw [lookup_some]
      refine ⟨rfl, ?_⟩
      intro before less
      by_cases at' : j = i
      · subst j
        rw [Function.update_self, keyed, Function.update_of_ne (Fin.ne_of_lt less)]
        exact absent before
      · rw [Function.update_of_ne at'] at liveJ ⊢
        by_cases there : before = i
        · subst before
          rw [Function.update_self, keyed]
          exact Ne.symm (absent j)
        · rw [Function.update_of_ne there]
          exact ((lookup_some key table _ j).mp (canonical j liveJ)).2 before less

structure OwnSlot {Out : Type} (k : Key) (rewrite : Slot → Slot) (step : (Fin n → Slot) → (Fin n → Slot) × Out) : Prop where
  keyed : ∀ slot, key slot = k → key (rewrite slot) = k
  rewrites : ∀ table i, lookup key table k = some i → (step table).1 = Function.update table i (rewrite (table i))
  answers : ∀ table table' i, lookup key table k = some i → lookup key table' k = some i → table i = table' i →
    (step table).2 = (step table').2

section
variable {Out Out' : Type} (k l : Key) (rewrite rewrite' : Slot → Slot)
variable (step : (Fin n → Slot) → (Fin n → Slot) × Out) (step' : (Fin n → Slot) → (Fin n → Slot) × Out')
variable (own : OwnSlot key k rewrite step) (own' : OwnSlot key l rewrite' step') (apart : k ≠ l)
variable (table : Fin n → Slot) (i j : Fin n) (found : lookup key table k = some i) (found' : lookup key table l = some j)
include own' apart found found'

theorem own_slot_apart : i ≠ j ∧ lookup key (step' table).1 k = some i ∧ (step' table).1 i = table i := by
  have here := ((lookup_some key table k i).mp found).1
  have there := ((lookup_some key table l j).mp found').1
  have separate : i ≠ j := fun same => apart (by rw [← here, ← there, same])
  have keyed : key (rewrite' (table j)) = key (table j) := (own'.keyed (table j) there).trans there.symm
  rw [own'.rewrites table j found', lookup_congr key table _ k (update_key key table j _ keyed)]
  exact ⟨separate, found, Function.update_of_ne separate _ _⟩

include own

theorem own_slot_commute : (step' (step table).1).1 = (step (step' table).1).1 ∧
    (step table).2 = (step (step' table).1).2 ∧ (step' table).2 = (step' (step table).1).2 := by
  obtain ⟨separate, foundLater, same⟩ := own_slot_apart key k l rewrite' step' own' apart table i j found found'
  obtain ⟨-, foundLater', same'⟩ := own_slot_apart key l k rewrite step own apart.symm table j i found' found
  refine ⟨?_, own.answers table _ i found foundLater same.symm, own'.answers table _ j found' foundLater' same'.symm⟩
  rw [own'.rewrites _ j foundLater', own.rewrites _ i foundLater, same, same', own.rewrites table i found,
    own'.rewrites table j found']
  exact Function.update_comm separate _ _ table

end

structure Represents {Value : Type} (of : Value → Slot → Prop) (absent : Value) (values : Key → Value)
    (table : Fin n → Slot) : Prop where
  held : ∀ i, live (table i) = true → of (values (key (table i))) (table i)
  missing : ∀ k, (∀ i, live (table i) = true → key (table i) ≠ k) → values k = absent

section
variable {Value : Type} (of : Value → Slot → Prop) (absent : Value) (values : Key → Value) (table : Fin n → Slot)
variable (represents : Represents key live of absent values table)
include represents

theorem represents_absent (canonical : Canonical key live table) (k : Key)
    (unheld : ∀ i, choose key live table k = some i → live (table i) = false) : values k = absent := by
  apply represents.missing
  intro i alive same
  have found := canonical_choose key live table canonical i alive
  rw [same] at found
  rw [unheld i found] at alive
  cases alive

theorem represents_write (canonical : Canonical key live table) (k : Key) (i : Fin n)
    (chosen : choose key live table k = some i) (slot : Slot) (value : Value)
    (alive : live slot = true → key slot = k ∧ of value slot) (dead : live slot = false → value = absent) :
    Represents key live of absent (Function.update values k value) (Function.update table i slot) where
  held := by
    intro j liveJ
    by_cases here : j = i
    · subst here
      rw [Function.update_self] at liveJ ⊢
      obtain ⟨keyed, holds⟩ := alive liveJ
      rw [keyed, Function.update_self]
      exact holds
    · rw [Function.update_of_ne here] at liveJ ⊢
      have other : key (table j) ≠ k := by
        intro same
        have found := canonical_choose key live table canonical j liveJ
        rw [same, chosen] at found
        exact here (Option.some.inj found).symm
      rw [Function.update_of_ne other]
      exact represents.held j liveJ
  missing := by
    intro l unheld
    by_cases own : l = k
    · subst own
      rw [Function.update_self]
      cases state : live slot with
      | false => exact dead state
      | true =>
          have taken := unheld i
          rw [Function.update_self] at taken
          exact absurd (alive state).1 (taken state)
    · rw [Function.update_of_ne own]
      apply represents.missing
      intro j liveJ
      by_cases here : j = i
      · rw [here] at liveJ ⊢
        rw [(choose_live key live table k i chosen liveJ).1]
        exact Ne.symm own
      · have kept := unheld j
        rw [Function.update_of_ne here] at kept
        exact kept liveJ

omit [DecidableEq Key] in
theorem represents_kept (i : Fin n) (slot : Slot) (sameKey : key slot = key (table i)) (sameLive : live slot = live (table i))
    (still : ∀ value, of value (table i) → of value slot) :
    Represents key live of absent values (Function.update table i slot) := by
  have liveAt := update_key live table i slot sameLive
  have keyAt := update_key key table i slot sameKey
  refine ⟨fun j alive => ?_, fun k unheld => represents.missing k fun j alive => ?_⟩
  · rw [liveAt j] at alive
    rw [keyAt j]
    by_cases here : j = i
    · subst here
      rw [Function.update_self]
      exact still _ (represents.held j alive)
    · rw [Function.update_of_ne here]
      exact represents.held j alive
  · rw [← keyAt j]
    exact unheld j ((liveAt j).trans alive)

omit [DecidableEq Key] in
theorem represents_dead (i : Fin n) (slot : Slot) (before : live (table i) = false) (after : live slot = false) :
    Represents key live of absent values (Function.update table i slot) := by
  have apart (j : Fin n) (alive : live (Function.update table i slot j) = true) : j ≠ i := by
    intro here
    rw [here, Function.update_self, after] at alive
    cases alive
  refine ⟨fun j alive => ?_, fun k unheld => represents.missing k fun j alive => ?_⟩
  · have other := apart j alive
    rw [Function.update_of_ne other] at alive ⊢
    exact represents.held j alive
  · have other : j ≠ i := by
      intro here
      rw [here, before] at alive
      cases alive
    have kept := unheld j
    rw [Function.update_of_ne other] at kept
    exact kept alive

end

end

end SlotTable
