import OsiStack.Interaction
import Mathlib.Data.List.TakeWhile

set_option autoImplicit false

namespace OsiStack

structure IdCommand (digits : List UInt8) (letter : UInt8) (input : List UInt8) : Prop where
  nonempty : digits ≠ []
  allDigits : ∀ c ∈ digits, isDigitChar c
  command : isCommandChar letter
  parts : input = digits ++ [letter]

def ParsedByGrammar (input : List UInt8) : Prop :=
  (∀ digits letter, IdCommand digits letter input → parseConnectionCommand input = ((digitsValue digits : Int), letter)) ∧
    ((¬ ∃ digits letter, IdCommand digits letter input) → (parseConnectionCommand input).1 = -1)

-- What atoi reads as -1: blanks, a minus, any zeros and a one that no digit follows.
def MinusOne (id : List UInt8) : Prop :=
  ∃ blanks zeros rest, id = blanks ++ 45 :: (zeros ++ 49 :: rest) ∧ (∀ c ∈ blanks, isSpaceChar c) ∧ (∀ c ∈ zeros, c = 48) ∧
    ∀ c ∈ rest.head?, ¬ isDigitChar c

theorem digits_value_snoc (digits : List UInt8) (c : UInt8) :
    digitsValue (digits ++ [c]) = 10 * digitsValue digits + (c.toNat - 48) := by
  rw [digitsValue, List.foldl_append]
  rfl

theorem digit_range (c : UInt8) (digit : isDigitChar c = true) : 48 ≤ c.toNat ∧ c.toNat ≤ 57 := by
  simpa [isDigitChar, UInt8.le_iff_toNat_le] using digit

theorem digits_value_zero (digits : List UInt8) (all : ∀ c ∈ digits, isDigitChar c) :
    digitsValue digits = 0 ↔ ∀ c ∈ digits, c = 48 := by
  induction digits using List.reverseRecOn with
  | nil => simp [digitsValue]
  | append_singleton digits c ih =>
      have range := digit_range c (all c (by simp))
      have before := ih fun d member => all d (List.mem_append_left _ member)
      have zero : c = 48 ↔ c.toNat = 48 := by rw [← UInt8.toNat_inj]; rfl
      rw [digits_value_snoc, List.forall_mem_append, List.forall_mem_singleton, ← before, zero]
      omega

theorem digits_value_one (digits : List UInt8) (all : ∀ c ∈ digits, isDigitChar c) :
    digitsValue digits = 1 ↔ ∃ zeros, digits = zeros ++ [49] ∧ ∀ c ∈ zeros, c = 48 := by
  induction digits using List.reverseRecOn with
  | nil => simp [digitsValue]
  | append_singleton digits c _ =>
      have range := digit_range c (all c (by simp))
      have before := digits_value_zero digits fun d member => all d (List.mem_append_left _ member)
      have one : c = 49 ↔ c.toNat = 49 := by rw [← UInt8.toNat_inj]; rfl
      have split : digitsValue (digits ++ [c]) = 1 ↔ digitsValue digits = 0 ∧ c = 49 := by
        rw [digits_value_snoc, one]
        omega
      rw [split, before]
      constructor
      · rintro ⟨zero, rfl⟩
        exact ⟨digits, rfl, zero⟩
      · rintro ⟨zeros, same, zero⟩
        obtain ⟨rfl, last⟩ := List.append_inj' same rfl
        exact ⟨zero, List.singleton_inj.mp last⟩

theorem take_digits (run rest : List UInt8) (all : ∀ c ∈ run, isDigitChar c) (stop : ∀ c ∈ rest.head?, ¬ isDigitChar c) :
    (run ++ rest).takeWhile isDigitChar = run := by
  rw [List.takeWhile_append_of_pos all]
  cases rest with
  | nil => simp
  | cons c rest =>
      have other := stop c (by simp)
      simp [other]

theorem atoi_digits (digits : List UInt8) (all : ∀ c ∈ digits, isDigitChar c) : atoi digits = digitsValue digits := by
  have whole : digits.takeWhile isDigitChar = digits := by simpa using take_digits digits [] all (by simp)
  cases digits with
  | nil => rfl
  | cons c rest =>
      have range := digit_range c (all c List.mem_cons_self)
      have notSpace : isSpaceChar c = false := by
        simp [isSpaceChar, ← UInt8.toNat_inj, UInt8.le_iff_toNat_le]
        omega
      rw [atoi, List.dropWhile_cons_of_neg (by simp [notSpace])]
      split
      · rename_i same
        rw [(List.cons_eq_cons.mp same).1] at range
        exact absurd range (by decide)
      · rename_i same
        rw [(List.cons_eq_cons.mp same).1] at range
        exact absurd range (by decide)
      · rw [whole]

theorem atoi_minus_one (id : List UInt8) : atoi id = -1 ↔ MinusOne id := by
  constructor
  · intro minus
    rw [atoi] at minus
    split at minus
    · rename_i rest signed
      have value : digitsValue (rest.takeWhile isDigitChar) = 1 := by omega
      obtain ⟨zeros, run, zero⟩ := (digits_value_one _ fun c member => List.mem_takeWhile_imp member).mp value
      refine ⟨id.takeWhile isSpaceChar, zeros, rest.dropWhile isDigitChar, ?_, fun c member => List.mem_takeWhile_imp member,
        zero, ?_⟩
      · calc
          id = id.takeWhile isSpaceChar ++ 45 :: rest := by rw [← signed, List.takeWhile_append_dropWhile]
          _ = id.takeWhile isSpaceChar ++ 45 :: (rest.takeWhile isDigitChar ++ rest.dropWhile isDigitChar) := by
            rw [List.takeWhile_append_dropWhile]
          _ = _ := by rw [run, List.append_assoc, List.singleton_append]
      · intro c first
        have stop := List.head?_dropWhile_not isDigitChar rest
        rw [Option.mem_def.mp first] at stop
        simpa using stop
    · omega
    · omega
  · rintro ⟨blanks, zeros, rest, rfl, blank, zero, stop⟩
    have digits : ∀ c ∈ zeros ++ [49], isDigitChar c := by
      intro c member
      rcases List.mem_append.mp member with early | last
      · rw [zero c early]
        rfl
      · rw [List.mem_singleton.mp last]
        rfl
    have run := take_digits (zeros ++ [49]) rest digits stop
    rw [List.append_assoc, List.singleton_append] at run
    have value := (digits_value_one _ digits).mpr ⟨zeros, rfl, zero⟩
    have signed : (blanks ++ 45 :: (zeros ++ 49 :: rest)).dropWhile isSpaceChar = 45 :: (zeros ++ 49 :: rest) := by
      rw [List.dropWhile_append_of_pos blank]
      rfl
    rw [atoi, signed]
    simp only [run, value]
    rfl

theorem id_command_shape (digits : List UInt8) (letter : UInt8) (input : List UInt8)
    (command : IdCommand digits letter input) :
    2 ≤ input.length ∧ input.getLastD 0 = letter ∧ input.dropLast = digits := by
  have filled := List.length_pos_iff.mpr command.nonempty
  rw [command.parts]
  refine ⟨?_, by simp, by simp⟩
  rw [List.length_append, List.length_singleton]
  omega

theorem id_command_iff (input : List UInt8) (long : ¬ input.length < 2) (letter : isCommandChar (input.getLastD 0)) :
    (∃ digits letter, IdCommand digits letter input) ↔ ∀ c ∈ input.dropLast, isDigitChar c := by
  constructor
  · rintro ⟨digits, letter, command⟩
    rw [(id_command_shape digits letter input command).2.2]
    exact command.allDigits
  · intro all
    have nonempty : input ≠ [] := by
      rintro rfl
      exact long (by decide)
    have whole : input = input.dropLast ++ [input.getLastD 0] := by
      rw [List.getLastD_eq_getLast?, List.getLast?_eq_some_getLast nonempty, Option.getD_some, List.dropLast_append_getLast]
    refine ⟨input.dropLast, input.getLastD 0, ?_, all, letter, whole⟩
    intro empty
    have size := congrArg List.length empty
    rw [List.length_dropLast, List.length_nil] at size
    omega

theorem parse_rejected (input : List UInt8) (bad : input.length < 2 ∨ ¬ isCommandChar (input.getLastD 0)) :
    parseConnectionCommand input = (-1, 0) := by
  unfold parseConnectionCommand
  split
  · rfl
  · rename_i long
    simp only [if_pos (bad.resolve_left long)]

theorem parse_accepted (input : List UInt8) (long : ¬ input.length < 2) (letter : isCommandChar (input.getLastD 0)) :
    parseConnectionCommand input = (atoi input.dropLast, input.getLastD 0) := by
  simp only [parseConnectionCommand, if_neg long, if_neg (not_not_intro letter)]

theorem parsed_by_grammar_iff (input : List UInt8) : ParsedByGrammar input ↔
    input.length < 2 ∨ ¬ isCommandChar (input.getLastD 0) ∨ (∀ c ∈ input.dropLast, isDigitChar c) ∨
      MinusOne input.dropLast := by
  by_cases bad : input.length < 2 ∨ ¬ isCommandChar (input.getLastD 0)
  · have foreign (digits : List UInt8) (letter : UInt8) : ¬ IdCommand digits letter input := by
      intro command
      obtain ⟨long, last, -⟩ := id_command_shape digits letter input command
      rcases bad with short | other
      · omega
      · rw [last] at other
        exact other command.command
    refine ⟨fun _ => bad.imp id Or.inl, fun _ => ⟨fun digits letter command => absurd command (foreign digits letter),
      fun _ => ?_⟩⟩
    rw [parse_rejected input bad]
  · push Not at bad
    obtain ⟨atLeast, letter⟩ := bad
    have long : ¬ input.length < 2 := by omega
    have grammar := id_command_iff input long letter
    rw [ParsedByGrammar, parse_accepted input long letter, grammar]
    by_cases all : ∀ c ∈ input.dropLast, isDigitChar c
    · refine ⟨fun _ => Or.inr (Or.inr (Or.inl all)), fun _ => ⟨?_, fun other => absurd all other⟩⟩
      intro digits last command
      obtain ⟨-, rfl, rfl⟩ := id_command_shape digits last input command
      rw [atoi_digits _ all]
    · have foreign (digits : List UInt8) (last : UInt8) : ¬ IdCommand digits last input :=
        fun command => all (grammar.mp ⟨digits, last, command⟩)
      simp only [long, letter, all, not_true_eq_false, false_or, not_false_eq_true, true_implies, atoi_minus_one]
      exact ⟨fun parsed => parsed.2, fun minus => ⟨fun digits last command => absurd command (foreign digits last), minus⟩⟩

def connectedTable : Table := fun i => if i = 0 then { zeroConnection with connectionStatus := 1 } else zeroConnection

theorem no_number_selects : ¬ ParsedByGrammar [120, 99] ∧ parseConnectionCommand [120, 99] = (0, 99) ∧
    ((interactionHandler 0 connectedTable [120, 99, 10]).table 0).io = 1 ∧
    ((interactionHandler 0 connectedTable [120, 113, 10]).table 0).connectionStatus = 0 ∧
    (interactionHandler 0 connectedTable [120, 113, 10]).sent.length = 1 := by
  have accepted : parseConnectionCommand [120, 99] = (0, 99) := by decide
  have noCommand : ¬ ∃ digits letter, IdCommand digits letter [120, 99] := by
    rw [id_command_iff [120, 99] (by decide) (by decide)]
    exact fun all => absurd (all 120 (by decide)) (by decide)
  refine ⟨?_, accepted, by decide +kernel, by decide +kernel, by decide +kernel⟩
  intro parsed
  have rejected := parsed.2 noCommand
  rw [accepted] at rejected
  exact absurd rejected (by decide)

end OsiStack
