import Mathlib.Algebra.Group.Nat.Defs
import Mathlib.Data.List.TakeWhile
import Mathlib.Tactic.Common

set_option autoImplicit false

namespace NumberText

def digit (d : Nat) : UInt8 := UInt8.ofNat (48 + d)

def ascii (s : String) : List UInt8 := s.toList.map fun c => UInt8.ofNat c.toNat

def decimal (n : Nat) : List UInt8 := if n < 10 then [digit n] else decimal (n / 10) ++ [digit (n % 10)]

def numeral (c : UInt8) : Nat :=
  if 48 ≤ c ∧ c ≤ 57 then c.toNat - 48 else if 97 ≤ c ∧ c ≤ 102 then c.toNat - 87
  else if 65 ≤ c ∧ c ≤ 70 then c.toNat - 55 else 255

def isDigitIn (base : Nat) (c : UInt8) : Bool := numeral c < base

def valueIn (base : Nat) (digits : List UInt8) : Nat := digits.foldl (fun n c => base * n + numeral c) 0

def numberIn (base : Nat) (text : List UInt8) : Nat × List UInt8 :=
  (valueIn base (text.takeWhile (isDigitIn base)), text.dropWhile (isDigitIn base))

-- strtoul with base 0, at a digit: 0x begins a hexadecimal number and 0 an octal one.
def strtoul (text : List UInt8) : Nat × List UInt8 :=
  if text.getD 0 0 = 48 then
    if (text.getD 1 0 = 120 ∨ text.getD 1 0 = 88) ∧ isDigitIn 16 (text.getD 2 0) then numberIn 16 (text.drop 2)
    else numberIn 8 text
  else numberIn 10 text

def bigEndian : Nat → Nat → List UInt8
  | 0, _ => []
  | n + 1, value => bigEndian n (value / 256) ++ [UInt8.ofNat (value % 256)]

def isSpace (c : UInt8) : Bool := c = 32 || (9 ≤ c && c ≤ 13)

-- The last number fills what the ones before it leave of the four octets, and only white
-- space may come behind it.
def atonFrom : Nat → List UInt8 → List UInt8 → Option (List UInt8)
  | dots, octets, text =>
      if isDigitIn 10 (text.headD 0) then
        let (value, rest) := strtoul text
        match dots, rest with
        | dots + 1, 46 :: more => if value ≤ 255 then atonFrom dots (octets ++ [UInt8.ofNat value]) more else none
        | 0, 46 :: _ => none
        | _, [] => if value < 256 ^ (4 - octets.length) then some (octets ++ bigEndian (4 - octets.length) value) else none
        | _, c :: _ =>
            if isSpace c ∧ value < 256 ^ (4 - octets.length) then
              some (octets ++ bigEndian (4 - octets.length) value)
            else none
      else none

def aton (text : List UInt8) : Option (List UInt8) := atonFrom 3 [] text

def ntop (a b c d : UInt8) : List UInt8 :=
  decimal a.toNat ++ 46 :: (decimal b.toNat ++ 46 :: (decimal c.toNat ++ 46 :: decimal d.toNat))

theorem digit_facts (d : Nat) (small : d < 10) : (digit d).toNat = 48 + d ∧ numeral (digit d) = d := by
  have value : (digit d).toNat = 48 + d := by
    rw [digit, UInt8.toNat_ofNat']
    omega
  refine ⟨value, ?_⟩
  rw [numeral, if_pos (by rw [UInt8.le_iff_toNat_le, UInt8.le_iff_toNat_le, value]; simp; omega), value]
  omega

theorem decimal_digits (n : Nat) (c : UInt8) (member : c ∈ decimal n) : 48 ≤ c.toNat ∧ c.toNat ≤ 57 := by
  induction n using decimal.induct with
  | case1 n small =>
      rw [decimal, if_pos small, List.mem_singleton] at member
      rw [member, (digit_facts n small).1]
      omega
  | case2 n large ih =>
      rw [decimal, if_neg large] at member
      cases List.mem_append.mp member with
      | inl early => exact ih early
      | inr last =>
          have small : n % 10 < 10 := Nat.mod_lt n (by omega)
          rw [List.mem_singleton.mp last, (digit_facts _ small).1]
          omega

theorem decimal_other (n : Nat) (c : UInt8) (other : ¬ (48 ≤ c.toNat ∧ c.toNat ≤ 57)) : c ∉ decimal n := fun member =>
  other (decimal_digits n c member)

theorem value_decimal (n : Nat) : valueIn 10 (decimal n) = n := by
  induction n using decimal.induct with
  | case1 n small =>
      rw [decimal, if_pos small]
      simp [valueIn, (digit_facts n small).2]
  | case2 n large ih =>
      have small : n % 10 < 10 := Nat.mod_lt n (by omega)
      have last : valueIn 10 (decimal (n / 10) ++ [digit (n % 10)]) = 10 * valueIn 10 (decimal (n / 10)) + n % 10 := by
        simp [valueIn, List.foldl_append, (digit_facts _ small).2]
      rw [decimal, if_neg large, last, ih]
      omega

theorem decimal_injective (m n : Nat) (same : decimal m = decimal n) : m = n := by
  rw [← value_decimal m, same, value_decimal]

theorem decimal_head (n : Nat) : ∃ c rest, decimal n = c :: rest ∧ (c = 48 ↔ n = 0) := by
  induction n using decimal.induct with
  | case1 n small =>
      refine ⟨digit n, [], by rw [decimal, if_pos small], ?_⟩
      rw [← UInt8.toNat_inj, (digit_facts n small).1]
      simp
  | case2 n large ih =>
      obtain ⟨c, rest, head, zero⟩ := ih
      refine ⟨c, rest ++ [digit (n % 10)], by rw [decimal, if_neg large, head]; rfl, ?_⟩
      rw [zero]
      omega

theorem decimal_length (n : Nat) (k : Nat) (below : n < 10 ^ (k + 1)) : (decimal n).length ≤ k + 1 := by
  induction k generalizing n with
  | zero =>
      rw [decimal, if_pos (by simpa using below)]
      rfl
  | succ k ih =>
      by_cases small : n < 10
      · rw [decimal, if_pos small]
        simp
      · have shorter := ih (n / 10) (by rw [Nat.div_lt_iff_lt_mul (by omega), ← Nat.pow_succ]; exact below)
        rw [decimal, if_neg small, List.length_append]
        exact Nat.succ_le_succ shorter

theorem digit_in_ten (c : UInt8) : isDigitIn 10 c = true ↔ 48 ≤ c.toNat ∧ c.toNat ≤ 57 := by
  have bound := c.toNat_lt
  simp only [isDigitIn, numeral, UInt8.le_iff_toNat_le, decide_eq_true_eq]
  simp only [UInt8.reduceToNat]
  split_ifs <;> omega

theorem number_decimal (n : Nat) (rest : List UInt8) (stop : ∀ c, rest.head? = some c → ¬ isDigitIn 10 c) :
    numberIn 10 (decimal n ++ rest) = (n, rest) := by
  have digits : ∀ c ∈ decimal n, isDigitIn 10 c := fun c member => (digit_in_ten c).mpr (decimal_digits n c member)
  have stopped : rest.takeWhile (isDigitIn 10) = [] ∧ rest.dropWhile (isDigitIn 10) = rest := by
    cases rest with
    | nil => exact ⟨rfl, rfl⟩
    | cons c rest =>
        have other := stop c rfl
        simp [other]
  rw [numberIn, List.takeWhile_append_of_pos digits, List.dropWhile_append_of_pos digits, stopped.1, stopped.2,
    List.append_nil, value_decimal]

theorem strtoul_decimal (n : Nat) (rest : List UInt8) (stop : rest = [] ∨ rest.head? = some 46) :
    strtoul (decimal n ++ rest) = (n, rest) := by
  obtain ⟨c, tail, head, zero⟩ := decimal_head n
  by_cases isZero : n = 0
  · subst isZero
    cases rest with
    | nil => decide +kernel
    | cons d rest =>
        have dot : d = 46 := by simpa using stop
        subst dot
        have text : decimal 0 = [48] := by decide +kernel
        rw [text]
        simp [strtoul, numberIn, valueIn, isDigitIn, numeral]
  · have first : (decimal n ++ rest).getD 0 0 = c := by rw [head]; rfl
    rw [strtoul, first, if_neg fun same => isZero (zero.mp same)]
    apply number_decimal
    intro d here
    cases stop with
    | inl empty => rw [empty] at here; cases here
    | inr dot =>
        rw [dot] at here
        cases here
        decide

theorem decimal_starts (n : Nat) (rest : List UInt8) : isDigitIn 10 ((decimal n ++ rest).headD 0) = true := by
  obtain ⟨c, tail, head, -⟩ := decimal_head n
  have digits := decimal_digits n c (by rw [head]; exact List.mem_cons_self)
  rw [head]
  exact (digit_in_ten c).mpr digits

theorem aton_octet (dots : Nat) (octets : List UInt8) (octet : UInt8) (rest : List UInt8) :
    atonFrom (dots + 1) octets (decimal octet.toNat ++ 46 :: rest) = atonFrom dots (octets ++ [octet]) rest := by
  have small := octet.toNat_lt
  rw [atonFrom, if_pos (decimal_starts _ _), strtoul_decimal _ _ (Or.inr rfl)]
  simp only
  rw [if_pos (by omega), UInt8.ofNat_toNat]

theorem aton_last (octets : List UInt8) (octet : UInt8) (three : octets.length = 3) :
    atonFrom 0 octets (decimal octet.toNat) = some (octets ++ [octet]) := by
  have small := octet.toNat_lt
  have starts := decimal_starts octet.toNat []
  have number := strtoul_decimal octet.toNat [] (Or.inl rfl)
  rw [List.append_nil] at starts number
  have one : bigEndian 1 octet.toNat = [octet] := by
    rw [bigEndian, bigEndian, Nat.mod_eq_of_lt small, UInt8.ofNat_toNat]
    rfl
  rw [atonFrom, if_pos starts, number, three]
  simp only
  rw [if_pos (by simpa using small), one]

theorem aton_ntop (a b c d : UInt8) : aton (ntop a b c d) = some [a, b, c, d] := by
  rw [aton, ntop, aton_octet, aton_octet, aton_octet, aton_last _ _ rfl]
  rfl

theorem ntop_length (a b c d : UInt8) : (ntop a b c d).length + 1 ≤ 16 := by
  have three (octet : UInt8) : (decimal octet.toNat).length ≤ 3 :=
    decimal_length octet.toNat 2 (by have small := octet.toNat_lt; omega)
  have first := three a
  have second := three b
  have third := three c
  have last := three d
  simp only [ntop, List.length_append, List.length_cons]
  omega

theorem ntop_printed (a b c d x : UInt8) (member : x ∈ ntop a b c d) : x = 46 ∨ 48 ≤ x.toNat ∧ x.toNat ≤ 57 := by
  simp only [ntop, List.mem_append, List.mem_cons] at member
  rcases member with first | dot | second | dot | third | dot | last
  · exact Or.inr (decimal_digits _ x first)
  · exact Or.inl dot
  · exact Or.inr (decimal_digits _ x second)
  · exact Or.inl dot
  · exact Or.inr (decimal_digits _ x third)
  · exact Or.inl dot
  · exact Or.inr (decimal_digits _ x last)

section
variable {Char : Type} (mark : Char)

theorem piece_first (left right rest rest' : List Char) (free : mark ∉ left) (free' : mark ∉ right)
    (same : left ++ mark :: rest = right ++ mark :: rest') : left = right ∧ rest = rest' := by
  induction left generalizing right with
  | nil =>
      cases right with
      | nil => exact ⟨rfl, (List.cons_eq_cons.mp same).2⟩
      | cons c right =>
          have head := (List.cons_eq_cons.mp same).1
          exact absurd List.mem_cons_self (head ▸ free')
  | cons c left ih =>
      cases right with
      | nil =>
          have head := (List.cons_eq_cons.mp same).1
          exact absurd List.mem_cons_self (head ▸ free)
      | cons d right =>
          obtain ⟨head, tail⟩ := List.cons_eq_cons.mp same
          obtain ⟨equal, behind⟩ := ih right (fun member => free (List.mem_cons_of_mem c member))
            (fun member => free' (List.mem_cons_of_mem d member)) tail
          exact ⟨by rw [head, equal], behind⟩

def lines (pieces : List (List Char)) : List Char := pieces.flatMap fun piece => piece ++ [mark]

theorem lines_injective (left right : List (List Char)) (free : ∀ piece ∈ left, mark ∉ piece)
    (free' : ∀ piece ∈ right, mark ∉ piece) (same : lines mark left = lines mark right) : left = right := by
  induction left generalizing right with
  | nil =>
      cases right with
      | nil => rfl
      | cons piece right => simp [lines] at same
  | cons piece left ih =>
      cases right with
      | nil => simp [lines] at same
      | cons other right =>
          simp only [lines, List.flatMap_cons, List.append_assoc, List.singleton_append] at same
          obtain ⟨equal, behind⟩ := piece_first mark piece other _ _ (free piece List.mem_cons_self)
            (free' other List.mem_cons_self) same
          rw [equal, ih right (fun x member => free x (List.mem_cons_of_mem piece member))
            (fun x member => free' x (List.mem_cons_of_mem other member)) behind]

end

end NumberText
