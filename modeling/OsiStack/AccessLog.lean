import OsiStack.Octets

set_option autoImplicit false

namespace AccessLog

open Octets

inductive Access where
  | octets (start : Int) (count : Nat)
  | size (length : Int)
deriving DecidableEq

-- Every octet lies in a buffer of `n`, and no size comes of a negative length.
def Access.Inside (n : Nat) : Access → Prop
  | .octets start count => ∀ k : Int, start ≤ k → k < start + count → 0 ≤ k ∧ k < n
  | .size length => 0 ≤ length

structure Outcome (α : Type) where
  value : α
  memory : Memory
  log : List Access

def Logged (α : Type) : Type := Memory → Outcome α

instance : Monad Logged where
  pure value := fun m => ⟨value, m, []⟩
  bind x next := fun m =>
    let rest := next (x m).value (x m).memory
    ⟨rest.value, rest.memory, (x m).log ++ rest.log⟩

def readOctet (off : Nat) : Logged UInt8 := fun m => ⟨m off, m, [.octets off 1]⟩
def read (off n : Nat) : Logged (List UInt8) := fun m => ⟨fetch m off n, m, [.octets off n]⟩
def read16 (off : Nat) : Logged UInt16 := fun m => ⟨load16 m off, m, [.octets off 2]⟩
def read32 (off : Nat) : Logged UInt32 := fun m => ⟨load32 m off, m, [.octets off 4]⟩
def readOctets (off n : Nat) : Logged (OctetString n) := fun m => ⟨loadOctets m off n, m, [.octets off n]⟩
def write (off : Nat) (bytes : List UInt8) : Logged Unit := fun m => ⟨(), store m off bytes, [.octets off bytes.length]⟩
def write16 (off : Nat) (v : UInt16) : Logged Unit := write off (bytes16 v)
def write32 (off : Nat) (v : UInt32) : Logged Unit := write off (bytes32 v)
def writeOctets {n : Nat} (off : Nat) (v : OctetString n) : Logged Unit := write off v.val

def read32At (place : Int) : Logged UInt32 := fun m => ⟨load32 m place.toNat, m, [.octets place 4]⟩
def write32At (place : Int) (v : UInt32) : Logged Unit := fun m => ⟨(), store32 m place.toNat v, [.octets place 4]⟩

-- From the front, as many octets as the length is as a 64-bit size.
def readSized (length : Int) : Logged (List UInt8) := fun m =>
  ⟨fetch m 0 length.toNat, m, [.size length, .octets 0 (length % 18446744073709551616).toNat]⟩

def result {α : Type} (x : Logged α) (m : Memory) : α × Memory := ((x m).value, (x m).memory)

def Safe {α : Type} (n : Nat) (x : Logged α) (m : Memory) : Prop := ∀ a ∈ (x m).log, a.Inside n

section
variable {α β : Type} (m : Memory)

-- The parentheses keep simp from using the next two as definitional steps: the
-- kernel would then compare whole programs.
theorem result_pure (value : α) : result (pure value) m = (value, m) := (rfl)

theorem result_bind (x : Logged α) (next : α → Logged β) :
    result (x >>= next) m = result (next (result x m).1) (result x m).2 := (rfl)

theorem result_ite (c : Prop) [Decidable c] (x y : Logged α) :
    result (if c then x else y) m = if c then result x m else result y m := by
  split <;> rfl

theorem result_read_octet (off : Nat) : result (readOctet off) m = (m off, m) := (rfl)

theorem result_read (off n : Nat) : result (read off n) m = (fetch m off n, m) := (rfl)

theorem result_write (off : Nat) (bytes : List UInt8) : result (write off bytes) m = ((), store m off bytes) := (rfl)

end

theorem inside_octets (n : Nat) (start : Int) (count : Nat) (positive : 0 < count) :
    (Access.octets start count).Inside n ↔ 0 ≤ start ∧ start + count ≤ n := by
  rw [Access.Inside]
  constructor
  · intro inside
    have first := inside start (by omega) (by omega)
    have last := inside (start + count - 1) (by omega) (by omega)
    omega
  · intro bounds k low high
    omega

theorem inside_octets_at (n off count : Nat) : (Access.octets off count).Inside n ↔ count = 0 ∨ off + count ≤ n := by
  by_cases empty : count = 0
  · subst empty
    simp only [Access.Inside, true_or, iff_true]
    intro k low high
    omega
  · rw [inside_octets n off count (by omega)]
    omega

section
variable {α β : Type} (n : Nat) (m : Memory)

@[simp] theorem safe_pure (value : α) : Safe n (pure value) m := by
  intro a member
  cases member

@[simp] theorem safe_bind (x : Logged α) (next : α → Logged β) :
    Safe n (x >>= next) m ↔ Safe n x m ∧ Safe n (next (result x m).1) (result x m).2 := by
  simp only [Safe, Bind.bind, List.mem_append, or_imp, forall_and, result]

@[simp] theorem safe_ite (c : Prop) [Decidable c] (x y : Logged α) :
    Safe n (if c then x else y) m ↔ if c then Safe n x m else Safe n y m := by
  split <;> rfl

theorem safe_one (x : Logged α) (a : Access) (only : (x m).log = [a]) : Safe n x m ↔ a.Inside n := by
  simp [Safe, only]

variable (off count : Nat)

@[simp] theorem safe_read_octet : Safe n (readOctet off) m ↔ off + 1 ≤ n := by
  rw [safe_one n m _ (.octets off 1) rfl, inside_octets_at]
  simp

@[simp] theorem safe_read : Safe n (read off count) m ↔ count = 0 ∨ off + count ≤ n := by
  rw [safe_one n m _ (.octets off count) rfl, inside_octets_at]

@[simp] theorem safe_read16 : Safe n (read16 off) m ↔ off + 2 ≤ n := by
  rw [safe_one n m _ (.octets off 2) rfl, inside_octets_at]
  simp

@[simp] theorem safe_read32 : Safe n (read32 off) m ↔ off + 4 ≤ n := by
  rw [safe_one n m _ (.octets off 4) rfl, inside_octets_at]
  simp

@[simp] theorem safe_read_octets : Safe n (readOctets off count) m ↔ count = 0 ∨ off + count ≤ n := by
  rw [safe_one n m _ (.octets off count) rfl, inside_octets_at]

@[simp] theorem safe_write (bytes : List UInt8) : Safe n (write off bytes) m ↔ bytes.length = 0 ∨ off + bytes.length ≤ n := by
  rw [safe_one n m _ (.octets off bytes.length) rfl, inside_octets_at]

@[simp] theorem safe_write16 (v : UInt16) : Safe n (write16 off v) m ↔ off + 2 ≤ n := by
  simp [write16]

@[simp] theorem safe_write32 (v : UInt32) : Safe n (write32 off v) m ↔ off + 4 ≤ n := by
  simp [write32]

@[simp] theorem safe_write_octets (v : OctetString count) :
    Safe n (writeOctets off v) m ↔ count = 0 ∨ off + count ≤ n := by
  simp [writeOctets]

variable (place length : Int)

@[simp] theorem safe_read32_at : Safe n (read32At place) m ↔ 0 ≤ place ∧ place + 4 ≤ n := by
  rw [safe_one n m _ (.octets place 4) rfl, inside_octets n place 4 (by omega)]
  rfl

@[simp] theorem safe_write32_at (v : UInt32) : Safe n (write32At place v) m ↔ 0 ≤ place ∧ place + 4 ≤ n := by
  rw [safe_one n m _ (.octets place 4) rfl, inside_octets n place 4 (by omega)]
  rfl

@[simp] theorem safe_read_sized (short : length < 18446744073709551616) :
    Safe n (readSized length) m ↔ 0 ≤ length ∧ length ≤ n := by
  have both : Safe n (readSized length) m ↔ 0 ≤ length ∧
      (Access.octets 0 (length % 18446744073709551616).toNat).Inside n := by
    simp [Safe, readSized, Access.Inside]
  have span := inside_octets_at n 0 (length % 18446744073709551616).toNat
  rw [both]
  constructor
  · rintro ⟨low, inside⟩
    have bounds := span.mp inside
    rw [Int.emod_eq_of_lt low short] at bounds
    omega
  · rintro ⟨low, high⟩
    refine ⟨low, span.mpr ?_⟩
    rw [Int.emod_eq_of_lt low short]
    omega

end

end AccessLog
