import Mathlib.Data.List.Range
import Mathlib.Tactic.Common

set_option autoImplicit false

namespace Octets

abbrev Memory := Nat → UInt8

def fetch (m : Memory) (off n : Nat) : List UInt8 := (List.range n).map fun i => m (off + i)

def store (m : Memory) (off : Nat) (bytes : List UInt8) : Memory :=
  fun i => if off ≤ i ∧ i < off + bytes.length then bytes.getD (i - off) 0 else m i

def ofList (bytes : List UInt8) : Memory := fun i => bytes.getD i 0

theorem every_octet (p : UInt8 → Prop) (all : ∀ k : Fin 256, p (UInt8.ofNat k)) (octet : UInt8) : p octet := by
  have value := all ⟨octet.toNat, octet.toNat_lt⟩
  rwa [UInt8.ofNat_toNat] at value

@[simp] theorem fetch_length (m : Memory) (off n : Nat) : (fetch m off n).length = n := by
  simp [fetch]

@[simp] theorem fetch_zero (m : Memory) (off : Nat) : fetch m off 0 = [] := rfl

theorem fetch_getD (m : Memory) (off n i : Nat) (bound : i < n) : (fetch m off n).getD i 0 = m (off + i) := by
  simp [fetch, List.getD, bound]

theorem fetch_add (m : Memory) (off a b : Nat) : fetch m off (a + b) = fetch m off a ++ fetch m (off + a) b := by
  simp [fetch, List.range_add, Nat.add_assoc, Function.comp_def]

theorem fetch_congr (m m' : Memory) (off n : Nat) (same : ∀ i, off ≤ i → i < off + n → m i = m' i) :
    fetch m off n = fetch m' off n := by
  apply List.map_congr_left
  intro i member
  have bound := List.mem_range.mp member
  exact same (off + i) (by omega) (by omega)

@[simp] theorem store_outside (m : Memory) (off i : Nat) (bytes : List UInt8) (outside : i < off ∨ off + bytes.length ≤ i) :
    store m off bytes i = m i := by
  have miss : ¬ (off ≤ i ∧ i < off + bytes.length) := by omega
  rw [store, if_neg miss]

theorem store_inside (m : Memory) (off i : Nat) (bytes : List UInt8) (low : off ≤ i) (high : i < off + bytes.length) :
    store m off bytes i = bytes.getD (i - off) 0 := by
  rw [store, if_pos ⟨low, high⟩]

theorem store_nil (m : Memory) (off : Nat) : store m off [] = m :=
  funext fun i => store_outside m off i [] (by simp; omega)

theorem store_cons (m : Memory) (off : Nat) (b : UInt8) (bytes : List UInt8) :
    store (store m off [b]) (off + 1) bytes = store m off (b :: bytes) := by
  funext i
  by_cases first : i = off
  · subst first
    rw [store_outside _ _ _ _ (by omega), store_inside _ _ _ _ (by omega) (by simp), store_inside _ _ _ _ (by omega) (by simp)]
    simp
  · by_cases later : off + 1 ≤ i ∧ i < off + 1 + bytes.length
    · obtain ⟨k, rfl⟩ := Nat.exists_eq_add_of_le later.1
      rw [store_inside _ _ _ _ (by omega) (by omega), store_inside _ _ _ _ (by omega) (by simp; omega)]
      have next : off + 1 + k - off = k + 1 := by omega
      rw [Nat.add_sub_cancel_left, next, List.getD_cons_succ]
    · rw [store_outside _ _ _ _ (by omega), store_outside _ _ _ _ (by simp; omega), store_outside _ _ _ _ (by simp; omega)]

theorem fetch_store_outside (m : Memory) (off n at' : Nat) (bytes : List UInt8)
    (apart : off + n ≤ at' ∨ at' + bytes.length ≤ off) : fetch (store m at' bytes) off n = fetch m off n := by
  apply fetch_congr
  intro i low high
  exact store_outside m at' i bytes (by omega)

theorem fetch_store_same (m : Memory) (off n : Nat) (bytes : List UInt8) (size : bytes.length = n) :
    fetch (store m off bytes) off n = bytes := by
  subst size
  apply List.ext_getElem (by simp)
  intro i _ bound
  simp [fetch, store_inside m off (off + i) bytes (by omega) (by omega), List.getD, bound]

theorem of_list_fetch (m : Memory) (n i : Nat) (bound : i < n) : ofList (fetch m 0 n) i = m i := by
  rw [ofList, fetch_getD m 0 n i bound, Nat.zero_add]

def word16 (bytes : List UInt8) : UInt16 :=
  UInt16.ofNat ((bytes.getD 0 0).toNat + 256 * (bytes.getD 1 0).toNat)

def bytes16 (v : UInt16) : List UInt8 := [UInt8.ofNat v.toNat, UInt8.ofNat (v.toNat / 256)]

def word32 (bytes : List UInt8) : UInt32 :=
  UInt32.ofNat ((bytes.getD 0 0).toNat + 256 * ((bytes.getD 1 0).toNat +
    256 * ((bytes.getD 2 0).toNat + 256 * (bytes.getD 3 0).toNat)))

def bytes32 (v : UInt32) : List UInt8 :=
  [UInt8.ofNat v.toNat, UInt8.ofNat (v.toNat / 256), UInt8.ofNat (v.toNat / 256 / 256),
    UInt8.ofNat (v.toNat / 256 / 256 / 256)]

@[simp] theorem bytes16_length (v : UInt16) : (bytes16 v).length = 2 := rfl
@[simp] theorem bytes32_length (v : UInt32) : (bytes32 v).length = 4 := rfl

@[simp] theorem word16_bytes16 (v : UInt16) : word16 (bytes16 v) = v := by
  apply UInt16.toNat_inj.mp
  have bound := v.toNat_lt
  simp [word16, bytes16]
  omega

@[simp] theorem word32_bytes32 (v : UInt32) : word32 (bytes32 v) = v := by
  apply UInt32.toNat_inj.mp
  have bound := v.toNat_lt
  simp [word32, bytes32]
  omega

def load16 (m : Memory) (off : Nat) : UInt16 := word16 (fetch m off 2)
def load32 (m : Memory) (off : Nat) : UInt32 := word32 (fetch m off 4)
abbrev store16 (m : Memory) (off : Nat) (v : UInt16) : Memory := store m off (bytes16 v)
abbrev store32 (m : Memory) (off : Nat) (v : UInt32) : Memory := store m off (bytes32 v)

abbrev OctetString (n : Nat) := { bytes : List UInt8 // bytes.length = n }

@[simp] theorem octet_string_length {n : Nat} (v : OctetString n) : v.val.length = n := v.property

def loadOctets (m : Memory) (off n : Nat) : OctetString n := ⟨fetch m off n, fetch_length m off n⟩
abbrev storeOctets {n : Nat} (m : Memory) (off : Nat) (v : OctetString n) : Memory := store m off v.val

section
variable (m : Memory) (off : Nat)

@[simp] theorem load16_store16 (v : UInt16) : load16 (store16 m off v) off = v := by
  rw [load16, fetch_store_same m off 2 (bytes16 v) rfl, word16_bytes16]

@[simp] theorem load32_store32 (v : UInt32) : load32 (store32 m off v) off = v := by
  rw [load32, fetch_store_same m off 4 (bytes32 v) rfl, word32_bytes32]

@[simp] theorem load_octets_store_octets {n : Nat} (v : OctetString n) : loadOctets (storeOctets m off v) off n = v :=
  Subtype.ext (fetch_store_same m off n v.val v.property)

@[simp] theorem store_octet_same (b : UInt8) : store m off [b] off = b := by
  simp [store]

variable (bytes : List UInt8) (place : Nat)

@[simp] theorem load16_store_outside (apart : off + 2 ≤ place ∨ place + bytes.length ≤ off) :
    load16 (store m place bytes) off = load16 m off := by
  rw [load16, load16, fetch_store_outside m off 2 place bytes apart]

@[simp] theorem load32_store_outside (apart : off + 4 ≤ place ∨ place + bytes.length ≤ off) :
    load32 (store m place bytes) off = load32 m off := by
  rw [load32, load32, fetch_store_outside m off 4 place bytes apart]

@[simp] theorem load_octets_store_outside (n : Nat) (apart : off + n ≤ place ∨ place + bytes.length ≤ off) :
    loadOctets (store m place bytes) off n = loadOctets m off n :=
  Subtype.ext (fetch_store_outside m off n place bytes apart)

end

section
variable (m m' : Memory) (off : Nat)

theorem load16_congr (same : ∀ i, off ≤ i → i < off + 2 → m i = m' i) : load16 m off = load16 m' off := by
  rw [load16, load16, fetch_congr m m' off 2 same]

theorem load32_congr (same : ∀ i, off ≤ i → i < off + 4 → m i = m' i) : load32 m off = load32 m' off := by
  rw [load32, load32, fetch_congr m m' off 4 same]

theorem load_octets_congr (n : Nat) (same : ∀ i, off ≤ i → i < off + n → m i = m' i) :
    loadOctets m off n = loadOctets m' off n :=
  Subtype.ext (fetch_congr m m' off n same)

end

def Agree (n : Nat) (m m' : Memory) : Prop := ∀ i, i < n → m i = m' i

section
variable (n : Nat) (m m' : Memory) (same : Agree n m m') (off : Nat)
include same

theorem agree_mono (k : Nat) (less : k ≤ n) : Agree k m m' := fun i inside => same i (by omega)

theorem agree_store (bytes : List UInt8) : Agree n (store m off bytes) (store m' off bytes) := by
  intro i inside
  rw [store, store, same i inside]

theorem agree_fetch (k : Nat) (inside : off + k ≤ n) : fetch m off k = fetch m' off k :=
  fetch_congr m m' off k fun i _ high => same i (by omega)

theorem agree_load16 (inside : off + 2 ≤ n) : load16 m off = load16 m' off :=
  load16_congr m m' off fun i _ high => same i (by omega)

theorem agree_load32 (inside : off + 4 ≤ n) : load32 m off = load32 m' off :=
  load32_congr m m' off fun i _ high => same i (by omega)

theorem agree_load_octets (k : Nat) (inside : off + k ≤ n) : loadOctets m off k = loadOctets m' off k :=
  load_octets_congr m m' off k fun i _ high => same i (by omega)

end

theorem agree_extend (n : Nat) (m m' : Memory) (same : Agree n m m') (off : Nat) (bytes : List UInt8) (inside : off ≤ n) :
    Agree (max n (off + bytes.length)) (store m off bytes) (store m' off bytes) := by
  intro i bound
  by_cases old : i < n
  · exact agree_store n m m' same off bytes i old
  · rw [store_inside m off i bytes (by omega) (by omega), store_inside m' off i bytes (by omega) (by omega)]

theorem of_int16_toNat (x : Int) : (UInt16.ofInt x).toNat = (x % 65536).toNat := by
  have high := Int.emod_lt_of_pos x (by decide : (0 : Int) < 65536)
  have low := Int.emod_nonneg x (by decide : (65536 : Int) ≠ 0)
  rw [UInt16.ofInt, UInt16.toNat_ofNat']
  simp
  omega

theorem of_int32_toNat (x : Int) : (UInt32.ofInt x).toNat = (x % 4294967296).toNat := by
  have high := Int.emod_lt_of_pos x (by decide : (0 : Int) < 4294967296)
  have low := Int.emod_nonneg x (by decide : (4294967296 : Int) ≠ 0)
  rw [UInt32.ofInt, UInt32.toNat_ofNat']
  simp
  omega

theorem of_int32_natCast (n : Nat) : UInt32.ofInt n = UInt32.ofNat n := by
  apply UInt32.toNat_inj.mp
  rw [of_int32_toNat, UInt32.toNat_ofNat']
  omega

def ntohs (v : UInt16) : UInt16 := UInt16.ofNat (256 * (v.toNat % 256) + v.toNat / 256)

def ntohl (v : UInt32) : UInt32 :=
  UInt32.ofNat (v.toNat / 256 / 256 / 256 + 256 * (v.toNat / 256 / 256 % 256 +
    256 * (v.toNat / 256 % 256 + 256 * (v.toNat % 256))))

abbrev htons := ntohs
abbrev htonl := ntohl

theorem ntohs_toNat (v : UInt16) : (ntohs v).toNat = 256 * (v.toNat % 256) + v.toNat / 256 := by
  have bound := v.toNat_lt
  rw [ntohs, UInt16.toNat_ofNat']
  omega

theorem ntohl_toNat (v : UInt32) : (ntohl v).toNat = v.toNat / 256 / 256 / 256 +
    256 * (v.toNat / 256 / 256 % 256 + 256 * (v.toNat / 256 % 256 + 256 * (v.toNat % 256))) := by
  have bound := v.toNat_lt
  rw [ntohl, UInt32.toNat_ofNat']
  omega

@[simp] theorem ntohs_ntohs (v : UInt16) : ntohs (ntohs v) = v := by
  apply UInt16.toNat_inj.mp
  have bound := v.toNat_lt
  rw [ntohs_toNat, ntohs_toNat]
  omega

-- Lowest digit and rest of a base-256 numeral; omega alone loses four nested divisions.
theorem digit_split (low rest : Nat) (small : low < 256) :
    (low + 256 * rest) % 256 = low ∧ (low + 256 * rest) / 256 = rest := by
  omega

@[simp] theorem ntohl_ntohl (v : UInt32) : ntohl (ntohl v) = v := by
  apply UInt32.toNat_inj.mp
  have bound := v.toNat_lt
  rw [ntohl_toNat, ntohl_toNat]
  generalize aEq : v.toNat / 256 / 256 / 256 = a
  generalize bEq : v.toNat / 256 / 256 % 256 = b
  generalize cEq : v.toNat / 256 % 256 = c
  generalize dEq : v.toNat % 256 = d
  obtain ⟨lowA, restA⟩ := digit_split a (b + 256 * (c + 256 * d)) (by omega)
  obtain ⟨lowB, restB⟩ := digit_split b (c + 256 * d) (by omega)
  obtain ⟨lowC, restC⟩ := digit_split c d (by omega)
  rw [restA, restB, restC, lowA, lowB, lowC]
  omega

theorem octet_ne (x v : UInt8) (lasting : 2 ≤ x) (low : v < 2) : x ≠ v := by
  intro same
  rw [same] at lasting
  exact absurd low (UInt8.not_lt.mpr lasting)

theorem octet_one_le (x : UInt8) (nonzero : x ≠ 0) : 1 ≤ x := by
  have positive : x.toNat ≠ 0 := fun zero => nonzero (UInt8.toNat_inj.mp zero)
  have one : (1 : UInt8).toNat = 1 := rfl
  rw [UInt8.le_iff_toNat_le, one]
  omega

theorem octet_two_le (x : UInt8) (nonzero : x ≠ 0) (notOne : x ≠ 1) : 2 ≤ x := by
  have least := UInt8.le_iff_toNat_le.mp (octet_one_le x nonzero)
  have more : x.toNat ≠ 1 := fun one => notOne (UInt8.toNat_inj.mp one)
  have one : (1 : UInt8).toNat = 1 := rfl
  have two : (2 : UInt8).toNat = 2 := rfl
  rw [UInt8.le_iff_toNat_le, two]
  omega

end Octets
