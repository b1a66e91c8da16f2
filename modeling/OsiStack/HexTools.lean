import Mathlib.Data.List.TakeWhile
import OsiStack.HexText

set_option autoImplicit false

namespace OsiStack

open Octets

inductive Outcome where
  | overflow
  | exit (status : Nat) (out : List UInt8)
deriving DecidableEq

structure DumpState where
  temp : List UInt8
  out : List UInt8

def dumpStep (s : DumpState) (octet : UInt8) : DumpState :=
  let temp := s.temp ++ [octet]
  if temp.length = 16 then ⟨[], s.out ++ binaryToHex temp⟩ else ⟨temp, s.out⟩

def dumpFlush (s : DumpState) : List UInt8 := if 0 < s.temp.length then s.out ++ binaryToHex s.temp else s.out

def hexdump (room : Nat) (chunks : List (List UInt8)) : Outcome :=
  if ∀ chunk ∈ chunks, chunk.length ≤ room then
    .exit 0 (dumpFlush (chunks.foldl (fun s chunk => chunk.foldl dumpStep s) ⟨[], []⟩))
  else .overflow

-- Standard input is read sixteen octets at a time into a block of sizeof(int);
-- `room` is what malloc really gives for it.
def hexdumpStdin (room : Nat) (chunks : List (List UInt8)) : Outcome := hexdump room chunks
def hexdumpFile (chunks : List (List UInt8)) : Outcome := hexdump 1024 chunks

structure ReadState where
  temp : List UInt8
  validHexCounter : Nat
  binBytes : Int
  out : List UInt8

def convert (heap : Memory) (s : ReadState) : Except Outcome ReadState :=
  match hexToBinary (s.temp.takeWhile fun c => c ≠ 0) heap s.binBytes with
  | none => .error (.exit 1 s.out)
  | some decoded =>
      if decoded.binBytes < 0 then .error (.exit 1 s.out)
      else .ok ⟨[], 0, decoded.binBytes, s.out ++ fetch decoded.buffer 0 decoded.binBytes.toNat⟩

def readStep (heap : Memory) (s : ReadState) (c : UInt8) : Except Outcome ReadState :=
  if 48 ≤ s.temp.length then .error .overflow
  else
    let validHexCounter := if isSpaceChar c then s.validHexCounter else s.validHexCounter + 1
    let next := { s with temp := s.temp ++ [c], validHexCounter := validHexCounter }
    if validHexCounter = 32 then convert heap next else .ok next

def readFlush (heap : Memory) (s : ReadState) : Except Outcome ReadState :=
  if 0 < s.temp.length then convert heap s else .ok s

-- `binBytes` is what bin_bytes holds before its first assignment.
def hexread (newline : Bool) (heap : Memory) (binBytes : Int) (chunks : List (List UInt8)) : Outcome :=
  let looped := chunks.foldlM (fun s chunk => chunk.foldlM (readStep heap) s) ⟨[], 0, binBytes, []⟩
  match looped >>= readFlush heap with
  | .error outcome => outcome
  | .ok s => .exit 0 (if newline then s.out ++ [10] else s.out)

-- A newline follows at the end of a terminal's input only.
def hexreadStdin (isTerminal : Bool) (heap : Memory) (binBytes : Int) (chunks : List (List UInt8)) : Outcome :=
  hexread isTerminal heap binBytes chunks
def hexreadFile (heap : Memory) (binBytes : Int) (chunks : List (List UInt8)) : Outcome := hexread false heap binBytes chunks

def hexLines (data : List UInt8) : List UInt8 :=
  if data = [] then [] else spaced (data.take 16) ++ 10 :: hexLines (data.drop 16)
termination_by data.length
decreasing_by
  have positive := List.length_pos_of_ne_nil ‹¬ data = []›
  rw [List.length_drop]
  omega

theorem hex_lines_nil : hexLines [] = [] := by
  rw [hexLines, if_pos rfl]

theorem hex_lines_some (data : List UInt8) (filled : data ≠ []) :
    hexLines data = spaced (data.take 16) ++ 10 :: hexLines (data.drop 16) := by
  rw [hexLines, if_neg filled]

theorem binary_to_hex_lines (data : List UInt8) (line : data.length ≤ 16) : binaryToHex data = spaced data ++ [10] := by
  rw [binaryToHex, binary_to_hex_line data 0 (by omega)]

theorem dump_loop (rest : List UInt8) (s : DumpState) (short : s.temp.length < 16) :
    dumpFlush (rest.foldl dumpStep s) = s.out ++ hexLines (s.temp ++ rest) := by
  induction rest generalizing s with
  | nil =>
      rw [List.foldl_nil, List.append_nil, dumpFlush]
      by_cases empty : s.temp = []
      · rw [if_neg (by simp [empty]), empty, hex_lines_nil, List.append_nil]
      · rw [if_pos (List.length_pos_of_ne_nil empty), binary_to_hex_lines _ (by omega), hex_lines_some _ empty,
          List.take_of_length_le (by omega), List.drop_of_length_le (by omega), hex_lines_nil]
  | cons octet rest ih =>
      rw [List.foldl_cons, dumpStep]
      by_cases full : (s.temp ++ [octet]).length = 16
      · have whole : s.temp ++ octet :: rest = (s.temp ++ [octet]) ++ rest := by simp
        simp only [if_pos full]
        rw [ih _ (by simp), binary_to_hex_lines _ (by omega), whole, hex_lines_some (s.temp ++ [octet] ++ rest) (by simp),
          List.take_left' full, List.drop_left' full]
        simp
      · simp only [if_neg full]
        rw [ih _ (by simp at full ⊢; omega)]
        simp

theorem hexdump_output (room : Nat) (chunks : List (List UInt8)) (fits : ∀ chunk ∈ chunks, chunk.length ≤ room) :
    hexdump room chunks = .exit 0 (hexLines chunks.flatten) := by
  rw [hexdump, if_pos fits, ← List.foldl_flatten, dump_loop _ _ (by decide)]
  rfl

section
variable (heap : Memory)

theorem read_chunks (chunks : List (List UInt8)) (s : ReadState) :
    chunks.foldlM (fun s chunk => chunk.foldlM (readStep heap) s) s = chunks.flatten.foldlM (readStep heap) s := by
  induction chunks generalizing s with
  | nil => rfl
  | cons chunk chunks ih =>
      rw [List.foldlM_cons, List.flatten_cons, List.foldlM_append]
      congr 1
      funext next
      exact ih next

theorem read_then (text rest : List UInt8) (s next : ReadState) (first : text.foldlM (readStep heap) s = .ok next) :
    (text ++ rest).foldlM (readStep heap) s = rest.foldlM (readStep heap) next := by
  rw [List.foldlM_append, first]
  rfl

theorem read_quiet (text : List UInt8) (s : ReadState) (fits : s.temp.length + text.length ≤ 48)
    (open' : s.validHexCounter + getSize text < 32) : text.foldlM (readStep heap) s =
      .ok { s with temp := s.temp ++ text, validHexCounter := s.validHexCounter + getSize text } := by
  induction text generalizing s with
  | nil => simp [getSize]; rfl
  | cons c text ih =>
      have size : getSize (c :: text) = (if isSpaceChar c then 0 else 1) + getSize text := by
        cases space : isSpaceChar c <;> simp [getSize, space, Nat.add_comm]
      have counter : (if isSpaceChar c then s.validHexCounter else s.validHexCounter + 1) =
          s.validHexCounter + if isSpaceChar c then 0 else 1 := by split <;> rfl
      rw [size] at open'
      have step : readStep heap s c = .ok { s with
          temp := s.temp ++ [c], validHexCounter := s.validHexCounter + if isSpaceChar c then 0 else 1 } := by
        rw [readStep, if_neg (by simp at fits; omega)]
        simp only [counter]
        rw [if_neg (by omega)]
      rw [List.foldlM_cons, step, size]
      refine (ih _ (by simp at fits ⊢; omega) (by simp only; omega)).trans ?_
      simp [Nat.add_assoc]

theorem convert_text (s : ReadState) (data lead behind : List UInt8) (filled : data ≠ [])
    (text : s.temp = lead ++ spaced data ++ behind) (blank : ∀ c ∈ lead, isSpaceChar c = true)
    (blankBehind : ∀ c ∈ behind, isSpaceChar c = true) : convert heap s = .ok ⟨[], 0, data.length, s.out ++ data⟩ := by
  have spaceNonzero (c : UInt8) (space : isSpaceChar c = true) : c ≠ 0 := by
    rintro rfl
    exact absurd space (by decide)
  have unterminated : s.temp.takeWhile (fun c => c ≠ 0) = s.temp := by
    rw [List.takeWhile_eq_self_iff, text]
    intro c member
    rw [List.mem_append, List.mem_append] at member
    rcases member with (front | inner) | back
    · simpa using spaceNonzero c (blank c front)
    · simpa using spaced_nonzero data c inner
    · simpa using spaceNonzero c (blankBehind c back)
  have whole : fetch (store heap 0 data) 0 data.length = data := fetch_store_same heap 0 _ data rfl
  rw [convert, unterminated, text, hex_to_binary_text data lead behind filled heap s.binBytes blank blankBehind]
  simp [whole]

theorem convert_blank (s : ReadState) (lead : List UInt8) (text : s.temp = lead) (blank : ∀ c ∈ lead, isSpaceChar c = true)
    (count : Nat) (stale : s.binBytes = count) : convert heap s = .ok ⟨[], 0, count, s.out ++ fetch heap 0 count⟩ := by
  have spaces (c : UInt8) (member : c ∈ s.temp.takeWhile fun c => c ≠ 0) : isSpaceChar c = true :=
    blank c (text ▸ (List.takeWhile_subset _) member)
  rw [convert, hexToBinary, if_pos (get_size_blank _ spaces), stale]
  simp

def Lead (lead : List UInt8) : Prop := lead = [] ∨ lead = [10]

theorem lead_blank (lead : List UInt8) (left : Lead lead) (c : UInt8) (member : c ∈ lead) : isSpaceChar c = true := by
  rcases left with rfl | rfl
  · simp at member
  · rw [List.mem_singleton.mp member]
    decide

theorem lead_length (lead : List UInt8) (left : Lead lead) : lead.length ≤ 1 := by
  rcases left with rfl | rfl <;> decide

theorem read_full_line (data lead : List UInt8) (left : Lead lead) (full : data.length = 16) (binBytes : Int)
    (out : List UInt8) : (spaced data ++ [10]).foldlM (readStep heap) ⟨lead, 0, binBytes, out⟩ =
      .ok ⟨[10], 0, 16, out ++ data⟩ := by
  have filled : data ≠ [] := by rintro rfl; simp at full
  obtain ⟨init, low, text, lowSpace⟩ := spaced_last data filled
  have size := get_size_spaced data
  have length := spaced_length data
  have ahead := lead_length lead left
  rw [text, get_size_append, full] at size
  rw [text, List.length_append, List.length_singleton] at length
  have digit : getSize [low] = 1 := by simp [getSize, lowSpace]
  have collected := read_quiet heap init ⟨lead, 0, binBytes, out⟩ (by simp only; omega) (by simp only; omega)
  have converted := convert_text heap ⟨lead ++ init ++ [low], 32, binBytes, out⟩ data lead [] filled
    (by rw [text]; simp) (lead_blank lead left) (by simp)
  have last : List.foldlM (readStep heap) ⟨lead ++ init, 31, binBytes, out⟩ [low] = .ok ⟨[], 0, 16, out ++ data⟩ := by
    have step : readStep heap ⟨lead ++ init, 31, binBytes, out⟩ low = .ok ⟨[], 0, 16, out ++ data⟩ := by
      rw [readStep, if_neg (by simp; omega)]
      simp only [lowSpace, Bool.false_eq_true, if_false, if_true]
      rw [converted, full]
      rfl
    rw [List.foldlM_cons, step]
    rfl
  have thirtyOne : 0 + getSize init = 31 := by omega
  rw [thirtyOne] at collected
  rw [text, List.append_assoc, read_then heap init _ _ _ collected, read_then heap [low] _ _ _ last]
  exact read_quiet heap [10] ⟨[], 0, 16, out ++ data⟩ (by simp) (by simp [getSize, isSpaceChar])

theorem read_lines_full (data lead : List UInt8) (left : Lead lead) (full : 16 ≤ data.length) (binBytes : Int)
    (out : List UInt8) : (hexLines data).foldlM (readStep heap) ⟨lead, 0, binBytes, out⟩ =
      (hexLines (data.drop 16)).foldlM (readStep heap) ⟨[10], 0, 16, out ++ data.take 16⟩ := by
  have filled : data ≠ [] := by rintro rfl; simp at full
  have line := read_full_line heap (data.take 16) lead left (by simp; omega) binBytes out
  have split : hexLines data = (spaced (data.take 16) ++ [10]) ++ hexLines (data.drop 16) := by
    rw [hex_lines_some data filled]
    simp
  rw [split, read_then heap _ _ _ _ line]

theorem read_last_line (data lead : List UInt8) (left : Lead lead) (filled : data ≠ []) (short : data.length < 16)
    (binBytes : Int) (out : List UInt8) :
    ((hexLines data).foldlM (readStep heap) ⟨lead, 0, binBytes, out⟩ >>= readFlush heap) =
      .ok ⟨[], 0, data.length, out ++ data⟩ := by
  have size := get_size_spaced data
  have length := spaced_length data
  have ahead := lead_length lead left
  have line : hexLines data = spaced data ++ [10] := by
    rw [hex_lines_some data filled, List.take_of_length_le (by omega), List.drop_of_length_le (by omega), hex_lines_nil]
  have newline : getSize [10] = 0 := rfl
  have collected := read_quiet heap (spaced data ++ [10]) ⟨lead, 0, binBytes, out⟩
    (by simp only [List.length_append, List.length_singleton]; omega) (by rw [get_size_append, newline]; simp only; omega)
  have behind (c : UInt8) (member : c ∈ [(10 : UInt8)]) : isSpaceChar c = true := by
    rw [List.mem_singleton.mp member]
    decide
  rw [line, collected]
  change readFlush heap _ = _
  rw [readFlush, if_pos (by simp only [List.length_append, List.length_singleton]; omega)]
  exact convert_text heap _ data lead [10] filled (by simp) (lead_blank lead left) behind

theorem read_no_line (count : Nat) (out : List UInt8) :
    ((hexLines []).foldlM (readStep heap) ⟨[10], 0, count, out⟩ >>= readFlush heap) =
      .ok ⟨[], 0, count, out ++ fetch heap 0 count⟩ := by
  rw [hex_lines_nil]
  change readFlush heap ⟨[10], 0, count, out⟩ = _
  rw [readFlush, if_pos (by simp)]
  exact convert_blank heap ⟨[10], 0, count, out⟩ [10] rfl (lead_blank [10] (Or.inr rfl)) count rfl

def residue (data : List UInt8) : List UInt8 := if data ≠ [] ∧ data.length % 16 = 0 then fetch heap 0 16 else []

theorem read_lines (data lead : List UInt8) (left : Lead lead) (filled : data ≠ []) (binBytes : Int) (out : List UInt8) :
    ∃ s, ((hexLines data).foldlM (readStep heap) ⟨lead, 0, binBytes, out⟩ >>= readFlush heap) = .ok s ∧
      s.out = out ++ data ++ residue heap data := by
  induction data using hexLines.induct generalizing lead binBytes out with
  | case1 => exact absurd rfl filled
  | case2 data _ ih =>
      by_cases full : 16 ≤ data.length
      · have length : (data.drop 16).length = data.length - 16 := List.length_drop
        rw [read_lines_full heap data lead left full]
        by_cases last : data.drop 16 = []
        · have exact' : data.length = 16 := by rw [last] at length; simp at length; omega
          have whole : data.take 16 = data := List.take_of_length_le (by omega)
          rw [last, whole]
          refine ⟨_, read_no_line heap 16 (out ++ data), ?_⟩
          rw [residue, if_pos ⟨filled, by omega⟩]
        · obtain ⟨s, finished, written⟩ := ih [10] (Or.inr rfl) last 16 (out ++ data.take 16)
          refine ⟨s, finished, ?_⟩
          have same : residue heap (data.drop 16) = residue heap data := by
            simp only [residue, length, ne_eq, last, filled, not_false_eq_true, true_and]
            congr 1
            simp only [eq_iff_iff]
            omega
          rw [written, same, List.append_assoc out, List.take_append_drop]
      · refine ⟨_, read_last_line heap data lead left filled (by omega) binBytes out, ?_⟩
        have positive := List.length_pos_of_ne_nil filled
        rw [residue, if_neg (by omega), List.append_nil]

end

theorem hexread_output (heap : Memory) (binBytes : Int) (data : List UInt8) (chunks : List (List UInt8))
    (split : chunks.flatten = hexLines data) :
    hexread false heap binBytes chunks = .exit 0 (data ++ residue heap data) := by
  rw [hexread]
  simp only [read_chunks, split]
  by_cases empty : data = []
  · rw [empty, hex_lines_nil]
    rfl
  · obtain ⟨s, finished, written⟩ := read_lines heap data [] (Or.inl rfl) empty binBytes []
    rw [finished]
    simp only [Bool.false_eq_true, if_false, written, List.nil_append]

inductive Source where
  | stdin
  | file
deriving DecidableEq

def dumpMax : Source → Nat
  | .stdin => 16
  | .file => 1024

def readMax : Source → Nat
  | .stdin => 48
  | .file => 1024

structure Splits (max : Nat) (input : List UInt8) (chunks : List (List UInt8)) : Prop where
  whole : chunks.flatten = input
  sizes : ∀ chunk ∈ chunks, 1 ≤ chunk.length ∧ chunk.length ≤ max

def dumpFrom (source : Source) (room : Nat) (chunks : List (List UInt8)) : Outcome :=
  match source with
  | .stdin => hexdumpStdin room chunks
  | .file => hexdumpFile chunks

def readFrom (source : Source) (heap : Memory) (binBytes : Int) (chunks : List (List UInt8)) : Outcome :=
  match source with
  | .stdin => hexreadStdin false heap binBytes chunks
  | .file => hexreadFile heap binBytes chunks

def dumpThenRead (source target : Source) (room : Nat) (chunks : List (List UInt8))
    (regroup : List UInt8 → List (List UInt8)) (heap : Memory) (binBytes : Int) : Outcome :=
  match dumpFrom source room chunks with
  | .overflow => .overflow
  | .exit 0 out => readFrom target heap binBytes (regroup out)
  | .exit status out => .exit status out

theorem dump_from_output (source : Source) (room : Nat) (data : List UInt8) (chunks : List (List UInt8))
    (split : Splits (dumpMax source) data chunks) : dumpFrom source room chunks =
      if source = .file ∨ ∀ chunk ∈ chunks, chunk.length ≤ room then .exit 0 (hexLines data) else .overflow := by
  cases source with
  | stdin =>
      by_cases fits : ∀ chunk ∈ chunks, chunk.length ≤ room
      · rw [if_pos (Or.inr fits), dumpFrom, hexdumpStdin, hexdump_output room chunks fits, split.whole]
      · rw [if_neg (by simpa using fits), dumpFrom, hexdumpStdin, hexdump, if_neg fits]
  | file =>
      rw [if_pos (Or.inl rfl), dumpFrom, hexdumpFile,
        hexdump_output 1024 chunks fun chunk member => (split.sizes chunk member).2, split.whole]

theorem read_from_output (target : Source) (heap : Memory) (binBytes : Int) (data : List UInt8) (chunks : List (List UInt8))
    (split : chunks.flatten = hexLines data) :
    readFrom target heap binBytes chunks = .exit 0 (data ++ residue heap data) := by
  cases target <;> exact hexread_output heap binBytes data chunks split

theorem hexread_hexdump_iff (data : List UInt8) (source target : Source) (room : Nat) (chunks : List (List UInt8))
    (split : Splits (dumpMax source) data chunks) (regroup : List UInt8 → List (List UInt8))
    (resplit : ∀ out, Splits (readMax target) out (regroup out)) (heap : Memory) (binBytes : Int) :
    dumpThenRead source target room chunks regroup heap binBytes = .exit 0 data ↔
      (source = .file ∨ ∀ chunk ∈ chunks, chunk.length ≤ room) ∧ (data = [] ∨ data.length % 16 ≠ 0) := by
  rw [dumpThenRead, dump_from_output source room data chunks split]
  by_cases fits : source = .file ∨ ∀ chunk ∈ chunks, chunk.length ≤ room
  · simp only [if_pos fits, read_from_output target heap binBytes data _ (resplit (hexLines data)).whole]
    simp only [fits, true_and]
    constructor
    · intro same
      by_contra ragged
      rw [not_or, not_not] at ragged
      rw [residue, if_pos ragged] at same
      simp [fetch] at same
    · intro ragged
      rw [residue, if_neg (by tauto), List.append_nil]
  · simp [fits]

def octetByOctet (out : List UInt8) : List (List UInt8) := out.map fun octet => [octet]

theorem octet_by_octet_splits (max : Nat) (room : 1 ≤ max) (out : List UInt8) : Splits max out (octetByOctet out) where
  whole := by rw [octetByOctet, ← List.flatMap_def, List.flatMap_singleton']
  sizes := by
    intro chunk member
    obtain ⟨octet, _, rfl⟩ := List.mem_map.mp member
    exact ⟨by simp, room⟩

theorem hexread_hexdump_iff_three : dumpThenRead .stdin .file 24 [[7, 8], [9]] octetByOctet
    (fun _ => 0) 0 = .exit 0 [7, 8, 9] ↔
    (Source.stdin = .file ∨ ∀ chunk ∈ [[(7 : UInt8), 8], [9]], chunk.length ≤ 24) ∧
      ([(7 : UInt8), 8, 9] = [] ∨ [(7 : UInt8), 8, 9].length % 16 ≠ 0) :=
  hexread_hexdump_iff [7, 8, 9] .stdin .file 24 [[7, 8], [9]] ⟨rfl, by decide⟩ octetByOctet
    (octet_by_octet_splits 1024 (by decide)) (fun _ => 0) 0

theorem hexread_hexdump_fails : ¬ ∀ (data : List UInt8) (source target : Source) (chunks : List (List UInt8)),
    Splits (dumpMax source) data chunks → ∀ regroup, (∀ out, Splits (readMax target) out (regroup out)) →
      ∀ heap binBytes, dumpThenRead source target 24 chunks regroup heap binBytes = .exit 0 data := by
  intro restores
  have sixteen := restores (List.replicate 16 65) .file .file [List.replicate 16 65] ⟨rfl, by decide⟩ octetByOctet
    (octet_by_octet_splits 1024 (by decide)) (fun _ => 0) 0
  revert sixteen
  decide +kernel

theorem binary_to_hex_text (data : List UInt8) (hexCounter : Nat) (start : hexCounter % 16 = 0) (filled : data ≠ []) :
    binaryToHexLoop data hexCounter ++ [10] = (if hexCounter ≠ 0 then [10] else []) ++ hexLines data := by
  induction data using hexLines.induct generalizing hexCounter with
  | case1 => exact absurd rfl filled
  | case2 data _ ih =>
      have size : (data.take 16).length = min 16 data.length := List.length_take
      have left : (data.drop 16).length = data.length - 16 := List.length_drop
      have first : data.take 16 ≠ [] := by simp [filled]
      have whole : data.take 16 ++ data.drop 16 = data := List.take_append_drop 16 data
      have newline : (hexCounter % 16 = 0 ∧ hexCounter ≠ 0) = (hexCounter ≠ 0) := by simp [start]
      by_cases more : data.drop 16 = []
      · have inner := binary_to_hex_inner (data.take 16) [] hexCounter first (Or.inr ⟨rfl, by omega⟩)
        have short : data.take 16 = data := by rw [more, List.append_nil] at whole; exact whole
        rw [short, List.append_nil] at inner
        rw [inner, hex_lines_some data filled, more, hex_lines_nil, short]
        simp [newline, binaryToHexLoop]
      · have long := List.length_pos_of_ne_nil more
        have inner := binary_to_hex_inner (data.take 16) (data.drop 16) hexCounter first (Or.inl (by omega))
        have later := ih (hexCounter + 16) (by omega) more
        have counted : (data.take 16).length = 16 := by omega
        rw [whole, counted] at inner
        rw [if_pos (by omega)] at later
        rw [inner, List.append_assoc, later, hex_lines_some data filled]
        simp [newline]

theorem binary_to_hex_hex_lines (data : List UInt8) (filled : data ≠ []) : binaryToHex data = hexLines data := by
  have text := binary_to_hex_text data 0 rfl filled
  rw [if_neg (by simp), List.nil_append] at text
  exact text

theorem hexdump_streams (source : Source) (room : Nat) (data : List UInt8) (chunks : List (List UInt8)) (filled : data ≠ [])
    (split : Splits (dumpMax source) data chunks) (fits : source = .file ∨ ∀ chunk ∈ chunks, chunk.length ≤ room) :
    dumpFrom source room chunks = .exit 0 (binaryToHex data) := by
  rw [dump_from_output source room data chunks split, if_pos fits, binary_to_hex_hex_lines data filled]

theorem hexdump_streams_three : dumpFrom .stdin 24 [[7, 8], [9]] = .exit 0 (binaryToHex [7, 8, 9]) :=
  hexdump_streams .stdin 24 [7, 8, 9] [[7, 8], [9]] (by decide) ⟨rfl, by decide⟩ (Or.inr (by decide))

end OsiStack
