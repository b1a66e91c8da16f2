import OsiStack.HexTools

set_option autoImplicit false

namespace OsiStack

open Octets

def FullGroup (group : List UInt8) : Prop := getSize group = 32 ∧ getSize group.dropLast < 32

def nextBinBytes (heap : Memory) (binBytes : Int) (group : List UInt8) : Option Int :=
  (hexToBinary (group.takeWhile fun c => c ≠ 0) heap binBytes).bind fun decoded =>
    if decoded.binBytes < 0 then none else some decoded.binBytes

def Overlong (heap : Memory) (binBytes : Int) (text : List UInt8) : Prop :=
  ∃ (groups : List (List UInt8)) (group rest : List UInt8), text = groups.flatten ++ (group ++ rest) ∧
    (∀ full ∈ groups, FullGroup full) ∧
    (groups.foldlM (nextBinBytes heap) binBytes).isSome ∧ group.length = 48 ∧ getSize group < 32 ∧ rest ≠ []

theorem get_size_prefix (left right : List UInt8) (pre : left <+: right) : getSize left ≤ getSize right := by
  obtain ⟨rest, rfl⟩ := pre
  rw [get_size_append]
  omega

theorem full_group_proper (left right : List UInt8) (full : getSize left = 32) (group : FullGroup right)
    (pre : left <+: right) : left = right := by
  obtain ⟨rest, rfl⟩ := pre
  by_cases empty : rest = []
  · rw [empty, List.append_nil]
  · have less := group.2
    rw [List.dropLast_append_of_ne_nil empty, get_size_append] at less
    omega

theorem full_group_unique (left right leftRest rightRest : List UInt8) (first : FullGroup left) (second : FullGroup right)
    (same : left ++ leftRest = right ++ rightRest) : left = right ∧ leftRest = rightRest := by
  have begins : left <+: right ++ rightRest := ⟨leftRest, same⟩
  rcases List.prefix_or_prefix_of_prefix begins (List.prefix_append right rightRest) with pre | pre
  · obtain rfl := full_group_proper left right first.1 second pre
    exact ⟨rfl, List.append_cancel_left same⟩
  · obtain rfl := full_group_proper right left second.1 first pre
    exact ⟨rfl, List.append_cancel_left same⟩

section
variable (heap : Memory)

theorem overlong_short (binBytes : Int) (text : List UInt8) (short : text.length ≤ 48) : ¬ Overlong heap binBytes text := by
  rintro ⟨groups, group, rest, rfl, full, -, length, -, more⟩
  have filled := List.length_pos_of_ne_nil more
  simp only [List.length_append, length] at short
  omega

theorem overlong_begin (binBytes : Int) (group rest : List UInt8) (length : group.length = 48) (size : getSize group < 32)
    (more : rest ≠ []) : Overlong heap binBytes (group ++ rest) :=
  ⟨[], group, rest, rfl, by simp, rfl, length, size, more⟩

theorem overlong_group (binBytes : Int) (full text : List UInt8) (group : FullGroup full) (short : full.length ≤ 48) :
    Overlong heap binBytes (full ++ text) ↔ ∃ next, nextBinBytes heap binBytes full = some next ∧ Overlong heap next text := by
  constructor
  · rintro ⟨groups, last, rest, same, all, written, length, size, more⟩
    cases groups with
    | nil =>
        rw [List.flatten_nil, List.nil_append] at same
        have within : full <+: last := by
          have begins : full <+: last ++ rest := ⟨text, same⟩
          exact List.prefix_of_prefix_length_le begins (List.prefix_append last rest) (by omega)
        have least := get_size_prefix full last within
        rw [group.1] at least
        omega
    | cons first groups =>
        rw [List.flatten_cons, List.append_assoc] at same
        obtain ⟨rfl, behind⟩ := full_group_unique full first _ _ group (all first List.mem_cons_self) same
        rw [List.foldlM_cons] at written
        cases next : nextBinBytes heap binBytes full with
        | none => simp [next] at written
        | some count =>
            rw [next] at written
            exact ⟨count, rfl, groups, last, rest, behind, fun x member => all x (List.mem_cons_of_mem full member), written,
              length, size, more⟩
  · rintro ⟨count, next, groups, last, rest, rfl, all, written, length, size, more⟩
    refine ⟨full :: groups, last, rest, by simp, ?_, ?_, length, size, more⟩
    · intro x member
      rcases List.mem_cons.mp member with rfl | later
      · exact group
      · exact all x later
    · rw [List.foldlM_cons, next]
      exact written

theorem convert_next (s : ReadState) : match nextBinBytes heap s.binBytes s.temp with
    | none => ∃ status, convert heap s = .error (.exit status s.out)
    | some count => ∃ out, convert heap s = .ok ⟨[], 0, count, out⟩ := by
  unfold nextBinBytes convert
  cases hexToBinary (s.temp.takeWhile fun c => c ≠ 0) heap s.binBytes with
  | none => exact ⟨1, rfl⟩
  | some decoded =>
      by_cases negative : decoded.binBytes < 0
      · simp only [Option.bind_some, if_pos negative]
        exact ⟨1, rfl⟩
      · simp only [Option.bind_some, if_neg negative]
        exact ⟨_, rfl⟩

theorem read_flush_fits (s : ReadState) : readFlush heap s ≠ .error .overflow := by
  unfold readFlush
  split
  · have converted := convert_next heap s
    split at converted
    · obtain ⟨status, refused⟩ := converted
      rw [refused]
      nofun
    · obtain ⟨out, written⟩ := converted
      rw [written]
      nofun
  · nofun

def collect (s : ReadState) (c : UInt8) : ReadState :=
  { s with temp := s.temp ++ [c], validHexCounter := getSize (s.temp ++ [c]) }

theorem read_step_collect (s : ReadState) (c : UInt8) (counted : s.validHexCounter = getSize s.temp)
    (room : ¬ 48 ≤ s.temp.length) :
    readStep heap s c = if getSize (s.temp ++ [c]) = 32 then convert heap (collect s c) else .ok (collect s c) := by
  have size : (if isSpaceChar c then s.validHexCounter else s.validHexCounter + 1) = getSize (s.temp ++ [c]) := by
    rw [get_size_append, counted]
    cases space : isSpaceChar c <;> simp [getSize, space]
  rw [readStep, if_neg room]
  simp only [size, collect]

theorem convert_overflow (s : ReadState) (rest : List UInt8) (group : FullGroup s.temp) (short : s.temp.length ≤ 48)
    (later : ∀ count out, rest.foldlM (readStep heap) ⟨[], 0, count, out⟩ = .error .overflow ↔ Overlong heap count rest) :
    (convert heap s >>= fun next => rest.foldlM (readStep heap) next) = .error .overflow ↔
      Overlong heap s.binBytes (s.temp ++ rest) := by
  rw [overlong_group heap s.binBytes _ rest group short]
  have converted := convert_next heap s
  split at converted
  next none =>
    obtain ⟨status, refused⟩ := converted
    rw [refused, none]
    simp [bind, Except.bind]
  next count next =>
    obtain ⟨out, written⟩ := converted
    rw [written, next]
    simpa [bind, Except.bind] using later count out

-- Of what is collected and what is still to come: the counter counts it, it has
-- room, and no group is full.
theorem read_overflow (rest : List UInt8) (s : ReadState) (counted : s.validHexCounter = getSize s.temp)
    (open' : getSize s.temp < 32) (room : s.temp.length ≤ 48) :
    rest.foldlM (readStep heap) s = .error .overflow ↔ Overlong heap s.binBytes (s.temp ++ rest) := by
  induction rest generalizing s with
  | nil =>
      have fits := overlong_short heap s.binBytes (s.temp ++ []) (by simpa using room)
      simp only [fits, iff_false]
      nofun
  | cons c rest ih =>
      rw [List.foldlM_cons]
      by_cases filled : 48 ≤ s.temp.length
      · have long := overlong_begin heap s.binBytes s.temp (c :: rest) (by omega) open' (by simp)
        rw [readStep, if_pos filled]
        exact ⟨fun _ => long, fun _ => rfl⟩
      · have whole : s.temp ++ c :: rest = (s.temp ++ [c]) ++ rest := by simp
        have length : (s.temp ++ [c]).length ≤ 48 := by simp; omega
        rw [read_step_collect heap s c counted filled, whole]
        by_cases full : getSize (s.temp ++ [c]) = 32
        · have group : FullGroup (s.temp ++ [c]) := ⟨full, by simpa using open'⟩
          rw [if_pos full]
          exact convert_overflow heap (collect s c) rest group length fun count out =>
            ih ⟨[], 0, count, out⟩ rfl (by simp [getSize]) (by simp)
        · have less : getSize (s.temp ++ [c]) < 32 := by
            have one : getSize [c] ≤ 1 := List.countP_le_length
            rw [get_size_append] at full ⊢
            omega
          rw [if_neg full]
          exact ih (collect s c) rfl less length

theorem group_buffer_suffices_iff (isTerminal : Bool) (binBytes : Int) (chunks : List (List UInt8)) :
    (hexreadStdin isTerminal heap binBytes chunks ≠ .overflow ↔ ¬ Overlong heap binBytes chunks.flatten) ∧
      (hexreadFile heap binBytes chunks ≠ .overflow ↔ ¬ Overlong heap binBytes chunks.flatten) := by
  have looped := read_overflow heap chunks.flatten ⟨[], 0, binBytes, []⟩ rfl (by simp [getSize]) (by simp)
  have program (newline : Bool) : hexread newline heap binBytes chunks ≠ .overflow ↔
    ¬ Overlong heap binBytes chunks.flatten := by
    simp only [hexread, read_chunks]
    cases result : chunks.flatten.foldlM (readStep heap) ⟨[], 0, binBytes, []⟩ with
    | error outcome =>
        rw [result, Except.error.injEq, List.nil_append] at looped
        rw [← looped]
        rfl
    | ok s =>
        rw [result, List.nil_append] at looped
        have fits := read_flush_fits heap s
        rw [← looped]
        simp only [bind, Except.bind]
        cases flushed : readFlush heap s with
        | error outcome =>
            rw [flushed] at fits
            simpa using fun past => fits (congrArg Except.error past)
        | ok s => simp
  exact ⟨program isTerminal, program false⟩

end

def widePairs : List UInt8 := (List.replicate 16 [52, 49, 32, 32]).flatten

theorem group_buffer_overflows : hexreadStdin false (fun _ => 0) 0 [widePairs.take 48, widePairs.drop 48] = .overflow ∧
    hexreadFile (fun _ => 0) 0 [widePairs] = .overflow ∧
    hexToBinaryLoop widePairs = some (List.replicate 16 65) := by
  decide +kernel

end OsiStack
