import OsiStack.Closing
import OsiStack.UserSegment

set_option autoImplicit false

namespace OsiStack

open Octets PeerSegment

structure Selection where
  slot : Fin tcpConnectionLimit
  peer : Peer
  intact : Bool
deriving DecidableEq

structure Chat where
  table : Table
  selection : Option Selection

def TakesSlot (cfg : Config) (table : Table) (r : Reception) (i : Fin tcpConnectionLimit) : Prop :=
  Accepted cfg r ∧ controlBits r.buffer = 2 ∧ slotFor table r.heard.peer = some i

instance (cfg : Config) (table : Table) (r : Reception) (i : Fin tcpConnectionLimit) : Decidable (TakesSlot cfg table r i) :=
  inferInstanceAs (Decidable (_ ∧ _ ∧ _))

def follow (cfg : Config) (s : Chat) : Event → Option Selection
  | .frame r => s.selection.map fun chosen =>
      { chosen with intact := chosen.intact && !decide (TakesSlot cfg s.table r chosen.slot) }
  | .input u =>
      match intent s.table u with
      | .select i => some ⟨i, peerOf (s.table i), true⟩
      | .text _ | .leave _ => none
      | .nothing | .quit _ => s.selection

def chatStep (cfg : Config) (s : Chat) (e : Event) : Chat := ⟨step cfg s.table e, follow cfg s e⟩

def newChat : Chat := ⟨zeroTable, none⟩

def TextReachesChosen (s : Chat) : Event → Prop
  | .frame _ => True
  | .input u => ∀ i, intent s.table u = .text i → ∃ chosen, s.selection = some chosen ∧ chosen.slot = i ∧
      chosen.intact = true ∧ (s.table i).connectionStatus ≠ 0 ∧
      ∃ segment, (interact s.table u).sent = [segment] ∧ addressee (ofList segment.frame) = chosen.peer

-- No segment opens the selected slot, nor closes it: by its own FIN, or by the
-- stray second pass, which looks for the stack's own address.
def Undisturbed (cfg : Config) (s : Chat) : Event → Prop
  | .input _ => True
  | .frame r => Accepted cfg r → ∀ chosen, s.selection = some chosen → ∀ j, slotFor s.table r.heard.peer = some j →
      (controlBits r.buffer = 2 → j ≠ chosen.slot) ∧
        (ReadsAsFin s.table r j →
          if IpHeader.ttl r.buffer = 1 then (s.table chosen.slot).hostIpAddr ≠ tcpIp else j ≠ chosen.slot)

theorem chat_run_table (cfg : Config) (s : Chat) (events : List Event) :
    (Runs.run (chatStep cfg) s events).table = Runs.run (step cfg) s.table events :=
  Runs.run_project (chatStep cfg) (step cfg) Chat.table (fun _ _ => rfl) s events

structure ChatInv (s : Chat) : Prop where
  writing : ∀ i, (s.table i).io ≠ 0 → ∃ chosen, s.selection = some chosen ∧ chosen.slot = i
  kept : ∀ chosen, s.selection = some chosen → chosen.intact = true ∧ (s.table chosen.slot).io ≠ 0 ∧
    peerOf (s.table chosen.slot) = chosen.peer ∧ (s.table chosen.slot).connectionStatus ≠ 0

theorem chat_inv_new : ChatInv newChat where
  writing := fun i writes => absurd rfl writes
  kept := fun chosen selected => by cases selected

section
variable (cfg : Config) (s : Chat) (r : Reception)

theorem receive_io (table : Table) (i : Fin tcpConnectionLimit) : (step cfg table (.frame r) i).io = (table i).io := by
  have transition := step_transition cfg table (.frame r)
  generalize step cfg table (.frame r) = next at transition ⊢
  cases transition with
  | ignored => rfl
  | full => rfl
  | heard _ j accepted chosen regular =>
      apply SlotTable.update_key TcpConnection.io
      unfold Heard.outcome
      split
      · exact apply_io r.heard (table j)
      · exact apply_io r.heard (table j)
  | stray _ j port accepted chosen expired closing =>
      rw [close_at_io]
      exact SlotTable.update_key TcpConnection.io table j _ (apply_io r.heard (table j)) i

variable (guarded : Undisturbed cfg s (.frame r)) (chosen : Selection) (selected : s.selection = some chosen)
include guarded selected

theorem undisturbed_untaken : ¬ TakesSlot cfg s.table r chosen.slot := by
  rintro ⟨accepted, syn, place⟩
  exact (guarded accepted chosen selected chosen.slot place).1 syn rfl

theorem undisturbed_slot (live : (s.table chosen.slot).connectionStatus ≠ 0) :
    peerOf (step cfg s.table (.frame r) chosen.slot) = peerOf (s.table chosen.slot) ∧
      isLive (step cfg s.table (.frame r) chosen.slot) = isLive (s.table chosen.slot) := by
  have transition := step_transition cfg s.table (.frame r)
  generalize step cfg s.table (.frame r) = next at transition ⊢
  cases transition with
  | ignored => exact ⟨rfl, rfl⟩
  | full => exact ⟨rfl, rfl⟩
  | heard _ j accepted place regular =>
      have rules := guarded accepted chosen selected j place
      by_cases here : chosen.slot = j
      · rw [← here] at rules place regular ⊢
        have later : r.heard.kind ≠ .syn := fun syn => rules.1 ((kind_of_syn _).mp syn) rfl
        have open' : r.heard.status (s.table chosen.slot) ≠ tcpFinAck := by
          intro closing
          have lasting := regular.resolve_right (not_not_intro closing)
          have apart := rules.2 ((closing_bits s.table r chosen.slot).mp closing)
          rw [if_neg lasting] at apart
          exact apart rfl
        rw [Function.update_self, Heard.outcome, if_neg open']
        exact ⟨apply_key _ _ later, apply_live _ _ later⟩
      · rw [Function.update_of_ne here]
        exact ⟨rfl, rfl⟩
  | stray _ j port accepted place expired closing =>
      have rules := (guarded accepted chosen selected j place).2 ((closing_bits s.table r j).mp closing)
      rw [if_pos expired] at rules
      exact stray_other s.table r j closing port chosen.slot live rules

end

theorem chat_inv_frame (cfg : Config) (s : Chat) (r : Reception) (inv : ChatInv s) (guarded : Undisturbed cfg s (.frame r)) :
    ChatInv (chatStep cfg s (.frame r)) where
  writing := by
    intro i writes
    simp only [chatStep, receive_io] at writes
    obtain ⟨chosen, selected, place⟩ := inv.writing i writes
    refine ⟨{ chosen with intact := chosen.intact && !decide (TakesSlot cfg s.table r chosen.slot) }, ?_, place⟩
    simp only [chatStep, follow, selected, Option.map_some]
  kept := by
    intro next selected
    simp only [chatStep, follow, Option.map_eq_some_iff] at selected
    obtain ⟨chosen, before, rfl⟩ := selected
    obtain ⟨intact, writes, peer, live⟩ := inv.kept chosen before
    have untaken := undisturbed_untaken cfg s r guarded chosen before
    have slot := undisturbed_slot cfg s r guarded chosen before live
    refine ⟨by simp [intact, untaken], ?_, slot.1.trans peer, ?_⟩
    · simpa only [chatStep, receive_io] using writes
    · rw [← is_live_iff]
      exact slot.2.trans ((is_live_iff _).mpr live)

theorem selection_of_promise (s : Chat) (inv : ChatInv s) (i : Fin tcpConnectionLimit) (writing : promise s.table = some i) :
    ∃ chosen, s.selection = some chosen ∧ chosen.slot = i :=
  inv.writing i (promise_some s.table i writing)

theorem selection_none (s : Chat) (inv : ChatInv s) (unwritten : promise s.table = none) : s.selection = none := by
  cases selected : s.selection with
  | none => rfl
  | some chosen => exact absurd (promise_none s.table unwritten chosen.slot) (inv.kept chosen selected).2.1

theorem chat_inv_done (s : Chat) (inv : ChatInv s) (i : Fin tcpConnectionLimit) (writing : promise s.table = some i)
    (conn : TcpConnection) (done : conn.io = 0) : ChatInv ⟨Function.update s.table i conn, none⟩ where
  writing := by
    intro j writes
    dsimp only at writes
    by_cases here : j = i
    · subst here
      rw [Function.update_self] at writes
      exact absurd done writes
    · rw [Function.update_of_ne here] at writes
      obtain ⟨first, selected, place⟩ := selection_of_promise s inv i writing
      obtain ⟨second, selected', place'⟩ := inv.writing j writes
      rw [selected, Option.some.injEq] at selected'
      subst selected'
      exact absurd (place'.symm.trans place) here
  kept := fun chosen selected => by cases selected

theorem chat_inv_input (cfg : Config) (s : Chat) (u : UserRead) (inv : ChatInv s) : ChatInv (chatStep cfg s (.input u)) := by
  have meant := intent_meant s.table u
  simp only [chatStep, follow, step_input]
  generalize intent s.table u = request at meant
  cases request with
  | nothing => exact inv
  | select i =>
      refine ⟨fun j writes => ?_, fun chosen selected => ?_⟩
      · by_cases here : j = i
        · exact ⟨_, rfl, here.symm⟩
        · simp only [Intent.effect, Function.update_of_ne here] at writes
          exact absurd (promise_none s.table meant.1 j) writes
      · cases selected
        dsimp only [Intent.effect]
        rw [Function.update_self]
        exact ⟨rfl, by simp [Intent.conn], rfl, meant.2⟩
  | quit i =>
      have unselected := selection_none s inv meant.1
      refine ⟨fun j writes => ?_, fun chosen selected => ?_⟩
      · have same := SlotTable.update_key TcpConnection.io s.table i (Intent.conn u (s.table i) (.quit i)) rfl j
        exact absurd (same.trans (promise_none s.table meant.1 j)) writes
      · rw [unselected] at selected
        cases selected
  | leave i => exact chat_inv_done s inv i meant _ rfl
  | text i => exact chat_inv_done s inv i meant.1 _ rfl

theorem chat_inv_step (cfg : Config) (s : Chat) (e : Event) (inv : ChatInv s) (guarded : Undisturbed cfg s e) :
    ChatInv (chatStep cfg s e) := by
  cases e with
  | frame r => exact chat_inv_frame cfg s r inv guarded
  | input u => exact chat_inv_input cfg s u inv

theorem text_reaches_chosen (s : Chat) (e : Event) (inv : ChatInv s) : TextReachesChosen s e := by
  cases e with
  | frame r => trivial
  | input u =>
      intro i text
      have meant := intent_meant s.table u
      have sent : (interact s.table u).sent = (Intent.text i).sent s.table u := by rw [interact_intent, text]
      rw [text] at meant
      obtain ⟨chosen, selected, place⟩ := selection_of_promise s inv i meant.1
      obtain ⟨intact, -, peer, live⟩ := inv.kept chosen selected
      rw [place] at peer live
      refine ⟨chosen, selected, place, intact, live, _, sent, ?_⟩
      have header := send_segment_header u.text s.table i false u.fits
      rw [← peer]
      exact Prod.ext (congrArg Header.destAddr header) (congrArg Header.destPort header)

theorem chat_text_reaches_chosen (cfg : Config) (events : List Event)
    (guarded : Runs.Always (chatStep cfg) (Undisturbed cfg) newChat events) :
    Runs.Always (chatStep cfg) TextReachesChosen newChat events :=
  Runs.always_of_invariant (chatStep cfg) ChatInv (Undisturbed cfg) TextReachesChosen
    (fun s e inv guard => chat_inv_step cfg s e inv guard) (fun s e inv _ => text_reaches_chosen s e inv)
    newChat events chat_inv_new guarded

def types (text : List UInt8) : Event := .input ⟨text.take 1023, by simp⟩

def chatWithVisitor : List Event := opening ++ [types [48, 99, 10], arrives 101 778 16 [], types [104, 105, 10]]

theorem chat_text_reaches_chosen_visitor : Runs.Always (chatStep soloConfig) TextReachesChosen newChat chatWithVisitor := by
  refine chat_text_reaches_chosen soloConfig chatWithVisitor ⟨?_, ?_, trivial, ?_, trivial, trivial⟩
  · intro _ chosen selected
    cases selected
  · intro _ chosen selected
    cases selected
  · intro _ chosen _ j _
    refine ⟨fun syn => absurd syn (by decide +kernel), ?_⟩
    rintro (⟨fin, -⟩ | ⟨disguised, -⟩)
    · exact absurd fin (by decide +kernel)
    · exact absurd disguised (by decide +kernel)

def somebodyElse : Event :=
  .frame (({ visitor 500 0 2 [] with ipAddr := ipOctets 0x0A 0x00 0x00 0x02 } : PeerSegment).arrival [htonl 777])

def slotChangesHands : List Event :=
  opening ++ [types [48, 99, 10], arrives 101 778 17 [], somebodyElse, types [104, 105, 10]]

theorem text_reaches_somebody_else : ¬ Runs.Always (chatStep soloConfig) TextReachesChosen newChat slotChangesHands := by
  intro always
  let before := opening ++ [types [48, 99, 10], arrives 101 778 17 [], somebodyElse]
  have text := Runs.always_at (chatStep soloConfig) TextReachesChosen newChat before (types [104, 105, 10]) [] always
  obtain ⟨chosen, selected, -, intact, -⟩ := text 0 (by decide +kernel)
  have taken : (Runs.run (chatStep soloConfig) newChat before).selection.map Selection.intact = some false := by
    decide +kernel
  rw [selected, Option.map_some, intact] at taken
  cases taken

end OsiStack
