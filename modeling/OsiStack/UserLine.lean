import OsiStack.PeerSegment
import OsiStack.TableInvariant
import OsiStack.UserSegment

set_option autoImplicit false

namespace OsiStack

open Octets PeerSegment

structure UserLine where
  body : List UInt8
  reads : List UserRead
  single : 10 ∉ body
  filled : ∀ u ∈ reads, u.text ≠ []
  whole : (reads.map UserRead.text).flatten = body ++ [10]

def UserLine.quits (line : UserLine) : Prop := line.body.length = 1 ∧ isQuit (line.body.getD 0 0)

instance (line : UserLine) : Decidable line.quits := inferInstanceAs (Decidable (_ ∧ _))

def enter (table : Table) : List UserRead → Interaction
  | [] => ⟨table, []⟩
  | u :: rest =>
      let first := interact table u
      let others := enter first.table rest
      ⟨others.table, first.sent ++ others.sent⟩

def lineStep (table : Table) (line : UserLine) : Table := (enter table line.reads).table

def sentText (s : Sent) : List UInt8 := (s.frame.drop 54).take (s.frame.length - 58)

structure TextSent (conn : TcpConnection) (text : List UInt8) (sent : List Sent) : Prop where
  addressed : ∀ s ∈ sent, addressee (ofList s.frame) = peerOf conn
  inFull : (sent.map sentText).flatten = text

def afterRead (table : Table) (u : UserRead) : Table := (interact table u).table

def LineKept (table : Table) (line : UserLine) : Prop :=
  ∀ i, promise table = some i →
    if line.quits then (enter table line.reads).sent = [] ∧ promise (enter table line.reads).table = none
    else TextSent (table i) (line.body ++ [10]) (enter table line.reads).sent ∧
      Runs.Always afterRead (fun table _ => promise table ≠ none) table line.reads

def LineMet (table : Table) (line : UserLine) : Prop :=
  promise table = none ∨ line.reads.length = if line.quits then 2 else 1

section
variable (table : Table) (u : UserRead)

theorem table_inv_interact (inv : TableInv table) : TableInv (interact table u).table := by
  rw [interact_intent]
  exact table_inv_user table inv u (intent table u) (intent_meant table u)

theorem promise_none_of (quiet : ∀ i, (table i).io = 0) : promise table = none := by
  rw [promise, Fin.find?_eq_none_iff]
  simpa using quiet

theorem chat_intent_text (i : Fin tcpConnectionLimit) (read : List UInt8) (filled : read ≠ [])
    (other : ¬ (read.length = 1 ∧ isQuit (read.getD 0 0) = true)) : chatIntent i read = .text i := by
  rw [chatIntent, if_neg other, if_neg (by rwa [List.length_eq_zero_iff])]

theorem intent_chat (i : Fin tcpConnectionLimit) (writing : promise table = some i) :
    intent table u = chatIntent i u.text := by
  rw [intent, writing]

theorem chat_read_leaves (inv : TableInv table) (i : Fin tcpConnectionLimit) (writing : promise table = some i)
    (filled : u.text ≠ []) : promise (interact table u).table = none := by
  have other (j : Fin tcpConnectionLimit) (apart : j ≠ i) : (table j).io = 0 := by
    by_contra writes
    exact apart (inv.single j i writes (promise_some table i writing))
  have done (conn : TcpConnection) (quiet : conn.io = 0) : promise (Function.update table i conn) = none := by
    apply promise_none_of
    intro j
    by_cases here : j = i
    · rw [here, Function.update_self]
      exact quiet
    · rw [Function.update_of_ne here]
      exact other j here
  rw [interact_intent, intent_chat table u i writing]
  by_cases lone : u.text.length = 1 ∧ isQuit (u.text.getD 0 0) = true
  · rw [chatIntent, if_pos lone]
    exact done _ rfl
  · rw [chat_intent_text i u.text filled lone]
    exact done _ rfl

theorem command_newline (commands : promise table = none) (newline : u.text = [10]) : interact table u = ⟨table, []⟩ := by
  have nothing : intent table u = .nothing := by
    rw [intent, commands, newline]
    rfl
  rw [interact_intent, nothing]
  rfl

theorem chat_letter (i : Fin tcpConnectionLimit) (writing : promise table = some i) (lone : u.text.length = 1)
    (quits : isQuit (u.text.getD 0 0) = true) : (interact table u).sent = [] := by
  rw [interact_intent, intent_chat table u i writing, chatIntent, if_pos ⟨lone, quits⟩]
  rfl

theorem text_sent (i : Fin tcpConnectionLimit) :
    TextSent (table i) u.text [sendSegment 0 (createTcpSegment u.text table tcpMac tcpIp i false)] := by
  have header := send_segment_header u.text table i false u.fits
  have size : (createTcpSegment u.text table tcpMac tcpIp i false).frameSize = _ :=
    create_tcp_segment_size u.text table i false
  have payload := create_tcp_segment_payload u.text table tcpMac tcpIp i false
  have fits := u.fits
  simp only [Bool.false_eq_true, if_false] at size
  have frame : (sendSegment 0 (createTcpSegment u.text table tcpMac tcpIp i false)).frame =
      fetch (createTcpSegment u.text table tcpMac tcpIp i false).frame 0 (58 + u.text.length) := by
    rw [sendSegment, sendEthernetFrame, size, Nat.mod_eq_of_lt (by omega)]
  constructor
  · intro s member
    rw [List.mem_singleton.mp member]
    have destAddr := congrArg Header.destAddr header
    have destPort := congrArg Header.destPort header
    exact Prod.ext destAddr destPort
  · have whole : sentText (sendSegment 0 (createTcpSegment u.text table tcpMac tcpIp i false)) = u.text := by
      rw [sentText, frame, fetch_drop _ _ _ _ (by omega), fetch_length, fetch_take _ _ _ _ (by omega), Nat.add_sub_cancel_left]
      exact payload
    simp [whole]

end

-- The only way to read a lone letter in parts is without its newline.
theorem quit_split (line : UserLine) (quits : line.quits) (first second : UserRead) (rest : List UserRead)
    (split : line.reads = first :: second :: rest) :
    rest = [] ∧ first.text.length = 1 ∧ isQuit (first.text.getD 0 0) = true ∧ second.text = [10] := by
  have firstSome := List.length_pos_of_ne_nil (line.filled first (by simp [split]))
  have secondSome := List.length_pos_of_ne_nil (line.filled second (by simp [split]))
  obtain ⟨lone, letter⟩ := quits
  obtain ⟨c, body⟩ := List.length_eq_one_iff.mp lone
  have whole : first.text ++ (second.text ++ (rest.map UserRead.text).flatten) = [c, 10] := by
    have whole := line.whole
    rw [split, body] at whole
    simpa using whole
  have sizes := congrArg List.length whole
  simp only [List.length_append, List.length_cons, List.length_nil] at sizes
  have nothing : rest = [] := by
    cases rest with
    | nil => rfl
    | cons third rest =>
        have thirdSome := List.length_pos_of_ne_nil (line.filled third (by simp [split]))
        simp only [List.map_cons, List.flatten_cons, List.length_append] at sizes
        omega
  obtain ⟨d, firstText⟩ := List.length_eq_one_iff.mp (show first.text.length = 1 by omega)
  obtain ⟨e, secondText⟩ := List.length_eq_one_iff.mp (show second.text.length = 1 by omega)
  rw [firstText, secondText, nothing] at whole
  rw [body] at letter
  simp only [List.map_nil, List.flatten_nil, List.append_nil, List.cons_append, List.nil_append, List.cons.injEq,
    and_true] at whole
  obtain ⟨rfl, rfl⟩ := whole
  exact ⟨nothing, by rw [firstText]; rfl, by rw [firstText]; exact letter, secondText⟩

section
variable (table : Table) (line : UserLine) (i : Fin tcpConnectionLimit) (writing : promise table = some i)
include writing

theorem line_at_once (u : UserRead) (once : line.reads = [u]) :
    (enter table line.reads).sent = [sendSegment 0 (createTcpSegment u.text table tcpMac tcpIp i false)] ∧
      u.text = line.body ++ [10] := by
  have text : u.text = line.body ++ [10] := by
    have whole := line.whole
    rw [once] at whole
    simpa using whole
  refine ⟨?_, text⟩
  have other : ¬ (u.text.length = 1 ∧ isQuit (u.text.getD 0 0) = true) := by
    rintro ⟨lone, letter⟩
    rw [text] at lone letter
    have empty : line.body = [] := List.eq_nil_of_length_eq_zero (by simpa using lone)
    rw [empty] at letter
    exact absurd letter (by decide)
  have meant : intent table u = .text i := by
    rw [intent_chat table u i writing, chat_intent_text i u.text (by simp [text]) other]
  simp [once, enter, interact_intent, meant, Intent.sent]

theorem line_once_kept (u : UserRead) (once : line.reads = [u]) :
    TextSent (table i) (line.body ++ [10]) (enter table line.reads).sent ∧
      Runs.Always afterRead (fun table _ => promise table ≠ none) table line.reads := by
  obtain ⟨sent, text⟩ := line_at_once table line i writing u once
  rw [sent, ← text, once]
  exact ⟨text_sent table u i, by simp [writing], trivial⟩

theorem line_split_leaves (inv : TableInv table) (first second : UserRead) (rest : List UserRead)
    (split : line.reads = first :: second :: rest) : promise (afterRead table first) = none :=
  chat_read_leaves table first inv i writing (line.filled first (by simp [split]))

theorem quit_split_kept (inv : TableInv table) (quits : line.quits) (first second : UserRead)
    (split : line.reads = [first, second]) :
    (enter table line.reads).sent = [] ∧ promise (enter table line.reads).table = none := by
  obtain ⟨-, lone, letter, newline⟩ := quit_split line quits first second [] split
  have leaves := line_split_leaves table line i writing inv first second [] split
  have silent := chat_letter table first i writing lone letter
  have nothing := command_newline (afterRead table first) second leaves newline
  rw [afterRead] at leaves nothing
  simp [split, enter, silent, nothing, leaves]

end

theorem line_read (line : UserLine) : line.reads ≠ [] := by
  intro unread
  have whole := line.whole
  simp [unread] at whole

theorem line_kept_iff (table : Table) (inv : TableInv table) (line : UserLine) : LineKept table line ↔ LineMet table line := by
  cases writing : promise table with
  | none => simp [LineKept, LineMet, writing]
  | some i =>
      have kept : LineKept table line ↔ if line.quits then (enter table line.reads).sent = [] ∧
          promise (enter table line.reads).table = none else
          TextSent (table i) (line.body ++ [10]) (enter table line.reads).sent ∧
            Runs.Always afterRead (fun table _ => promise table ≠ none) table line.reads := by
        simp [LineKept, writing]
      have met : LineMet table line ↔ line.reads.length = if line.quits then 2 else 1 := by simp [LineMet, writing]
      rw [kept, met]
      by_cases quits : line.quits
      · rw [if_pos quits, if_pos quits]
        cases reads : line.reads with
        | nil => exact absurd reads (line_read line)
        | cons first rest =>
            cases rest with
            | nil =>
                have text := (line_at_once table line i writing first reads).1
                rw [reads] at text
                simp [text]
            | cons second rest =>
                obtain ⟨rfl, -⟩ := quit_split line quits first second rest reads
                have leaves := quit_split_kept table line i writing inv quits first second reads
                rw [reads] at leaves
                simp [leaves]
      · rw [if_neg quits, if_neg quits]
        cases reads : line.reads with
        | nil => exact absurd reads (line_read line)
        | cons first rest =>
            cases rest with
            | nil =>
                have text := line_once_kept table line i writing first reads
                rw [reads] at text
                simp only [text, and_self, List.length_singleton]
            | cons second rest =>
                have leaves := line_split_leaves table line i writing inv first second rest reads
                simp [Runs.Always, leaves]

theorem line_step_inv (table : Table) (line : UserLine) (inv : TableInv table) : TableInv (lineStep table line) := by
  rw [lineStep]
  induction line.reads generalizing table with
  | nil => exact inv
  | cons u rest ih => exact ih (interact table u).table (table_inv_interact table u inv)

theorem lines_kept_iff (cfg : Config) (table : Table) (reached : Reachable cfg table) (lines : List UserLine) :
    Runs.Always lineStep LineKept table lines ↔ Runs.Always lineStep LineMet table lines :=
  Runs.always_congr_guarded lineStep TableInv LineKept LineMet (fun table line inv _ => line_step_inv table line inv)
    (fun table line inv => line_kept_iff table inv line) table lines (table_inv_reachable cfg table reached)

theorem newline_fits (body : List UInt8) (short : body.length < 1023) : (body ++ [10]).length ≤ 1023 := by
  rw [List.length_append]
  exact short

def atOnce (body : List UInt8) (single : 10 ∉ body) (short : body.length < 1023) : UserLine where
  body := body
  reads := [⟨body ++ [10], newline_fits body short⟩]
  single := single
  filled := fun _ member => List.mem_singleton.mp member ▸ List.append_ne_nil_of_right_ne_nil body (List.cons_ne_nil 10 [])
  whole := List.append_nil (body ++ [10])

def greeting : List UserLine := [atOnce [48, 99] (by decide) (by decide), atOnce [104, 105] (by decide) (by decide)]

theorem lines_kept_iff_greeting :
    Runs.Always lineStep LineKept visited greeting ↔ Runs.Always lineStep LineMet visited greeting :=
  lines_kept_iff soloConfig visited visited_reachable greeting

def parting : List UserLine := [atOnce [48, 99] (by decide) (by decide), atOnce [113] (by decide) (by decide)]

theorem quit_line_sent : ¬ ∀ (cfg : Config) (table : Table), Reachable cfg table → ∀ lines,
    Runs.Always lineStep LineKept table lines := by
  intro kept
  obtain ⟨-, quit, -⟩ := kept soloConfig visited visited_reachable parting
  have inv : TableInv (lineStep visited (atOnce [48, 99] (by decide) (by decide))) :=
    line_step_inv visited _ (table_inv_reachable soloConfig visited visited_reachable)
  rcases (line_kept_iff _ inv _).mp quit with left | size
  · revert left
    decide +kernel
  · revert size
    decide

end OsiStack
