import OsiStack.Transition

set_option autoImplicit false

namespace OsiStack

structure TableInv (table : Table) : Prop where
  status : ∀ i, (table i).connectionStatus = 0 ∨ (table i).connectionStatus = 1 ∨ (table i).connectionStatus = 2
  canonical : SlotTable.Canonical peerOf isLive table
  single : ∀ i j, (table i).io ≠ 0 → (table j).io ≠ 0 → i = j

theorem table_inv_zero : TableInv zeroTable where
  status := fun _ => Or.inl rfl
  canonical := fun i live => by simp [zeroTable, zeroConnection, isLive] at live
  single := fun i j writing => by simp [zeroTable, zeroConnection] at writing

theorem table_inv_update (table : Table) (inv : TableInv table) (i : Fin tcpConnectionLimit) (conn : TcpConnection)
    (status : conn.connectionStatus = 0 ∨ conn.connectionStatus = 1 ∨ conn.connectionStatus = 2)
    (canonical : SlotTable.Canonical peerOf isLive (Function.update table i conn))
    (writing : conn.io ≠ 0 → ∀ j, j ≠ i → (table j).io = 0) : TableInv (Function.update table i conn) where
  status := by
    intro j
    by_cases here : j = i
    · subst here
      rw [Function.update_self]
      exact status
    · rw [Function.update_of_ne here]
      exact inv.status j
  canonical := canonical
  single := by
    intro j k writesJ writesK
    by_cases hereJ : j = i
    · by_cases hereK : k = i
      · rw [hereJ, hereK]
      · subst hereJ
        rw [Function.update_self] at writesJ
        rw [Function.update_of_ne hereK] at writesK
        exact absurd (writing writesJ k hereK) writesK
    · rw [Function.update_of_ne hereJ] at writesJ
      by_cases hereK : k = i
      · subst hereK
        rw [Function.update_self] at writesK
        exact absurd (writing writesK j hereJ) writesJ
      · rw [Function.update_of_ne hereK] at writesK
        exact inv.single j k writesJ writesK

theorem writing_kept (table : Table) (inv : TableInv table) (i : Fin tcpConnectionLimit) (conn : TcpConnection)
    (same : conn.io = (table i).io) (writes : conn.io ≠ 0) (j : Fin tcpConnectionLimit) (other : j ≠ i) :
    (table j).io = 0 := by
  by_contra writesJ
  rw [same] at writes
  exact other (inv.single j i writesJ writes)

theorem apply_io (h : Heard) (conn : TcpConnection) : (h.apply conn).io = conn.io := by
  unfold Heard.apply
  cases h.kind with
  | ack => dsimp only; split <;> rfl
  | syn => rfl
  | pshAck => rfl
  | finAck => rfl
  | other => rfl

theorem apply_status (h : Heard) (conn : TcpConnection)
    (known : conn.connectionStatus = 0 ∨ conn.connectionStatus = 1 ∨ conn.connectionStatus = 2) :
    (h.apply conn).connectionStatus = 0 ∨ (h.apply conn).connectionStatus = 1 ∨ (h.apply conn).connectionStatus = 2 := by
  unfold Heard.apply
  cases h.kind with
  | syn => exact Or.inr (Or.inr rfl)
  | ack =>
      rcases known with dead | up | half
      · simp [dead]
      · simp [up]
      · simp [half]
  | pshAck => exact known
  | finAck => exact known
  | other => exact known

theorem table_inv_apply (table : Table) (inv : TableInv table) (h : Heard) (i : Fin tcpConnectionLimit)
    (chosen : slotFor table h.peer = some i) : TableInv (Function.update table i (h.apply (table i))) := by
  apply table_inv_update table inv i _ (apply_status h (table i) (inv.status i))
  · by_cases syn : h.kind = .syn
    · exact SlotTable.canonical_open peerOf isLive table inv.canonical h.peer i _ chosen (apply_syn_key h (table i) syn)
    · apply SlotTable.canonical_update peerOf isLive table inv.canonical i _ (apply_key h (table i) syn)
      rw [apply_live h (table i) syn]
      exact id
  · exact writing_kept table inv i _ (apply_io h (table i))

theorem table_inv_close (table : Table) (inv : TableInv table) (i : Fin tcpConnectionLimit) :
    TableInv (Function.update table i (Heard.close (table i))) := by
  apply table_inv_update table inv i _ (Or.inl rfl)
  · exact SlotTable.canonical_update peerOf isLive table inv.canonical i _ rfl (by simp [isLive, Heard.close])
  · exact writing_kept table inv i _ rfl

theorem table_inv_close_at (table : Table) (inv : TableInv table) (peer : Peer) : TableInv (closeAt table peer) := by
  unfold closeAt
  cases slotFor table peer with
  | none => exact inv
  | some i => exact table_inv_close table inv i

theorem table_inv_outcome (table : Table) (inv : TableInv table) (h : Heard) (i : Fin tcpConnectionLimit)
    (chosen : slotFor table h.peer = some i) : TableInv (Function.update table i (h.outcome (table i))) := by
  have first := table_inv_apply table inv h i chosen
  unfold Heard.outcome
  split
  · have second := table_inv_close _ first i
    rw [Function.update_self, Function.update_idem] at second
    exact second
  · exact first

theorem table_inv_user (table : Table) (inv : TableInv table) (u : UserRead) (intent : Intent) (meant : intent.Meant table u) :
    TableInv (intent.effect table u) := by
  have same (i : Fin tcpConnectionLimit) (conn : TcpConnection) (key : peerOf conn = peerOf (table i))
      (live : isLive conn = true → isLive (table i) = true) :=
    SlotTable.canonical_update peerOf isLive table inv.canonical i conn key live
  cases intent with
  | nothing => exact inv
  | select i =>
      exact table_inv_update table inv i _ (inv.status i) (same i _ rfl id) fun _ j _ => promise_none table meant.1 j
  | quit i =>
      exact table_inv_update table inv i _ (Or.inl rfl) (same i _ rfl (by simp [isLive, Intent.conn]))
        (writing_kept table inv i _ rfl)
  | leave i => exact table_inv_update table inv i _ (inv.status i) (same i _ rfl id) fun writes => absurd rfl writes
  | text i => exact table_inv_update table inv i _ (inv.status i) (same i _ rfl id) fun writes => absurd rfl writes

theorem table_inv_step (cfg : Config) (table : Table) (e : Event) (inv : TableInv table) :
    TableInv (step cfg table e) := by
  have transition := step_transition cfg table e
  generalize step cfg table e = next at transition ⊢
  cases transition with
  | ignored => exact inv
  | full => exact inv
  | heard r i _ chosen _ => exact table_inv_outcome table inv r.heard i chosen
  | stray r i port _ chosen _ _ => exact table_inv_close_at _ (table_inv_apply table inv r.heard i chosen) _
  | user u meant => exact table_inv_user table inv u (intent table u) meant

theorem table_inv_run (cfg : Config) (events : List Event) : TableInv (Runs.run (step cfg) zeroTable events) :=
  Runs.run_invariant (step cfg) TableInv (fun table e => table_inv_step cfg table e) zeroTable events table_inv_zero

theorem table_inv_reachable (cfg : Config) (table : Table) (reached : Reachable cfg table) : TableInv table :=
  reachable_invariant cfg TableInv table_inv_zero (fun table e => table_inv_step cfg table e) table reached

theorem connection_table_invariant (cfg : Config) (events : List Event) :
    let table := Runs.run (step cfg) zeroTable events
    (∀ i, (table i).connectionStatus = 0 ∨ (table i).connectionStatus = 1 ∨ (table i).connectionStatus = 2) ∧
      (∀ i, (table i).connectionStatus ≠ 0 →
        connectionLookup table (table i).hostIpAddr (table i).port = some i) ∧
      ∀ i j, (table i).io = 1 → (table j).io = 1 → i = j := by
  intro table
  have inv : TableInv table := table_inv_run cfg events
  refine ⟨inv.status, ?_, ?_⟩
  · intro i live
    have found := inv.canonical i ((is_live_iff (table i)).mpr live)
    rw [← connection_lookup_refines] at found
    exact found
  · intro i j writesI writesJ
    exact inv.single i j (by rw [writesI]; decide) (by rw [writesJ]; decide)

end OsiStack
