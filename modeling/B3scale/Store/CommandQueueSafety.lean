/-
  b3scale formalization — the command queue in every reachable state: what
  any run of enqueuers, consumers and sweeps keeps.

  * `Inv`: a consumer inside `process` holds the lock on the row it read,
    still `requested`, and every lock is held so; rows past `requested` are
    committed; claims lie in the past;
  * `Inv.step`, `inv_run`: every step keeps it, so every run does.
-/
import B3scale.Store.CommandQueue

namespace B3scale
namespace Queue

variable {q : Queue}

/-- The invariant of the consumers and the row locks. -/
structure Inv (q : Queue) : Prop where
  /-- a consumer inside `process` holds the lock on the row it read, a
      committed `requested` row -/
  held : ∀ c cmd t, q.phase c = .claimed cmd t →
    ∃ r ∈ q.table.rows, r.id = cmd.id ∧ r.lock = some c ∧ r.state = .requested ∧ r.committed
  /-- every lock is held by a consumer inside `process` on that row -/
  locked : ∀ r ∈ q.table.rows, ∀ c, r.lock = some c →
    ∃ cmd t, q.phase c = .claimed cmd t ∧ cmd.id = r.id
  /-- rows past `requested` are committed -/
  final : ∀ r ∈ q.table.rows, r.state ≠ .requested → r.committed
  /-- claims were made in the past -/
  started : ∀ c cmd t, q.phase c = .claimed cmd t → t ≤ q.now

theorem inv_init : Inv init where
  held _ _ _ h := nomatch h
  locked _ h := nomatch h
  final _ h := nomatch h
  started _ _ _ h := nomatch h

theorem Inv.queue (h : Inv q) (a : String) (p : Value) : Inv (q.queue a p) where
  held c cmd t hc := by
    obtain ⟨r, hr, h'⟩ := h.held c cmd t hc
    exact ⟨r, List.mem_append_left _ hr, h'⟩
  locked r hr c hl := by
    rcases List.mem_append.1 hr with hr | hr
    · exact h.locked r hr c hl
    · simp [List.mem_singleton.1 hr] at hl
  final r hr hs := by
    rcases List.mem_append.1 hr with hr | hr
    · exact h.final r hr hs
    · simp [List.mem_singleton.1 hr] at hs
  started := h.started

theorem Inv.insertCommit (h : Inv q) (id : Nat) : Inv (q.insertCommit id) where
  held c cmd t hc := by
    obtain ⟨r, hr, hid, hl, hs, hcm⟩ := h.held c cmd t hc
    refine ⟨_, mem_updateRow_of_mem id (fun r => { r with committed := true }) hr, ?_⟩
    unfold Row.patch; split <;> simp [hid, hl, hs, hcm]
  locked x hx c hl := by
    obtain ⟨r, hr, rfl⟩ := mem_updateRow.1 hx
    unfold Row.patch at hl ⊢
    split_ifs at hl ⊢ <;> exact h.locked r hr c hl
  final x hx hs := by
    obtain ⟨r, hr, rfl⟩ := mem_updateRow.1 hx
    unfold Row.patch at hs ⊢
    split_ifs at hs ⊢
    · rfl
    · exact h.final r hr hs
  started := h.started

/-- A locked row is committed. -/
theorem Inv.committed_of_lock (h : Inv q) {r : Row} (hr : r ∈ q.table.rows) {c : Nat}
    (hl : r.lock = some c) : r.committed := by
  obtain ⟨cmd, t, hc, hid⟩ := h.locked r hr c hl
  obtain ⟨r', hr', hid', -, -, hcm⟩ := h.held c cmd t hc
  rwa [Table.eq_of_id hr hr' (hid.symm.trans hid'.symm)]

/-- Deleting rows that are not locked keeps the invariant. -/
theorem Inv.of_filter (h : Inv q) {q' : Queue} {p : Row → Bool}
    (hrows : q'.table.rows = q.table.rows.filter p)
    (hp : ∀ r ∈ q.table.rows, ∀ c, r.lock = some c → p r)
    (hphase : q'.phase = q.phase) (hnow : q'.now = q.now) : Inv q' where
  held c cmd t hc := by
    obtain ⟨r, hr, h'⟩ := h.held c cmd t (hphase ▸ hc)
    exact ⟨r, hrows ▸ List.mem_filter.2 ⟨hr, hp r hr c h'.2.1⟩, h'⟩
  locked r hr c hl := hphase ▸ h.locked r (List.mem_filter.1 (hrows ▸ hr)).1 c hl
  final r hr := h.final r (List.mem_filter.1 (hrows ▸ hr)).1
  started c cmd t hc := hnow ▸ h.started c cmd t (hphase ▸ hc)

theorem Inv.insertAbort (h : Inv q) (id : Nat) : Inv (q.insertAbort id) := by
  rcases insertAbort_cases q id with e | ⟨hrows, hphase, hnow, -⟩
  · rw [e]; exact h
  exact h.of_filter hrows (fun r hr c hl => by simp [h.committed_of_lock hr hl]) hphase hnow

theorem Inv.deleteExpired (h : Inv q) : Inv q.deleteExpired :=
  h.of_filter rfl (fun r _ c hl => by simp [Row.expired, hl]) rfl rfl

theorem Inv.tick (h : Inv q) (d : Nat) : Inv (q.tick d) :=
  { h with started := fun c cmd t hc => Nat.le_add_right_of_le (h.started c cmd t hc) }

theorem Inv.claim (h : Inv q) (c : Nat) : Inv (q.claim c) := by
  rcases claim_cases q c with e | ⟨cmd, hc, hs, hrows, hphase, hnow, -⟩
  · rw [e]; exact h
  obtain ⟨hmem, hcom, hreq, hfree⟩ := select_spec hs
  constructor
  · intro c' cmd' t' hc'
    rw [hrows]
    rcases update_claimed (hphase ▸ hc') with ⟨rfl, ⟨⟩⟩ | ⟨-, hc'⟩
    · exact ⟨_, mem_updateRow_of_mem _ _ hmem, by simp [Row.patch_of_eq, hreq, hcom]⟩
    · obtain ⟨r, hr, hid, hl, h'⟩ := h.held c' cmd' t' hc'
      have hne : r.id ≠ cmd.id := fun he => by
        rw [Table.eq_of_id hr hmem he, hfree] at hl; cases hl
      exact ⟨r, mem_updateRow_of_ne _ hr hne, hid, hl, h'⟩
  · intro x hx c' hl
    rw [hrows] at hx
    rw [hphase]
    obtain ⟨r, hr, rfl⟩ := mem_updateRow.1 hx
    by_cases he : r.id = cmd.id
    · rw [Row.patch_of_eq he] at hl ⊢
      cases hl
      exact ⟨cmd, q.now, Function.update_same _ _ _, he.symm⟩
    · rw [Row.patch_of_ne he] at hl ⊢
      obtain ⟨cmd', t', hc', hid⟩ := h.locked r hr c' hl
      have hcc : c' ≠ c := fun e => by rw [e, hc] at hc'; cases hc'
      exact ⟨cmd', t', by rw [Function.update_noteq hcc]; exact hc', hid⟩
  · intro x hx hs'
    rw [hrows] at hx
    obtain ⟨r, hr, rfl⟩ := mem_updateRow.1 hx
    unfold Row.patch at hs' ⊢
    split_ifs at hs' ⊢ <;> exact h.final r hr hs'
  · intro c' cmd' t' hc'
    rw [hnow]
    rcases update_claimed (hphase ▸ hc') with ⟨-, ⟨⟩⟩ | ⟨-, hc'⟩
    · exact le_rfl
    · exact h.started c' cmd' t' hc'

theorem Inv.complete (h : Inv q) (c : Nat) (res : HandlerResult) (u m : Bool) :
    Inv (q.complete c res u m) := by
  rcases complete_cases q c res u m with e | ⟨cmd, t, hc, hrows, hphase, hnow, -⟩
  · rw [e]; exact h
  obtain ⟨r0, hr0, hid0, hl0, -, hcm0⟩ := h.held c cmd t hc
  have other : ∀ r ∈ q.table.rows, ∀ c', r.lock = some c' → c' ≠ c → r.id ≠ cmd.id :=
    fun r hr c' hl hne he => hne <| Option.some.inj <| by
      rw [← hl, ← hl0, Table.eq_of_id hr hr0 (he.trans hid0.symm)]
  constructor
  · intro c' cmd' t' hc'
    rcases update_claimed (hphase ▸ hc') with ⟨-, ⟨⟩⟩ | ⟨hcc, hc'⟩
    obtain ⟨r, hr, hid, hl, h'⟩ := h.held c' cmd' t' hc'
    exact ⟨r, hrows ▸ mem_updateRow_of_ne _ hr (other r hr c' hl hcc), hid, hl, h'⟩
  · intro x hx c' hl
    rw [hrows] at hx
    obtain ⟨r, hr, rfl⟩ := mem_updateRow.1 hx
    by_cases he : r.id = cmd.id
    · rw [Row.patch_of_eq he, Row.close_lock] at hl; cases hl
    · rw [Row.patch_of_ne he] at hl ⊢
      obtain ⟨cmd', t', hc', hid⟩ := h.locked r hr c' hl
      have hcc : c' ≠ c := fun e => by
        subst e; rw [hc] at hc'; cases hc'; exact he hid.symm
      exact ⟨cmd', t', by rw [hphase, Function.update_noteq hcc]; exact hc', hid⟩
  · intro x hx hs
    rw [hrows] at hx
    obtain ⟨r, hr, rfl⟩ := mem_updateRow.1 hx
    by_cases he : r.id = cmd.id
    · rw [Row.patch_of_eq he, Row.close_committed, Table.eq_of_id hr hr0 (he.trans hid0.symm)]
      exact hcm0
    · rw [Row.patch_of_ne he] at hs ⊢; exact h.final r hr hs
  · intro c' cmd' t' hc'
    rcases update_claimed (hphase ▸ hc') with ⟨-, ⟨⟩⟩ | ⟨-, hc'⟩
    rw [hnow]; exact h.started c' cmd' t' hc'

theorem Inv.step (h : Inv q) : ∀ a, Inv (q.step a)
  | .queue a p => h.queue a p
  | .insertCommit id => h.insertCommit id
  | .insertAbort id => h.insertAbort id
  | .claim c => h.claim c
  | .complete c res u m => h.complete c res u m
  | .deleteExpired => h.deleteExpired
  | .tick d => h.tick d

theorem Inv.foldl (h : Inv q) (acts : List Act) : Inv (acts.foldl Queue.step q) := by
  induction acts generalizing q with
  | nil => exact h
  | cons a acts ih => exact ih (h.step a)

/-- **Every run keeps the invariant.** -/
theorem inv_run (acts : List Act) : Inv (run acts) := inv_init.foldl acts

/-! ## Locks and final rows -/

/-- No two consumers hold one row. -/
theorem Inv.holder_unique (h : Inv q) {c c' : Nat} {cmd cmd' : Row} {t t' : Nat}
    (hc : q.phase c = .claimed cmd t) (hc' : q.phase c' = .claimed cmd' t')
    (he : cmd.id = cmd'.id) : c = c' := by
  obtain ⟨r, hr, hid, hl, -⟩ := h.held c cmd t hc
  obtain ⟨r', hr', hid', hl', -⟩ := h.held c' cmd' t' hc'
  rw [Table.eq_of_id hr hr' (by rw [hid, hid', he])] at hl
  exact Option.some.inj (hl.symm.trans hl')

/-- A row past `requested` is not the row a consumer holds. -/
theorem Inv.id_ne_of_final (h : Inv q) {r : Row} (hr : r ∈ q.table.rows)
    (hs : r.state ≠ .requested) {c : Nat} {cmd : Row} {t : Nat}
    (hc : q.phase c = .claimed cmd t) : r.id ≠ cmd.id := fun he => by
  obtain ⟨r', hr', hid', -, hs', -⟩ := h.held c cmd t hc
  exact hs (Table.eq_of_id hr hr' (he.trans hid'.symm) ▸ hs')

/-- From a state of the invariant, a step neither claims nor hands to the
    handler a row past `requested`, nor rewrites it; only the sweep removes
    it. -/
theorem Inv.final_kept (h : Inv q) (a : Act) {r : Row} (hr : r ∈ q.table.rows)
    (hs : r.state ≠ .requested) :
    (r ∈ (q.step a).table.rows ∨ a = .deleteExpired) ∧
      ∀ e ∈ (q.step a).log.drop q.log.length, e.taken ≠ some r.id := by
  cases a with
  | queue => exact ⟨.inl (List.mem_append_left _ hr), by simp [Queue.step]⟩
  | insertCommit id =>
    refine ⟨.inl ?_, by simp [Queue.step]⟩
    have hc := h.final r hr hs
    have hp : r.patch id (fun r => { r with committed := true }) = r := by
      unfold Row.patch; split
      · cases r; cases hc; rfl
      · rfl
    simpa [Queue.step, hp] using mem_updateRow_of_mem id (fun r => { r with committed := true }) hr
  | insertAbort id =>
    rcases insertAbort_cases q id with e | ⟨hrows, -, -, hlog⟩
    · simpa [Queue.step, e] using hr
    · simp only [Queue.step, hrows, hlog, List.drop_left]
      exact ⟨.inl (List.mem_filter.2 ⟨hr, by simp [h.final r hr hs]⟩), by simp [Event.taken]⟩
  | claim c =>
    rcases claim_cases q c with e | ⟨cmd, -, hsel, hrows, -, -, hlog⟩
    · simpa [Queue.step, e] using hr
    · obtain ⟨hmem, -, hreq, -⟩ := select_spec hsel
      have hne : r.id ≠ cmd.id := fun he => hs (Table.eq_of_id hr hmem he ▸ hreq)
      simp only [Queue.step, hrows, hlog, List.drop_left]
      exact ⟨.inl (mem_updateRow_of_ne _ hr hne), by simpa [Event.taken] using hne.symm⟩
  | complete c res u m =>
    rcases complete_cases q c res u m with e | ⟨cmd, t, hc, hrows, -, -, hlog⟩
    · simpa [Queue.step, e] using hr
    · have hne := h.id_ne_of_final hr hs hc
      simp only [Queue.step, hrows, hlog, List.append_assoc, List.drop_left]
      refine ⟨.inl (mem_updateRow_of_ne _ hr hne), fun e he => ?_⟩
      rcases List.mem_append.1 he with he | he
      · rw [eq_of_mem_invocation he]; simpa [Event.taken] using hne.symm
      · simp [List.mem_singleton.1 he]
  | deleteExpired =>
    refine ⟨.inr rfl, fun e he => ?_⟩
    simp only [Queue.step, deleteExpired_log, List.drop_left, List.mem_map] at he
    obtain ⟨x, -, rfl⟩ := he
    simp [Event.taken]
  | tick => exact ⟨.inl hr, by simp [Queue.step]⟩

/-- **Mutual exclusion, and final rows stay final.** In every state a run
    reaches, no two consumers hold one row; and no step claims, hands to the
    handler or rewrites a row that has reached `success` or `error`: only the
    sweep removes it. -/
theorem row_lock_exclusive (acts : List Act) :
    (∀ c c' cmd cmd' t t', (run acts).phase c = .claimed cmd t →
      (run acts).phase c' = .claimed cmd' t' → cmd.id = cmd'.id → c = c') ∧
    ∀ a, ∀ r ∈ (run acts).table.rows, r.state ≠ .requested →
      (r ∈ ((run acts).step a).table.rows ∨ a = .deleteExpired) ∧
      ∀ e ∈ ((run acts).step a).log.drop (run acts).log.length, e.taken ≠ some r.id :=
  ⟨fun _ _ _ _ _ _ hc hc' he => (inv_run acts).holder_unique hc hc' he,
   fun a _ hr hs => (inv_run acts).final_kept a hr hs⟩

end Queue
end B3scale
