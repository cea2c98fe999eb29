/-
  b3scale formalization — how often `process` hands a command to its handler.

  * `Delivery`: a command whose final state was committed is held by no one
    and never `requested` again; a command is committed at most once; no
    invocation is for a command past its deadline at its claim;
  * `Delivery.step`, `delivery_run`: every run keeps it;
  * `lostResults`: the claims of a command that a run rolls back after its
    handler ran, because `json.Marshal` of the result, the `UPDATE` or the
    `COMMIT` failed;
  * `invocations_step`, `invocations_run`: each invocation of the handler is
    paid for by a commit of the command or by such a rollback;
  * `handler_once_per_commit`: the handler runs for a command at most once
    more than the number of its lost results.
-/
import B3scale.Store.CommandQueueSafety

namespace B3scale
namespace Queue

variable {q : Queue}

/-- What the log says of delivery. -/
structure Delivery (q : Queue) : Prop where
  /-- a command whose final state was committed is past `requested` in the
      table, held by no consumer, and an id already drawn -/
  done : ∀ c id, Event.commit c id ∈ q.log →
    (∀ r ∈ q.table.rows, r.id = id → r.state ≠ .requested) ∧
    (∀ c' cmd t, q.phase c' = .claimed cmd t → cmd.id ≠ id) ∧ id < q.table.nextId
  /-- the final state of a command is committed once -/
  once : ∀ id, commits id q.log ≤ 1
  /-- no command is handed over past the deadline it had at its claim -/
  live : ∀ c cmd t n, Event.invoke c cmd t n ∈ q.log → ¬ cmd.deadline < t

theorem delivery_init : Delivery init where
  done _ _ h := nomatch h
  once _ := Nat.zero_le 1
  live _ _ _ _ h := nomatch h

/-- A step that keeps each row's id and state or drops the row, keeps the
    consumers and the next id, and logs only quiet events, keeps `Delivery`. -/
theorem Delivery.of_frame (h : Delivery q) {q' : Queue} (new : List Event)
    (hrows : ∀ r' ∈ q'.table.rows, ∃ r ∈ q.table.rows, r'.id = r.id ∧ r'.state = r.state)
    (hphase : q'.phase = q.phase) (hid : q'.table.nextId = q.table.nextId)
    (hlog : q'.log = q.log ++ new) (hnew : ∀ e ∈ new, e.quiet) : Delivery q' where
  done c id he := by
    rw [hlog] at he
    rcases List.mem_append.1 he with he | he
    · obtain ⟨h1, h2, h3⟩ := h.done c id he
      refine ⟨fun r' hr' hid' => ?_, hphase ▸ h2, hid ▸ h3⟩
      obtain ⟨r, hr, e1, e2⟩ := hrows r' hr'
      exact e2 ▸ h1 r hr (e1 ▸ hid')
    · cases hnew _ he
  once id := by simpa [hlog, commits_quiet hnew] using h.once id
  live c cmd t n he := by
    rw [hlog] at he
    rcases List.mem_append.1 he with he | he
    · exact h.live c cmd t n he
    · cases hnew _ he

theorem Delivery.queue (h : Delivery q) (a : String) (p : Value) : Delivery (q.queue a p) where
  done c id he := by
    obtain ⟨h1, h2, h3⟩ := h.done c id he
    refine ⟨fun r hr hid => ?_, h2, by simp only [queue_nextId]; omega⟩
    rcases List.mem_append.1 hr with hr | hr
    · exact h1 r hr hid
    · rw [List.mem_singleton.1 hr] at hid; simp at hid; omega
  once := h.once
  live := h.live

theorem Delivery.insertCommit (h : Delivery q) (id : Nat) : Delivery (q.insertCommit id) :=
  h.of_frame [] (fun r' hr' => by
    obtain ⟨r, hr, rfl⟩ := mem_updateRow.1 hr'
    unfold Row.patch; split_ifs <;> exact ⟨r, hr, rfl, rfl⟩) rfl rfl (by simp)
    fun _ h => nomatch h

theorem Delivery.insertAbort (h : Delivery q) (id : Nat) : Delivery (q.insertAbort id) := by
  rcases insertAbort_cases q id with e | ⟨hrows, hphase, -, hlog⟩
  · rw [e]; exact h
  exact h.of_frame _ (fun r' hr' => ⟨r', (List.mem_filter.1 (hrows ▸ hr')).1, rfl, rfl⟩) hphase
    (insertAbort_nextId q id) hlog (by simp [Event.quiet])

theorem Delivery.deleteExpired (h : Delivery q) : Delivery q.deleteExpired :=
  h.of_frame _ (fun r' hr' => ⟨r', (List.mem_filter.1 hr').1, rfl, rfl⟩) rfl rfl rfl
    fun e he => by obtain ⟨x, -, rfl⟩ := List.mem_map.1 he; rfl

theorem Delivery.tick (h : Delivery q) (d : Nat) : Delivery (q.tick d) :=
  h.of_frame [] (fun r' hr' => ⟨r', hr', rfl, rfl⟩) rfl rfl (by simp) fun _ h => nomatch h

theorem Delivery.claim (h : Delivery q) (c : Nat) : Delivery (q.claim c) := by
  rcases claim_cases q c with e | ⟨cmd, -, hs, hrows, hphase, -, hlog⟩
  · rw [e]; exact h
  obtain ⟨hmem, -, hreq, -⟩ := select_spec hs
  refine ⟨fun c' id he => ?_, fun id => ?_, fun c' cmd' t n he => ?_⟩
  · rw [hlog] at he
    rcases List.mem_append.1 he with he | he
    · obtain ⟨h1, h2, h3⟩ := h.done c' id he
      refine ⟨fun r hr hid => ?_, fun c'' cmd'' t'' hc'' => ?_, by simpa using h3⟩
      · rw [hrows] at hr
        obtain ⟨r1, hr1, rfl⟩ := mem_updateRow.1 hr
        unfold Row.patch at hid ⊢
        split_ifs at hid ⊢ <;> exact h1 r1 hr1 hid
      · rcases update_claimed (hphase ▸ hc'') with ⟨-, ⟨⟩⟩ | ⟨-, hc''⟩
        · exact fun he => h1 _ hmem he hreq
        · exact h2 c'' cmd'' t'' hc''
    · simp at he
  · simpa [hlog, commits] using h.once id
  · rw [hlog] at he
    rcases List.mem_append.1 he with he | he
    · exact h.live _ _ _ _ he
    · simp at he

theorem Delivery.complete (hi : Inv q) (h : Delivery q) (c : Nat) (res : HandlerResult)
    (u m : Bool) : Delivery (q.complete c res u m) := by
  rcases complete_cases q c res u m with e | ⟨cmd, t, hc, hrows, hphase, -, hlog⟩
  · rw [e]; exact h
  obtain ⟨r0, hr0, hid0, -, -, -⟩ := hi.held c cmd t hc
  have other : ∀ c' cmd' t', (q.complete c res u m).phase c' = .claimed cmd' t' →
      c' ≠ c ∧ q.phase c' = .claimed cmd' t' := fun c' cmd' t' hc' =>
    (update_claimed ((congrFun hphase c').symm.trans hc')).resolve_left fun ⟨_, h⟩ => nomatch h
  refine ⟨fun c' id he => ?_, fun id => ?_, fun c' cmd' t' n he => ?_⟩
  · simp only [hlog, List.mem_append] at he
    rcases he with (he | he) | he
    · obtain ⟨h1, h2, h3⟩ := h.done c' id he
      have hne : cmd.id ≠ id := h2 c cmd t hc
      refine ⟨fun r hr hid => ?_, fun c'' cmd'' t'' hc'' => h2 c'' cmd'' t''
        (other c'' cmd'' t'' hc'').2, by simpa using h3⟩
      rw [hrows] at hr
      obtain ⟨r1, hr1, rfl⟩ := mem_updateRow.1 hr
      by_cases he1 : r1.id = cmd.id
      · rw [Row.patch_of_eq he1, Row.close_id] at hid; exact absurd (he1.symm.trans hid) hne
      · rw [Row.patch_of_ne he1] at hid ⊢; exact h1 r1 hr1 hid
    · cases eq_of_mem_invocation he
    · obtain ⟨⟨⟨st, data⟩, ho⟩, ⟨⟩⟩ | ⟨-, ⟨⟩⟩ := Event.mem_close.1 he
      refine ⟨fun r hr hid => ?_, fun c'' cmd'' t'' hc'' he' => ?_,
        by rw [complete_nextId, ← hid0]; exact q.table.id_lt r0 hr0⟩
      · rw [hrows] at hr
        obtain ⟨r1, hr1, rfl⟩ := mem_updateRow.1 hr
        rw [Row.patch_field Row.id (Row.close_id _ t q.now)] at hid
        rw [Row.patch_of_eq hid, ho]
        exact ending_final ho
      · obtain ⟨hcc, hc''⟩ := other c'' cmd'' t'' hc''
        exact hcc (hi.holder_unique hc'' hc he')
  · have h1 := h.once id
    have h2 := commits_close_le (ending cmd q.now res u m) c cmd.id id
    simp only [hlog, commits_append, commits_invocation]
    split_ifs at h2 with he
    · -- the claimed command was not committed before
      have : commits id q.log = 0 := List.countP_eq_zero.2 fun ev hev hm => by
        cases ev <;> simp at hm
        exact (h.done _ _ hev).2.1 c cmd t hc (he.trans hm.symm)
      omega
    · omega
  · simp only [hlog, List.mem_append] at he
    rcases he with (he | he) | he
    · exact h.live _ _ _ _ he
    · obtain ⟨hd, ⟨⟩⟩ := mem_invocation.1 he
      exact fun hlt => hd (Nat.lt_of_lt_of_le hlt (hi.started c _ _ hc))
    · rcases Event.mem_close.1 he with ⟨-, ⟨⟩⟩ | ⟨-, ⟨⟩⟩

theorem Delivery.step (hi : Inv q) (h : Delivery q) : ∀ a, Delivery (q.step a)
  | .queue a p => h.queue a p
  | .insertCommit id => h.insertCommit id
  | .insertAbort id => h.insertAbort id
  | .claim c => h.claim c
  | .complete c res u m => h.complete hi c res u m
  | .deleteExpired => h.deleteExpired
  | .tick d => h.tick d

theorem Delivery.foldl (hi : Inv q) (h : Delivery q) (acts : List Act) :
    Delivery (acts.foldl Queue.step q) := by
  induction acts generalizing q with
  | nil => exact h
  | cons a acts ih => exact ih (hi.step a) (h.step hi a)

theorem delivery_run (acts : List Act) : Delivery (run acts) :=
  delivery_init.foldl inv_init acts

/-! ## Results lost after the handler ran -/

/-- Step `a` rolls back a claim of command `id` after the handler ran: the
    deadline had not passed, and `json.Marshal` of the result, the `UPDATE`
    or the `COMMIT` failed. -/
def losesResult (q : Queue) (id : Nat) : Act → Bool
  | .complete c res u m =>
    match q.phase c with
    | .claimed cmd _ => cmd.id == id && !decide (cmd.deadline < q.now) && (!res.encodes || u || m)
    | .idle => false
  | _ => false

/-- The claims of command `id` that a run from `q` rolls back after the
    handler ran. -/
def lostResults (id : Nat) : Queue → List Act → Nat
  | _, [] => 0
  | q, a :: acts => (q.losesResult id a).toNat + lostResults id (q.step a) acts

/-- A claim whose handler ran ends in a rollback only when its result has no
    encoding or the `UPDATE` or the `COMMIT` failed. -/
theorem ending_none {cmd : Row} {now : Nat} {res : HandlerResult} {u m : Bool}
    (hd : ¬ cmd.deadline < now) (h : ending cmd now res u m = none) :
    (!res.encodes || u || m) = true := by
  unfold ending at h
  rcases hm : (outcome cmd now res).2.marshal with _ | data
  · unfold outcome at hm
    rw [if_neg hd] at hm
    cases res <;> simp_all [HandlerResult.encodes, Value.marshal]
  · rw [hm] at h
    cases u <;> cases m <;> simp_all

/-- The events of a step that is not a `complete`: no invocation. -/
theorem invocations_step_other (q : Queue) (id : Nat) {a : Act}
    (ha : ∀ c res u m, a ≠ .complete c res u m) :
    ∃ new, (q.step a).log = q.log ++ new ∧ invocations id new = 0 := by
  cases a with
  | queue => exact ⟨[], by simp [step], rfl⟩
  | insertCommit => exact ⟨[], by simp [step], rfl⟩
  | tick => exact ⟨[], by simp [step], rfl⟩
  | deleteExpired =>
    exact ⟨_, deleteExpired_log q, invocations_quiet (fun e he => by
      obtain ⟨x, -, rfl⟩ := List.mem_map.1 he; rfl) id⟩
  | insertAbort i =>
    rcases insertAbort_cases q i with e | ⟨-, -, -, hlog⟩
    · exact ⟨[], by simp [step, e], rfl⟩
    · exact ⟨_, hlog, rfl⟩
  | claim c =>
    rcases claim_cases q c with e | ⟨cmd, -, -, -, -, -, hlog⟩
    · exact ⟨[], by simp [step, e], rfl⟩
    · exact ⟨_, hlog, rfl⟩
  | complete c res u m => exact absurd rfl (ha c res u m)

/-- **One step pays for its invocation.** An invocation of the handler for
    command `id` comes with the commit of its final state, or with a result
    lost after the handler ran. -/
theorem invocations_step (q : Queue) (id : Nat) (a : Act) :
    invocations id (q.step a).log + commits id q.log ≤
      invocations id q.log + commits id (q.step a).log + (q.losesResult id a).toNat := by
  by_cases ha : ∃ c res u m, a = .complete c res u m
  · obtain ⟨c, res, u, m, rfl⟩ := ha
    rcases complete_cases q c res u m with e | ⟨cmd, t, hc, -, -, -, hlog⟩
    · simp [step, e]
    simp only [step, hlog, invocations_append, commits_append, invocations_close,
      commits_invocation, losesResult, hc]
    by_cases hid : cmd.id = id
    · subst hid
      by_cases hd : cmd.deadline < q.now
      · have h₀ : invocations cmd.id [] = 0 := rfl
        simp only [invocation, if_pos hd, h₀]
        omega
      · have h₁ : invocations cmd.id [.invoke c cmd t q.now] = 1 := by simp [invocations]
        simp only [invocation, if_neg hd, h₁]
        rcases he : ending cmd q.now res u m with _ | p
        · have h₂ : commits cmd.id [Event.close none c cmd.id] = 0 := rfl
          simp only [beq_self_eq_true, decide_eq_true_eq, hd, ending_none hd he, h₂]
          simp only [decide_False, Bool.not_false, Bool.and_self, Bool.toNat_true]
          omega
        · have h₂ : commits cmd.id [Event.close (some p) c cmd.id] = 1 := by simp [Event.close, commits]
          omega
    · have hi := invocations_invocation_le c cmd t q.now id
      simp only [hid, if_false, Nat.le_zero] at hi
      simp only [hi]
      omega
  · push_neg at ha
    obtain ⟨new, hlog, hnew⟩ := invocations_step_other q id ha
    simp only [hlog, invocations_append, commits_append, hnew]
    omega

theorem invocations_run (id : Nat) : ∀ (acts : List Act) (q : Queue),
    invocations id (acts.foldl Queue.step q).log + commits id q.log ≤
      invocations id q.log + commits id (acts.foldl Queue.step q).log + lostResults id q acts
  | [], _ => by simp [lostResults]
  | a :: acts, q => by
    have h₁ := invocations_step q id a
    have h₂ := invocations_run id acts (q.step a)
    simp only [List.foldl_cons, lostResults] at h₂ ⊢
    omega

/-- **At most once per command, save for results lost after the handler
    ran.** In every run the handler runs for a command at most once more
    than the number of its claims rolled back after the handler ran because
    `json.Marshal` of the result, the `UPDATE` or the `COMMIT` failed, and
    never for a command whose deadline had passed when it was claimed. -/
theorem handler_once_per_commit (acts : List Act) (id : Nat) :
    invocations id (run acts).log ≤ 1 + lostResults id init acts ∧
      ∀ c cmd t n, Event.invoke c cmd t n ∈ (run acts).log → ¬ cmd.deadline < t := by
  have h := delivery_run acts
  have hr : invocations id (run acts).log + 0 ≤ 0 + commits id (run acts).log +
      lostResults id init acts := invocations_run id acts init
  exact ⟨by have := h.once id; omega, h.live⟩

/-- The handler runs twice for one command: its first result has no JSON
    encoding, so the claim is rolled back and the command claimed again. -/
theorem handler_runs_twice :
    ¬ ∀ acts id, invocations id (run acts).log ≤ 1 ∧
      ∀ c cmd t n, Event.invoke c cmd t n ∈ (run acts).log → ¬ cmd.deadline < t :=
  fun h => absurd (h [.queue "" (.str ""), .insertCommit 0, .claim 0,
    .complete 0 (.ok (.any none)) false false, .claim 0,
    .complete 0 (.ok (.any (some "1"))) false false] 0).1 (by decide)

end Queue
end B3scale
