/-
  b3scale formalization — the order in which commands are claimed.

  `process` takes the least `seq` among the rows it can see and lock. Two
  things let a later claim get a smaller `seq`: an `INSERT` committing after
  a row with a larger `seq` was claimed, and a rolled-back claim, whose row
  is claimable again.

  * `orderly`: the steps without either (an `INSERT` commits only when no
    uncommitted row has a smaller `seq`; every claim ends in a commit);
  * `ClaimOrder`: the claims so far increase and lie below every row still
    to be claimed;
  * `claims_increasing`: in an orderly run the claims of all consumers
    together, and so of each one, have increasing `seq`.
-/
import Mathlib.Data.List.Sort
import B3scale.Store.CommandQueueSafety

namespace B3scale
namespace Queue

variable {q : Queue}

/-- An orderly step: an `INSERT` commits only when no uncommitted row has a
    smaller `seq`, and a claim ends in a commit. -/
def orderly (q : Queue) : Act → Bool
  | .insertCommit id => q.table.rows.all fun r =>
      r.id != id || q.table.rows.all fun r' => r'.committed || decide (r.seq ≤ r'.seq)
  | .complete c res u m =>
    match q.phase c with
    | .claimed cmd _ => (ending cmd q.now res u m).isSome
    | .idle => true
  | _ => true

/-- A run of orderly steps from `q`. -/
def orderlyRun : Queue → List Act → Bool
  | _, [] => true
  | q, a :: acts => q.orderly a && orderlyRun (q.step a) acts

/-- The claims increase and stay below every row still to be claimed. -/
structure ClaimOrder (q : Queue) : Prop where
  sorted : (allClaimSeqs q.log).Sorted (· < ·)
  /-- a `requested` unlocked row lies above every claim so far -/
  ahead : ∀ r ∈ q.table.rows, r.state = .requested → r.lock = none →
    ∀ k ∈ allClaimSeqs q.log, k < r.seq
  below : ∀ k ∈ allClaimSeqs q.log, k < q.table.nextSeq
  /-- committed rows lie below uncommitted ones -/
  visible : ∀ r ∈ q.table.rows, ∀ r' ∈ q.table.rows, r.committed → r'.committed = false →
    r.seq < r'.seq

theorem claimOrder_init : ClaimOrder init where
  sorted := List.sorted_nil
  ahead _ h := nomatch h
  below _ h := nomatch h
  visible _ h := nomatch h

/-- A step that adds no claim, and keeps or drops each row with its `seq`,
    state, lock and visibility, keeps `ClaimOrder`. -/
theorem ClaimOrder.of_frame (h : ClaimOrder q) {q' : Queue}
    (hrows : ∀ r' ∈ q'.table.rows, ∃ r ∈ q.table.rows, r'.seq = r.seq ∧ r'.state = r.state ∧
      r'.lock = r.lock ∧ r'.committed = r.committed)
    (hseq : q'.table.nextSeq = q.table.nextSeq) (hlog : allClaimSeqs q'.log = allClaimSeqs q.log) :
    ClaimOrder q' where
  sorted := hlog ▸ h.sorted
  ahead r' hr' hs hl k hk := by
    obtain ⟨r, hr, e1, e2, e3, -⟩ := hrows r' hr'
    exact e1 ▸ h.ahead r hr (e2 ▸ hs) (e3 ▸ hl) k (hlog ▸ hk)
  below k hk := hseq ▸ h.below k (hlog ▸ hk)
  visible r' hr' s' hs' hc hc' := by
    obtain ⟨r, hr, e1, -, -, e4⟩ := hrows r' hr'
    obtain ⟨s, hs, f1, -, -, f4⟩ := hrows s' hs'
    exact e1 ▸ f1 ▸ h.visible r hr s hs (e4 ▸ hc) (f4 ▸ hc')

theorem ClaimOrder.queue (h : ClaimOrder q) (a : String) (p : Value) :
    ClaimOrder (q.queue a p) where
  sorted := h.sorted
  ahead r hr hs hl k hk := by
    rcases List.mem_append.1 hr with hr | hr
    · exact h.ahead r hr hs hl k hk
    · rw [List.mem_singleton.1 hr]; exact h.below k hk
  below k hk := Nat.lt_succ_of_lt (h.below k hk)
  visible r hr r' hr' hc hc' := by
    rcases List.mem_append.1 hr with hr | hr
    · rcases List.mem_append.1 hr' with hr' | hr'
      · exact h.visible r hr r' hr' hc hc'
      · rw [List.mem_singleton.1 hr']; exact q.table.seq_lt r hr
    · rw [List.mem_singleton.1 hr] at hc; cases hc

theorem ClaimOrder.insertCommit (h : ClaimOrder q) (id : Nat)
    (ho : q.orderly (.insertCommit id)) : ClaimOrder (q.insertCommit id) := by
  simp only [orderly, List.all_eq_true, Bool.or_eq_true, bne_iff_ne, ne_eq,
    decide_eq_true_eq] at ho
  refine ⟨h.sorted, fun x hx hs hl k hk => ?_, h.below, fun x hx y hy hc hc' => ?_⟩
  · obtain ⟨r, hr, rfl⟩ := mem_updateRow.1 hx
    unfold Row.patch at hs hl ⊢
    split_ifs at hs hl ⊢ <;> exact h.ahead r hr hs hl k hk
  · obtain ⟨r, hr, rfl⟩ := mem_updateRow.1 hx
    obtain ⟨s, hs, rfl⟩ := mem_updateRow.1 hy
    have hsid : s.id ≠ id := fun e => by rw [Row.patch_of_eq e] at hc'; cases hc'
    rw [Row.patch_of_ne hsid] at hc' ⊢
    by_cases hrid : r.id = id
    · rw [Row.patch_of_eq hrid]
      have hle := (ho r hr).resolve_left (not_not.2 hrid) s hs
      rw [hc'] at hle
      have hne : r ≠ s := fun e => hsid (e ▸ hrid)
      exact lt_of_le_of_ne (hle.resolve_left Bool.false_ne_true)
        fun e => hne (Table.eq_of_seq hr hs e)
    · rw [Row.patch_of_ne hrid] at hc ⊢
      exact h.visible r hr s hs hc hc'

theorem ClaimOrder.claim (h : ClaimOrder q) (c : Nat) : ClaimOrder (q.claim c) := by
  rcases claim_cases q c with e | ⟨cmd, -, hs, hrows, -, -, hlog⟩
  · rw [e]; exact h
  obtain ⟨hmem, hcom, hreq, hfree⟩ := select_spec hs
  have hlog' : allClaimSeqs (q.claim c).log = allClaimSeqs q.log ++ [cmd.seq] := by
    simp [hlog, allClaimSeqs, claims]
  -- a row still to be claimed lies above the claimed one
  have above : ∀ r ∈ q.table.rows, r.id ≠ cmd.id → r.state = .requested → r.lock = none →
      cmd.seq < r.seq := fun r hr hne hs' hl => by
    by_cases hc : r.committed
    · have hle := select_min hs hr (by simp [Row.claimable, hc, hs', hl])
      exact lt_of_le_of_ne hle fun e => hne (Table.eq_of_seq hr hmem e.symm ▸ rfl)
    · exact h.visible cmd hmem r hr hcom (by simpa using hc)
  refine ⟨?_, fun x hx hs' hl k hk => ?_, fun k hk => ?_, fun x hx y hy hc hc' => ?_⟩
  · rw [hlog']
    exact List.pairwise_append.2 ⟨h.sorted, List.pairwise_singleton _ _, fun k hk _ hm =>
      List.mem_singleton.1 hm ▸ h.ahead cmd hmem hreq hfree k hk⟩
  · rw [hrows] at hx
    obtain ⟨r, hr, rfl⟩ := mem_updateRow.1 hx
    by_cases hrid : r.id = cmd.id
    · rw [Row.patch_of_eq hrid] at hl; cases hl
    · rw [Row.patch_of_ne hrid] at hs' hl ⊢
      rw [hlog'] at hk
      rcases List.mem_append.1 hk with hk | hk
      · exact h.ahead r hr hs' hl k hk
      · exact List.mem_singleton.1 hk ▸ above r hr hrid hs' hl
  · rw [hlog'] at hk
    rcases List.mem_append.1 hk with hk | hk
    · simpa using h.below k hk
    · simpa [List.mem_singleton.1 hk] using q.table.seq_lt cmd hmem
  · rw [hrows] at hx hy
    obtain ⟨r, hr, rfl⟩ := mem_updateRow.1 hx
    obtain ⟨s, hs, rfl⟩ := mem_updateRow.1 hy
    rw [Row.patch_field Row.committed (by intro; rfl)] at hc hc'
    rw [Row.patch_field Row.seq (by intro; rfl), Row.patch_field Row.seq (by intro; rfl)]
    exact h.visible r hr s hs hc hc'

theorem ClaimOrder.complete (h : ClaimOrder q) (c : Nat) (res : HandlerResult) (u m : Bool)
    (ho : q.orderly (.complete c res u m)) : ClaimOrder (q.complete c res u m) := by
  rcases complete_cases q c res u m with e | ⟨cmd, t, hc, hrows, -, -, hlog⟩
  · rw [e]; exact h
  simp only [orderly, hc, Option.isSome_iff_exists] at ho
  obtain ⟨⟨st, data⟩, hend⟩ := ho
  have hlog' : allClaimSeqs (q.complete c res u m).log = allClaimSeqs q.log := by simp [hlog]
  refine ⟨hlog' ▸ h.sorted, fun x hx hs hl k hk => ?_, fun k hk => ?_,
    fun x hx y hy hcx hcy => ?_⟩
  · rw [hrows] at hx
    obtain ⟨r, hr, rfl⟩ := mem_updateRow.1 hx
    by_cases hrid : r.id = cmd.id
    · rw [Row.patch_of_eq hrid, hend] at hs; exact absurd hs (ending_final hend)
    · rw [Row.patch_of_ne hrid] at hs hl ⊢
      exact h.ahead r hr hs hl k (hlog' ▸ hk)
  · simpa using h.below k (hlog' ▸ hk)
  · rw [hrows] at hx hy
    obtain ⟨r, hr, rfl⟩ := mem_updateRow.1 hx
    obtain ⟨s, hs, rfl⟩ := mem_updateRow.1 hy
    rw [Row.patch_field Row.committed (Row.close_committed _ t q.now)] at hcx hcy
    rw [Row.patch_field Row.seq (Row.close_seq _ t q.now),
      Row.patch_field Row.seq (Row.close_seq _ t q.now)]
    exact h.visible r hr s hs hcx hcy

theorem ClaimOrder.insertAbort (h : ClaimOrder q) (id : Nat) : ClaimOrder (q.insertAbort id) := by
  rcases insertAbort_cases q id with e | ⟨hrows, -, -, hlog⟩
  · rw [e]; exact h
  exact h.of_frame (fun r' hr' => ⟨r', (List.mem_filter.1 (hrows ▸ hr')).1, rfl, rfl, rfl, rfl⟩)
    (insertAbort_nextSeq q id) (by simp [hlog, allClaimSeqs, claims])

theorem ClaimOrder.deleteExpired (h : ClaimOrder q) : ClaimOrder q.deleteExpired :=
  h.of_frame (fun r' hr' => ⟨r', (List.mem_filter.1 hr').1, rfl, rfl, rfl, rfl⟩) rfl
    (by simp [allClaimSeqs, claims, List.filterMap_map])

theorem ClaimOrder.step (h : ClaimOrder q) : ∀ a, q.orderly a → ClaimOrder (q.step a)
  | .queue a p, _ => h.queue a p
  | .insertCommit id, ho => h.insertCommit id ho
  | .insertAbort id, _ => h.insertAbort id
  | .claim c, _ => h.claim c
  | .complete c res u m, ho => h.complete c res u m ho
  | .deleteExpired, _ => h.deleteExpired
  | .tick _, _ => h.of_frame (fun r' hr' => ⟨r', hr', rfl, rfl, rfl, rfl⟩) rfl rfl

theorem ClaimOrder.foldl (h : ClaimOrder q) (acts : List Act) (ho : orderlyRun q acts) :
    ClaimOrder (acts.foldl Queue.step q) := by
  induction acts generalizing q with
  | nil => exact h
  | cons a acts ih =>
    simp only [orderlyRun, Bool.and_eq_true] at ho
    exact ih (h.step a ho.1) ho.2

/-- **Claims in `seq` order, when rows become visible in that order and no
    claim is rolled back.** In such a run the claims of all consumers
    together, and so those of each consumer, have strictly increasing `seq`. -/
theorem claims_increasing (acts : List Act) (ho : orderlyRun init acts) :
    (allClaimSeqs (run acts).log).Sorted (· < ·) ∧
      ∀ c, (claimSeqs c (run acts).log).Sorted (· < ·) := by
  have h := (claimOrder_init.foldl acts ho).sorted
  exact ⟨h, fun c => h.sublist (claimSeqs_sublist c _)⟩

/-- Two commands queued and committed in order and claimed one after the
    other: an orderly run, whose claims increase. -/
theorem claims_increasing_two :
    orderlyRun init [.queue "" (.str ""), .queue "" (.str ""), .insertCommit 0, .insertCommit 1,
      .claim 0, .complete 0 (.ok (.str "")) false false, .claim 0] = true ∧
    (allClaimSeqs (run [.queue "" (.str ""), .queue "" (.str ""), .insertCommit 0,
      .insertCommit 1, .claim 0, .complete 0 (.ok (.str "")) false false, .claim 0]).log).Sorted
        (· < ·) ∧
    ∀ c, (claimSeqs c (run [.queue "" (.str ""), .queue "" (.str ""), .insertCommit 0,
      .insertCommit 1, .claim 0, .complete 0 (.ok (.str "")) false false, .claim 0]).log).Sorted
        (· < ·) :=
  ⟨by decide, claims_increasing _ (by decide)⟩

/-- A command whose `INSERT` commits after a later one was claimed is claimed
    after it: consumer `0` gets `seq` 1, then `seq` 0. -/
theorem claim_overtakes_late_insert :
    ¬ ∀ acts c, (claimSeqs c (run acts).log).Sorted (· < ·) :=
  fun h => absurd (h [.queue "" (.str ""), .queue "" (.str ""), .insertCommit 1, .claim 0,
    .complete 0 (.ok (.str "")) false false, .insertCommit 0, .claim 0] 0) (by decide)

end Queue
end B3scale
