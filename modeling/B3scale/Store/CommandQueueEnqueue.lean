/-
  b3scale formalization — `CommandQueue.Queue` called on its own
  (`pkg/store/command_queue.go`).

  `Queue` runs two statements through the pool, each committed on its own:
  the `INSERT` of the command, then `NOTIFY commands_queue`. The error of
  `json.Marshal` is overwritten by the `INSERT`'s.

  * `Queue.queue_insertAbort_rows`, `Queue.queue_insertCommit_rows`: the rows
    after an `INSERT` of the next id that fails, or commits;
  * `queue_inserts_before_notify`: `Queue` returns `nil` exactly when both
    statements succeed, and a failing `NOTIFY` returns its error with the
    command already in the table.
-/
import B3scale.Store.CommandQueue

namespace B3scale

/-- An `UPDATE` of an id not yet drawn changes no row. -/
theorem Table.updateRow_fresh (t : Table) (f : Row → Row) : updateRow t.nextId f t.rows = t.rows :=
  (List.map_congr_left fun r hr => Row.patch_of_ne (t.id_lt r hr).ne).trans (List.map_id _)

namespace Queue

/-- A failed `INSERT` of the next id leaves the rows as they were. -/
theorem queue_insertAbort_rows (q : Queue) (a : String) (p : Value) :
    ((q.queue a p).insertAbort q.table.nextId).table.rows = q.table.rows := by
  have hold : q.table.rows.filter (fun r => r.committed || r.id != q.table.nextId) = q.table.rows :=
    List.filter_eq_self.2 fun r hr => by simp [(q.table.id_lt r hr).ne]
  simp [insertAbort, Table.filter, hold]

/-- A committed `INSERT` of the next id adds its row, visible. -/
theorem queue_insertCommit_rows (q : Queue) (a : String) (p : Value) :
    ((q.queue a p).insertCommit q.table.nextId).table.rows = q.table.rows ++
      [⟨q.table.nextId, q.table.nextSeq, a, p.marshal, q.now + 120, q.now, .requested, none, none,
        none, true, none⟩] := by
  rw [insertCommit_rows, queue_rows, updateRow, List.map_append, ← updateRow, Table.updateRow_fresh]
  simp [Row.patch_of_eq]

end Queue

namespace CommandQueue

/-- `CommandQueue.Queue` run on its own: `json.Marshal`, whose error is
    overwritten; the `INSERT`, committed at once unless it fails with
    `insertErr`; then `NOTIFY`, failing with `notifyErr`. -/
def queue (q : Queue) (action : String) (params : Value) (insertErr notifyErr : Option String) :
    Except String Unit × Queue :=
  match insertErr, notifyErr with
  | some e, _ => (.error e, (q.queue action params).insertAbort q.table.nextId)
  | none, some e => (.error e, (q.queue action params).insertCommit q.table.nextId)
  | none, none => (.ok (), (q.queue action params).insertCommit q.table.nextId)

end CommandQueue

/-- **`Queue` reports the `NOTIFY`, not the enqueue.** For every state,
    command and outcome of the two statements: a failed `INSERT` returns its
    error and leaves the rows; otherwise the command is in the table
    afterwards, one committed `requested` row with the action and the output
    of `json.Marshal` (`NULL` where it fails), whatever `NOTIFY` does; and
    `Queue` returns `nil` exactly when neither statement fails. -/
theorem queue_inserts_before_notify (q : Queue) (action : String) (params : Value)
    (insertErr notifyErr : Option String) :
    ((CommandQueue.queue q action params insertErr notifyErr).1 = .ok () ↔
      insertErr = none ∧ notifyErr = none) ∧
    (∀ e, insertErr = some e → (CommandQueue.queue q action params insertErr notifyErr).1 = .error e ∧
      (CommandQueue.queue q action params insertErr notifyErr).2.table.rows = q.table.rows) ∧
    (insertErr = none → (CommandQueue.queue q action params insertErr notifyErr).2.table.rows =
      q.table.rows ++ [⟨q.table.nextId, q.table.nextSeq, action, params.marshal, q.now + 120, q.now,
        .requested, none, none, none, true, none⟩]) := by
  rcases insertErr with _ | e <;> rcases notifyErr with _ | e' <;>
    simp only [CommandQueue.queue, Queue.queue_insertAbort_rows, Queue.queue_insertCommit_rows] <;>
    simp

/-- A `NOTIFY` that fails returns an error with the command enqueued, so a
    retry enqueues it twice; a value `json.Marshal` rejects is enqueued with
    `NULL` params, and `nil` returned. -/
theorem queue_retry_enqueues_twice :
    (CommandQueue.queue Queue.init "end" (.str "x") none (some "conn reset")).1 ≠ .ok () ∧
    ((CommandQueue.queue (CommandQueue.queue Queue.init "end" (.str "x") none
      (some "conn reset")).2 "end" (.str "x") none none).2.table.rows.map Row.action =
        ["end", "end"]) ∧
    (CommandQueue.queue Queue.init "end" (.any none) none none).1 = .ok () ∧
    ((CommandQueue.queue Queue.init "end" (.any none) none none).2.table.rows.map Row.params =
      [none]) := by
  refine ⟨(fun h => nomatch ((queue_inserts_before_notify _ _ _ _ _).1.1 h).2), ?_,
    (queue_inserts_before_notify _ _ _ _ _).1.2 ⟨rfl, rfl⟩, ?_⟩
  · rw [(queue_inserts_before_notify _ _ _ _ _).2.2 rfl,
      (queue_inserts_before_notify _ _ _ _ _).2.2 rfl]
    rfl
  · rw [(queue_inserts_before_notify _ _ _ _ _).2.2 rfl]
    rfl

end B3scale
