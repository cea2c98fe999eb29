/-
  b3scale formalization — the command queue (`pkg/store/command_queue.go`):
  the `commands` table shared by any number of enqueuers and consumers under
  one clock (in seconds).

  * a `Row` holds the table's columns and two facts the database keeps about
    it: whether the `INSERT` that made it has committed, and which consumer's
    transaction holds its `FOR UPDATE` lock;
  * `Queue.queue` and `Queue.insertCommit` are `CommandQueue.Queue`: the
    `INSERT` draws `seq` at once, and the row is visible once it commits;
  * `Queue.claim` and `Queue.complete` are `CommandQueue.process`: the
    `SELECT ... FOR UPDATE SKIP LOCKED`, then the deadline check, the handler,
    `json.Marshal`, the `UPDATE` and the `COMMIT`, any of the last three
    rolling the claim back;
  * `Queue.deleteExpired` is the housekeeping sweep of `Start`;
  * the log records claims, handler invocations, the end of each claiming
    transaction and the deletions.
-/
import Mathlib.Data.List.MinMax
import Mathlib.Logic.Function.Basic
import Mathlib.Data.List.Nodup

namespace B3scale

/-- The `state` column of `commands`. -/
inductive CmdState
  | requested | success | error
  deriving DecidableEq, Repr

/-- A Go `interface{}` value as `json.Marshal` sees it. -/
inductive Value
  | str (s : String)
  /-- any other value, with its JSON encoding (`none`: it has none, as a
      channel or a function) -/
  | any (json : Option String)
  deriving DecidableEq, Repr

/-- `json.Marshal` (string escaping left out). -/
def Value.marshal : Value → Option String
  | .str s => some ("\"" ++ s ++ "\"")
  | .any j => j

/-- What a `CommandHandler` returns: a result, or an error (as `%s`). -/
inductive HandlerResult
  | ok (v : Value)
  | err (msg : String)
  deriving DecidableEq, Repr

/-- The handler's result has a JSON encoding: an error always does (its
    message is stored as a string), a value when `json.Marshal` accepts
    it. -/
def HandlerResult.encodes : HandlerResult → Bool
  | .ok v => v.marshal.isSome
  | .err _ => true

/-- A row of `commands`. -/
structure Row where
  id : Nat
  seq : Nat
  action : String
  params : Option String
  deadline : Nat
  createdAt : Nat
  state : CmdState
  result : Option String
  startedAt : Option Nat
  stoppedAt : Option Nat
  /-- the `INSERT`'s transaction has committed: the row is visible -/
  committed : Bool
  /-- the consumer whose transaction holds the row's `FOR UPDATE` lock -/
  lock : Option Nat
  deriving DecidableEq, Repr

/-- Where a consumer is in `process`. -/
inductive Phase
  | idle
  /-- inside its transaction, holding the row `cmd` it read, started at `t` -/
  | claimed (cmd : Row) (t : Nat)
  deriving DecidableEq, Repr

/-- What the log records. -/
inductive Event
  /-- consumer `c`'s `SELECT` returned `cmd` at time `t` -/
  | claim (c : Nat) (cmd : Row) (t : Nat)
  /-- `handler(cmd)` ran in consumer `c`, for a claim made at `t`, at `now` -/
  | invoke (c : Nat) (cmd : Row) (t now : Nat)
  /-- consumer `c` committed the final state of command `id` -/
  | commit (c id : Nat)
  /-- consumer `c`'s claim of command `id` was rolled back -/
  | rollback (c id : Nat)
  /-- the sweep at time `t` deleted `r` -/
  | deleted (r : Row) (t : Nat)
  /-- the `INSERT` of command `id` rolled back -/
  | aborted (id : Nat)
  deriving DecidableEq, Repr

/-- The `commands` table: distinct ids and distinct `seq` values, all below
    the next ones to be drawn (ids are generated, `seq` is a sequence). -/
structure Table where
  rows : List Row
  nextId : Nat
  nextSeq : Nat
  ids_nodup : (rows.map Row.id).Nodup
  seqs_nodup : (rows.map Row.seq).Nodup
  id_lt : ∀ r ∈ rows, r.id < nextId
  seq_lt : ∀ r ∈ rows, r.seq < nextSeq

/-- The table, the clock, the consumers and the log. -/
structure Queue where
  table : Table
  now : Nat
  phase : Nat → Phase
  log : List Event

/-- The steps of the system: of `Queue`, of `process` in any consumer, of
    the sweep, and of the clock. -/
inductive Act
  | queue (action : String) (params : Value)
  | insertCommit (id : Nat)
  | insertAbort (id : Nat)
  | claim (c : Nat)
  | complete (c : Nat) (res : HandlerResult) (updateFails commitFails : Bool)
  | deleteExpired
  | tick (d : Nat)
  deriving DecidableEq, Repr

/-! ## The table -/

/-- `f r` for the row with id `id`, any other row unchanged. -/
def Row.patch (id : Nat) (f : Row → Row) (r : Row) : Row := if r.id = id then f r else r

theorem Row.patch_of_eq {id : Nat} {f : Row → Row} {r : Row} (h : r.id = id) :
    r.patch id f = f r := if_pos h

theorem Row.patch_of_ne {id : Nat} {f : Row → Row} {r : Row} (h : r.id ≠ id) :
    r.patch id f = r := if_neg h

theorem Row.patch_field {β : Type} (g : Row → β) {id : Nat} {f : Row → Row}
    (hf : ∀ r, g (f r) = g r) (r : Row) : g (r.patch id f) = g r := by
  unfold Row.patch; split <;> simp [hf]

/-- The rows with id `id` replaced by `f` of them (`UPDATE ... WHERE id = $1`). -/
def updateRow (id : Nat) (f : Row → Row) (rows : List Row) : List Row :=
  rows.map (Row.patch id f)

theorem map_updateRow {β : Type} (g : Row → β) {id : Nat} {f : Row → Row}
    (hf : ∀ r, g (f r) = g r) (rows : List Row) : (updateRow id f rows).map g = rows.map g := by
  simp only [updateRow, List.map_map]
  exact List.map_congr_left fun r _ => Row.patch_field g hf r

theorem mem_updateRow {x : Row} {id : Nat} {f : Row → Row} {rows : List Row} :
    x ∈ updateRow id f rows ↔ ∃ r ∈ rows, r.patch id f = x :=
  List.mem_map

theorem mem_updateRow_of_mem {r : Row} (id : Nat) (f : Row → Row) {rows : List Row}
    (h : r ∈ rows) : r.patch id f ∈ updateRow id f rows :=
  List.mem_map_of_mem _ h

theorem mem_updateRow_of_ne {r : Row} {id : Nat} (f : Row → Row) {rows : List Row}
    (h : r ∈ rows) (hne : r.id ≠ id) : r ∈ updateRow id f rows :=
  Row.patch_of_ne hne ▸ mem_updateRow_of_mem id f h

theorem nodup_map_snoc {f : Row → Nat} {l : List Row} {r : Row} {n : Nat}
    (hl : (l.map f).Nodup) (hlt : ∀ x ∈ l, f x < n) (hr : f r = n) : ((l ++ [r]).map f).Nodup := by
  rw [List.map_append, List.nodup_append]
  exact ⟨hl, List.nodup_singleton _, by simpa [hr] using fun x hx h => (hlt x hx).ne h⟩

theorem nodup_map_filter {f : Row → Nat} {l : List Row} (p : Row → Bool) (hl : (l.map f).Nodup) :
    ((l.filter p).map f).Nodup :=
  hl.sublist ((List.filter_sublist l).map f)

namespace Table

/-- No rows. -/
def empty : Table :=
  ⟨[], 0, 0, List.nodup_nil, List.nodup_nil, (fun _ h => nomatch h), fun _ h => nomatch h⟩

/-- An `INSERT` of a row with the next id and the next `seq`. -/
def insert (t : Table) (r : Row) (hid : r.id = t.nextId) (hseq : r.seq = t.nextSeq) : Table where
  rows := t.rows ++ [r]
  nextId := t.nextId + 1
  nextSeq := t.nextSeq + 1
  ids_nodup := nodup_map_snoc t.ids_nodup t.id_lt hid
  seqs_nodup := nodup_map_snoc t.seqs_nodup t.seq_lt hseq
  id_lt x hx := by
    rcases List.mem_append.1 hx with hx | hx
    · exact Nat.lt_succ_of_lt (t.id_lt x hx)
    · simp [List.mem_singleton.1 hx, hid]
  seq_lt x hx := by
    rcases List.mem_append.1 hx with hx | hx
    · exact Nat.lt_succ_of_lt (t.seq_lt x hx)
    · simp [List.mem_singleton.1 hx, hseq]

/-- An `UPDATE` of the row with id `id`, keeping its id and `seq`. -/
def update (t : Table) (id : Nat) (f : Row → Row) (hf : ∀ r, (f r).id = r.id ∧ (f r).seq = r.seq) :
    Table where
  rows := updateRow id f t.rows
  nextId := t.nextId
  nextSeq := t.nextSeq
  ids_nodup := by rw [map_updateRow _ fun r => (hf r).1]; exact t.ids_nodup
  seqs_nodup := by rw [map_updateRow _ fun r => (hf r).2]; exact t.seqs_nodup
  id_lt x hx := by
    obtain ⟨r, hr, rfl⟩ := List.mem_map.1 hx
    rw [Row.patch_field _ fun r => (hf r).1]; exact t.id_lt r hr
  seq_lt x hx := by
    obtain ⟨r, hr, rfl⟩ := List.mem_map.1 hx
    rw [Row.patch_field _ fun r => (hf r).2]; exact t.seq_lt r hr

/-- A `DELETE` of the rows failing `p`. -/
def filter (t : Table) (p : Row → Bool) : Table where
  rows := t.rows.filter p
  nextId := t.nextId
  nextSeq := t.nextSeq
  ids_nodup := nodup_map_filter p t.ids_nodup
  seqs_nodup := nodup_map_filter p t.seqs_nodup
  id_lt x hx := t.id_lt x (List.mem_filter.1 hx).1
  seq_lt x hx := t.seq_lt x (List.mem_filter.1 hx).1

/-- Two rows with one id are one row. -/
theorem eq_of_id {t : Table} {r r' : Row} (hr : r ∈ t.rows) (hr' : r' ∈ t.rows)
    (h : r.id = r'.id) : r = r' :=
  List.inj_on_of_nodup_map t.ids_nodup hr hr' h

/-- Two rows with one `seq` are one row. -/
theorem eq_of_seq {t : Table} {r r' : Row} (hr : r ∈ t.rows) (hr' : r' ∈ t.rows)
    (h : r.seq = r'.seq) : r = r' :=
  List.inj_on_of_nodup_map t.seqs_nodup hr hr' h

end Table

/-- The rows `process`'s `SELECT` can return and lock: committed,
    `requested`, and not locked by a peer (`SKIP LOCKED`). -/
def Row.claimable (r : Row) : Bool :=
  r.committed && r.state == .requested && r.lock.isNone

/-- `ORDER BY seq ASC LIMIT 1` over the claimable rows. -/
def select (rows : List Row) : Option Row :=
  (rows.filter Row.claimable).argmin Row.seq

theorem select_spec {rows : List Row} {cmd : Row} (h : select rows = some cmd) :
    cmd ∈ rows ∧ cmd.committed ∧ cmd.state = .requested ∧ cmd.lock = none := by
  obtain ⟨hm, hc⟩ := List.mem_filter.1 (List.argmin_mem h)
  simp only [Row.claimable, Bool.and_eq_true, beq_iff_eq, Option.isNone_iff_eq_none] at hc
  exact ⟨hm, hc.1.1, hc.1.2, hc.2⟩

/-- The selected row has the least `seq` of the claimable rows. -/
theorem select_min {rows : List Row} {cmd r : Row} (h : select rows = some cmd) (hr : r ∈ rows)
    (hc : r.claimable) : cmd.seq ≤ r.seq :=
  List.le_of_mem_argmin (List.mem_filter.2 ⟨hr, hc⟩) h

/-- The sweep's `now() - created_at > interval '1 minute'`, over the rows it
    can delete at once: committed and unlocked (a locked row makes the
    `DELETE` wait for the lock, and is met by a later sweep). -/
def Row.expired (now : Nat) (r : Row) : Bool :=
  r.committed && r.lock.isNone && decide (r.createdAt + 60 < now)

/-- The final `state` and `result` of a claimed command: `timedout` past its
    deadline, otherwise what the handler returned. -/
def outcome (cmd : Row) (now : Nat) (res : HandlerResult) : CmdState × Value :=
  if cmd.deadline < now then (.error, .str "timedout")
  else match res with
    | .ok v => (.success, v)
    | .err msg => (.error, .str msg)

/-- How a claim ends: the committed `state` and `result`, or `none` when
    `json.Marshal`, the `UPDATE` or the `COMMIT` fails. -/
def ending (cmd : Row) (now : Nat) (res : HandlerResult) (updateFails commitFails : Bool) :
    Option (CmdState × String) :=
  match (outcome cmd now res).2.marshal with
  | some data => if updateFails || commitFails then none else some ((outcome cmd now res).1, data)
  | none => none

/-- The handler runs unless the deadline has passed. -/
def invocation (c : Nat) (cmd : Row) (t now : Nat) : List Event :=
  if cmd.deadline < now then [] else [.invoke c cmd t now]

/-- The row as the claim's transaction leaves it: written and unlocked on a
    commit, only unlocked on a rollback. -/
def Row.close (o : Option (CmdState × String)) (t now : Nat) (r : Row) : Row :=
  match o with
  | some (st, data) =>
    { r with state := st, result := some data, startedAt := some t, stoppedAt := some now,
             lock := none }
  | none => { r with lock := none }

@[simp] theorem Row.close_id (o : Option (CmdState × String)) (t now : Nat) (r : Row) :
    (r.close o t now).id = r.id := by cases o <;> rfl

@[simp] theorem Row.close_seq (o : Option (CmdState × String)) (t now : Nat) (r : Row) :
    (r.close o t now).seq = r.seq := by cases o <;> rfl

@[simp] theorem Row.close_lock (o : Option (CmdState × String)) (t now : Nat) (r : Row) :
    (r.close o t now).lock = none := by cases o <;> rfl

@[simp] theorem Row.close_committed (o : Option (CmdState × String)) (t now : Nat) (r : Row) :
    (r.close o t now).committed = r.committed := by cases o <;> rfl

/-- The event ending a claim. -/
def Event.close (o : Option (CmdState × String)) (c id : Nat) : Event :=
  match o with
  | some _ => .commit c id
  | none => .rollback c id

/-! ## Steps -/

namespace Queue

/-- The empty table at time `0`, every consumer idle. -/
def init : Queue := ⟨Table.empty, 0, fun _ => .idle, []⟩

/-- `Queue`'s `INSERT`, invisible until `insertCommit`: the deadline is two
    minutes ahead, `created_at` is now, and `params` is `json.Marshal`'s
    output, `NULL` when it fails (its error is overwritten). -/
def queue (q : Queue) (action : String) (params : Value) : Queue :=
  { q with
    table := q.table.insert ⟨q.table.nextId, q.table.nextSeq, action, params.marshal,
      q.now + 120, q.now, .requested, none, none, none, false, none⟩ rfl rfl }

/-- The `INSERT`'s transaction commits. -/
def insertCommit (q : Queue) (id : Nat) : Queue :=
  { q with table := q.table.update id (fun r => { r with committed := true }) fun _ => ⟨rfl, rfl⟩ }

/-- The `INSERT` fails before it commits; its `seq` is not given back. -/
def insertAbort (q : Queue) (id : Nat) : Queue :=
  if q.table.rows.any fun r => r.id == id && !r.committed then
    { q with
      table := q.table.filter fun r => r.committed || r.id != id
      log := q.log ++ [.aborted id] }
  else q

/-- `process` up to its `SELECT`: an idle consumer locks the row it gets;
    on `pgx.ErrNoRows` (or a failing `Begin`) nothing changes. -/
def claim (q : Queue) (c : Nat) : Queue :=
  match q.phase c, select q.table.rows with
  | .idle, some cmd =>
    { q with
      table := q.table.update cmd.id (fun r => { r with lock := some c }) fun _ => ⟨rfl, rfl⟩
      phase := Function.update q.phase c (.claimed cmd q.now)
      log := q.log ++ [.claim c cmd q.now] }
  | _, _ => q

/-- `process` after its `SELECT`, up to the `COMMIT` or the deferred
    `Rollback`. -/
def complete (q : Queue) (c : Nat) (res : HandlerResult) (updateFails commitFails : Bool) :
    Queue :=
  match q.phase c with
  | .idle => q
  | .claimed cmd t =>
    let o := ending cmd q.now res updateFails commitFails
    { q with
      table := q.table.update cmd.id (Row.close o t q.now) fun r =>
        ⟨Row.close_id o t q.now r, Row.close_seq o t q.now r⟩
      phase := Function.update q.phase c .idle
      log := q.log ++ invocation c cmd t q.now ++ [Event.close o c cmd.id] }

/-- `deleteExpired`. -/
def deleteExpired (q : Queue) : Queue :=
  { q with
    table := q.table.filter fun r => !r.expired q.now
    log := q.log ++ (q.table.rows.filter (Row.expired q.now)).map fun r => .deleted r q.now }

/-- The clock advances. -/
def tick (q : Queue) (d : Nat) : Queue := { q with now := q.now + d }

/-- One step. -/
def step (q : Queue) : Act → Queue
  | .queue a p => q.queue a p
  | .insertCommit id => q.insertCommit id
  | .insertAbort id => q.insertAbort id
  | .claim c => q.claim c
  | .complete c res u m => q.complete c res u m
  | .deleteExpired => q.deleteExpired
  | .tick d => q.tick d

/-- The state a run reaches from `init`. -/
def run (acts : List Act) : Queue := acts.foldl step init

/-! ## What each step does -/

@[simp] theorem queue_rows (q : Queue) (a : String) (p : Value) :
    (q.queue a p).table.rows = q.table.rows ++ [⟨q.table.nextId, q.table.nextSeq, a,
      p.marshal, q.now + 120, q.now, .requested, none, none, none, false, none⟩] := rfl

@[simp] theorem queue_phase (q : Queue) (a : String) (p : Value) :
    (q.queue a p).phase = q.phase := rfl
@[simp] theorem queue_now (q : Queue) (a : String) (p : Value) : (q.queue a p).now = q.now := rfl
@[simp] theorem queue_log (q : Queue) (a : String) (p : Value) : (q.queue a p).log = q.log := rfl
@[simp] theorem queue_nextId (q : Queue) (a : String) (p : Value) :
    (q.queue a p).table.nextId = q.table.nextId + 1 := rfl
@[simp] theorem queue_nextSeq (q : Queue) (a : String) (p : Value) :
    (q.queue a p).table.nextSeq = q.table.nextSeq + 1 := rfl

@[simp] theorem insertCommit_rows (q : Queue) (id : Nat) :
    (q.insertCommit id).table.rows =
      updateRow id (fun r => { r with committed := true }) q.table.rows := rfl
@[simp] theorem insertCommit_phase (q : Queue) (id : Nat) :
    (q.insertCommit id).phase = q.phase := rfl
@[simp] theorem insertCommit_now (q : Queue) (id : Nat) : (q.insertCommit id).now = q.now := rfl
@[simp] theorem insertCommit_log (q : Queue) (id : Nat) : (q.insertCommit id).log = q.log := rfl
@[simp] theorem insertCommit_nextId (q : Queue) (id : Nat) :
    (q.insertCommit id).table.nextId = q.table.nextId := rfl
@[simp] theorem insertCommit_nextSeq (q : Queue) (id : Nat) :
    (q.insertCommit id).table.nextSeq = q.table.nextSeq := rfl

@[simp] theorem deleteExpired_phase (q : Queue) : q.deleteExpired.phase = q.phase := rfl
@[simp] theorem deleteExpired_now (q : Queue) : q.deleteExpired.now = q.now := rfl
@[simp] theorem deleteExpired_log (q : Queue) : q.deleteExpired.log =
    q.log ++ (q.table.rows.filter (Row.expired q.now)).map fun r => .deleted r q.now := rfl
@[simp] theorem deleteExpired_nextId (q : Queue) :
    q.deleteExpired.table.nextId = q.table.nextId := rfl
@[simp] theorem deleteExpired_nextSeq (q : Queue) :
    q.deleteExpired.table.nextSeq = q.table.nextSeq := rfl

@[simp] theorem tick_rows (q : Queue) (d : Nat) : (q.tick d).table = q.table := rfl
@[simp] theorem tick_phase (q : Queue) (d : Nat) : (q.tick d).phase = q.phase := rfl
@[simp] theorem tick_now (q : Queue) (d : Nat) : (q.tick d).now = q.now + d := rfl
@[simp] theorem tick_log (q : Queue) (d : Nat) : (q.tick d).log = q.log := rfl

@[simp] theorem insertAbort_nextId (q : Queue) (id : Nat) :
    (q.insertAbort id).table.nextId = q.table.nextId := by
  unfold insertAbort; split <;> rfl
@[simp] theorem insertAbort_nextSeq (q : Queue) (id : Nat) :
    (q.insertAbort id).table.nextSeq = q.table.nextSeq := by
  unfold insertAbort; split <;> rfl
@[simp] theorem claim_nextId (q : Queue) (c : Nat) :
    (q.claim c).table.nextId = q.table.nextId := by
  unfold claim; split <;> rfl
@[simp] theorem claim_nextSeq (q : Queue) (c : Nat) :
    (q.claim c).table.nextSeq = q.table.nextSeq := by
  unfold claim; split <;> rfl
@[simp] theorem complete_nextId (q : Queue) (c : Nat) (res : HandlerResult) (u m : Bool) :
    (q.complete c res u m).table.nextId = q.table.nextId := by
  unfold complete; split <;> rfl
@[simp] theorem complete_nextSeq (q : Queue) (c : Nat) (res : HandlerResult) (u m : Bool) :
    (q.complete c res u m).table.nextSeq = q.table.nextSeq := by
  unfold complete; split <;> rfl

theorem insertAbort_cases (q : Queue) (id : Nat) :
    q.insertAbort id = q ∨
      (q.insertAbort id).table.rows = q.table.rows.filter (fun r => r.committed || r.id != id) ∧
      (q.insertAbort id).phase = q.phase ∧ (q.insertAbort id).now = q.now ∧
      (q.insertAbort id).log = q.log ++ [.aborted id] := by
  unfold insertAbort
  split
  · exact .inr ⟨rfl, rfl, rfl, rfl⟩
  · exact .inl rfl

theorem claim_cases (q : Queue) (c : Nat) :
    q.claim c = q ∨ ∃ cmd, q.phase c = .idle ∧ select q.table.rows = some cmd ∧
      (q.claim c).table.rows = updateRow cmd.id (fun r => { r with lock := some c }) q.table.rows ∧
      (q.claim c).phase = Function.update q.phase c (.claimed cmd q.now) ∧
      (q.claim c).now = q.now ∧ (q.claim c).log = q.log ++ [.claim c cmd q.now] := by
  unfold claim
  split
  · rename_i cmd hc hs
    exact .inr ⟨cmd, hc, hs, rfl, rfl, rfl, rfl⟩
  · exact .inl rfl

/-- A consumer inside `process` after a phase update: the updated one, in
    its new phase, or another, as before. -/
theorem update_claimed {φ : Nat → Phase} {c c' : Nat} {p : Phase} {cmd : Row} {t : Nat}
    (h : Function.update φ c p c' = .claimed cmd t) :
    c' = c ∧ p = .claimed cmd t ∨ c' ≠ c ∧ φ c' = .claimed cmd t := by
  by_cases hcc : c' = c
  · subst hcc; exact .inl ⟨rfl, by rwa [Function.update_same] at h⟩
  · exact .inr ⟨hcc, by rwa [Function.update_noteq hcc] at h⟩

theorem complete_cases (q : Queue) (c : Nat) (res : HandlerResult) (u m : Bool) :
    q.complete c res u m = q ∨ ∃ cmd t, q.phase c = .claimed cmd t ∧
      (q.complete c res u m).table.rows =
        updateRow cmd.id (Row.close (ending cmd q.now res u m) t q.now) q.table.rows ∧
      (q.complete c res u m).phase = Function.update q.phase c .idle ∧
      (q.complete c res u m).now = q.now ∧
      (q.complete c res u m).log = q.log ++ invocation c cmd t q.now ++
        [Event.close (ending cmd q.now res u m) c cmd.id] := by
  unfold complete
  split
  · exact .inl rfl
  · rename_i cmd t hc
    exact .inr ⟨cmd, t, hc, rfl, rfl, rfl, rfl⟩

end Queue

/-! ## What the log says -/

/-- The command an event hands to `process`: claimed, or passed to the
    handler. -/
def Event.taken : Event → Option Nat
  | .claim _ cmd _ | .invoke _ cmd _ _ => some cmd.id
  | _ => none

@[simp] theorem Event.close_taken (o : Option (CmdState × String)) (c id : Nat) :
    (Event.close o c id).taken = none := by cases o <;> rfl

theorem mem_invocation {c : Nat} {cmd : Row} {t now : Nat} {e : Event} :
    e ∈ invocation c cmd t now ↔ ¬ cmd.deadline < now ∧ e = .invoke c cmd t now := by
  unfold invocation; split <;> simp [*]

theorem eq_of_mem_invocation {c : Nat} {cmd : Row} {t now : Nat} {e : Event}
    (h : e ∈ invocation c cmd t now) : e = .invoke c cmd t now :=
  (mem_invocation.1 h).2

/-- The end of a claim is its commit when the claim's ending is written, its
    rollback otherwise. -/
theorem Event.mem_close {o : Option (CmdState × String)} {c id : Nat} {e : Event} :
    e ∈ [Event.close o c id] ↔
      (∃ p, o = some p) ∧ e = .commit c id ∨ o = none ∧ e = .rollback c id := by
  cases o <;> simp [Event.close]

/-- Events of the table's own life (deletions, failed inserts), not of a
    claim. -/
def Event.quiet : Event → Bool
  | .deleted .. | .aborted _ => true
  | _ => false

/-- The number of handler invocations for command `id`. -/
def invocations (id : Nat) (log : List Event) : Nat :=
  log.countP fun | .invoke _ cmd _ _ => cmd.id == id | _ => false

/-- The number of commits of a final state of command `id`. -/
def commits (id : Nat) (log : List Event) : Nat :=
  log.countP fun | .commit _ i => i == id | _ => false

/-- The claims in a log, in order: the consumer and the `seq` it got. -/
def claims (log : List Event) : List (Nat × Nat) :=
  log.filterMap fun | .claim c cmd _ => some (c, cmd.seq) | _ => none

/-- The `seq` of each claim of consumer `c`, in order. -/
def claimSeqs (c : Nat) (log : List Event) : List Nat :=
  ((claims log).filter fun x => x.1 == c).map Prod.snd

/-- The `seq` of every claim, in order. -/
def allClaimSeqs (log : List Event) : List Nat := (claims log).map Prod.snd

@[simp] theorem invocations_append (id : Nat) (l l' : List Event) :
    invocations id (l ++ l') = invocations id l + invocations id l' := List.countP_append _ _ _
@[simp] theorem commits_append (id : Nat) (l l' : List Event) :
    commits id (l ++ l') = commits id l + commits id l' := List.countP_append _ _ _

theorem invocations_quiet {l : List Event} (h : ∀ e ∈ l, e.quiet) (id : Nat) :
    invocations id l = 0 :=
  List.countP_eq_zero.2 fun e he => by
    cases e <;> first | exact Bool.false_ne_true | exact absurd (h _ he) Bool.false_ne_true
theorem commits_quiet {l : List Event} (h : ∀ e ∈ l, e.quiet) (id : Nat) :
    commits id l = 0 :=
  List.countP_eq_zero.2 fun e he => by
    cases e <;> first | exact Bool.false_ne_true | exact absurd (h _ he) Bool.false_ne_true

/-- A committed final state is `success` or `error`. -/
theorem ending_final {cmd : Row} {now : Nat} {res : HandlerResult} {u m : Bool}
    {st : CmdState} {data : String} (h : ending cmd now res u m = some (st, data)) :
    st ≠ .requested := by
  unfold ending at h
  split at h
  · split at h
    · cases h
    · cases h; unfold outcome; split
      · simp
      · cases res <;> simp
  · cases h

theorem invocations_invocation_le (c : Nat) (cmd : Row) (t now id : Nat) :
    invocations id (invocation c cmd t now) ≤ if cmd.id = id then 1 else 0 := by
  unfold invocation; split <;> by_cases h : cmd.id = id <;> simp [invocations, h]

/-- A claim's end commits its own command at most once. -/
theorem commits_close_le (o : Option (CmdState × String)) (c i id : Nat) :
    commits id [Event.close o c i] ≤ if i = id then 1 else 0 := by
  cases o <;> by_cases h : i = id <;> simp [Event.close, commits, h]

@[simp] theorem invocations_close (o : Option (CmdState × String)) (c i id : Nat) :
    invocations id [Event.close o c i] = 0 := by
  cases o <;> rfl
@[simp] theorem commits_invocation (c : Nat) (cmd : Row) (t now id : Nat) :
    commits id (invocation c cmd t now) = 0 := by
  unfold invocation; split <;> rfl

@[simp] theorem allClaimSeqs_append (l l' : List Event) :
    allClaimSeqs (l ++ l') = allClaimSeqs l ++ allClaimSeqs l' := by
  simp [allClaimSeqs, claims, List.filterMap_append]

theorem claimSeqs_sublist (c : Nat) (log : List Event) :
    (claimSeqs c log).Sublist (allClaimSeqs log) :=
  (List.filter_sublist _).map _

@[simp] theorem allClaimSeqs_invocation (c : Nat) (cmd : Row) (t now : Nat) :
    allClaimSeqs (invocation c cmd t now) = [] := by
  unfold invocation; split <;> rfl

@[simp] theorem allClaimSeqs_close (o : Option (CmdState × String)) (c i : Nat) :
    allClaimSeqs [Event.close o c i] = [] := by
  cases o <;> rfl

end B3scale
