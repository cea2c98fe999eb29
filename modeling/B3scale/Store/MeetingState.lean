/-
  b3scale formalization — the `meetings` and `backends` tables
  (`pkg/store/meeting_state.go`).

  * `Fault`: how a Go call ends without a value: an `error`, or a runtime
    panic from dereferencing a `nil` pointer;
  * `Db`: what the database does in one call: which statements fail, with
    which error, and the id a backend `INSERT` draws;
  * `MeetingTable`, `BackendTable`: the rows, with `id` and `internal_id`
    unique as the schema's indexes keep them;
  * the store functions under their source names: `getMeetingState`,
    `MeetingState.refresh` / `save`, `BackendState.refresh` / `save`,
    `BackendState.clearMeetings` / `setMeetings`.

  The handlers call `MeetingState.Save(ctx, tx)`,
  `DeleteMeetingStateByInternalID` and `awaitInternalMeeting`, the agent
  calls `DeleteMeetingState`, and `MeetingState.insert` has no `Exec`: none
  of these is in the source, and their definitions, modelled from the spec,
  say so. A
  transaction is a working copy of the table: its statements see their own
  writes, `COMMIT` installs it, a rollback drops it.
-/
import B3scale.Bbb.Meeting
import Mathlib.Data.List.Nodup

namespace B3scale

/-- How a Go call ends without a value. -/
inductive Fault
  | err (msg : String)
  /-- a runtime panic: a `nil` pointer was dereferenced -/
  | nilDeref
  deriving DecidableEq, Repr

/-- What the database does during one call. -/
structure Db where
  acquire : Option String
  begin : Option String
  /-- the call's own `SELECT` -/
  lookup : Option String
  /-- a handler's `UPDATE meetings` -/
  save : Option String
  delete : Option String
  /-- the `DELETE` of `ClearMeetings` -/
  clear : Option String
  /-- the `INSERT` of the `i`-th meeting -/
  insert : Nat → Option String
  /-- the `INSERT INTO backends` -/
  register : Option String
  update : Option String
  /-- the `SELECT` of a `Refresh` -/
  refresh : Option String
  commit : Option String
  /-- the id the database draws for a new backend -/
  uuid : String

/-- No statement fails. -/
def Db.ok : Db := ⟨none, none, none, none, none, none, fun _ => none, none, none, none, none, ""⟩

/-- `Tx.Commit` of a transaction in which a statement failed. -/
def errTxCommitRollback : String := "commit unexpectedly resulted in rollback"

/-- A unique index refused a row. -/
def errUniqueViolation : String := "duplicate key value violates unique constraint"

/-! ## Meetings -/

/-- A row of `meetings`; the related frontend and backend by id,
    `createdAt = none` for Go's zero time. -/
structure MeetingState where
  id : String
  internalID : String
  frontendID : Option String
  backendID : Option String
  meeting : Bbb.Meeting
  createdAt : Option Nat
  updatedAt : Option Nat
  syncedAt : Option Nat
  deriving DecidableEq, Repr

/-- The `meetings` table. -/
structure MeetingTable where
  rows : List MeetingState
  ids_nodup : (rows.map MeetingState.id).Nodup
  internal_nodup : (rows.map MeetingState.internalID).Nodup

/-- `r` with meeting state `m` if it is row `id`. -/
def MeetingState.withMeeting (id : String) (m : Bbb.Meeting) (r : MeetingState) : MeetingState :=
  if r.id = id then { r with meeting := m } else r

@[simp] theorem MeetingState.withMeeting_id (id : String) (m : Bbb.Meeting) (r : MeetingState) :
    (r.withMeeting id m).id = r.id := by
  unfold withMeeting; split_ifs <;> rfl

@[simp] theorem MeetingState.withMeeting_internalID (id : String) (m : Bbb.Meeting)
    (r : MeetingState) : (r.withMeeting id m).internalID = r.internalID := by
  unfold withMeeting; split_ifs <;> rfl

namespace MeetingTable

def empty : MeetingTable := ⟨[], List.nodup_nil, List.nodup_nil⟩

/-- The table of one row. -/
def single (r : MeetingState) : MeetingTable :=
  ⟨[r], List.nodup_singleton _, List.nodup_singleton _⟩

/-- `UPDATE meetings SET state = m WHERE id = id`. -/
def setState (t : MeetingTable) (id : String) (m : Bbb.Meeting) : MeetingTable where
  rows := t.rows.map (MeetingState.withMeeting id m)
  ids_nodup := by simpa [List.map_map, Function.comp_def] using t.ids_nodup
  internal_nodup := by simpa [List.map_map, Function.comp_def] using t.internal_nodup

/-- `DELETE FROM meetings WHERE p`. -/
def erase (t : MeetingTable) (p : MeetingState → Bool) : MeetingTable where
  rows := t.rows.filter fun r => !p r
  ids_nodup := t.ids_nodup.sublist ((List.filter_sublist _).map _)
  internal_nodup := t.internal_nodup.sublist ((List.filter_sublist _).map _)

/-- `INSERT INTO meetings`: refused when the row's `id` or `internal_id` is
    taken. -/
def insert (t : MeetingTable) (r : MeetingState) : Except Fault MeetingTable :=
  if h : r.id ∉ t.rows.map MeetingState.id ∧ r.internalID ∉ t.rows.map MeetingState.internalID then
    .ok ⟨t.rows ++ [r],
      by simpa [List.nodup_append] using ⟨t.ids_nodup, fun x hx e => h.1 (e ▸ List.mem_map_of_mem _ hx)⟩,
      by simpa [List.nodup_append] using
        ⟨t.internal_nodup, fun x hx e => h.2 (e ▸ List.mem_map_of_mem _ hx)⟩⟩
  else .error (.err errUniqueViolation)

@[simp] theorem setState_rows (t : MeetingTable) (id : String) (m : Bbb.Meeting) :
    (t.setState id m).rows = t.rows.map (MeetingState.withMeeting id m) := rfl

@[simp] theorem erase_rows (t : MeetingTable) (p : MeetingState → Bool) :
    (t.erase p).rows = t.rows.filter fun r => !p r := rfl

theorem ext {t t' : MeetingTable} (h : t.rows = t'.rows) : t = t' := by
  cases t; cases t'; cases h; rfl

instance : DecidableEq MeetingTable := fun t t' =>
  decidable_of_iff (t.rows = t'.rows) ⟨ext, congrArg rows⟩

theorem eq_of_id {t : MeetingTable} {r r' : MeetingState} (hr : r ∈ t.rows) (hr' : r' ∈ t.rows)
    (h : r.id = r'.id) : r = r' :=
  List.inj_on_of_nodup_map t.ids_nodup hr hr' h

/-- Writing the same state twice is writing it once. -/
theorem setState_setState (t : MeetingTable) (id : String) (m : Bbb.Meeting) :
    (t.setState id m).setState id m = t.setState id m := by
  refine ext ?_
  simp only [setState_rows, List.map_map]
  refine List.map_congr_left fun r _ => ?_
  unfold MeetingState.withMeeting; split_ifs <;> simp_all

theorem erase_erase (t : MeetingTable) (p : MeetingState → Bool) :
    (t.erase p).erase p = t.erase p :=
  ext (by simp [List.filter_filter])

/-- A lookup by a column `setState` keeps finds the written row. -/
theorem find?_setState {q : MeetingState → Bool} (t : MeetingTable) (id : String) (m : Bbb.Meeting)
    (hq : ∀ r, q (r.withMeeting id m) = q r) :
    (t.setState id m).rows.find? q = (t.rows.find? q).map (MeetingState.withMeeting id m) := by
  rw [setState_rows, List.find?_map]
  congr 2; funext r; exact hq r

end MeetingTable

/-- `GetMeetingState`: the first row the query selects. The `SELECT` of
    the related backend state is one more statement of the lookup; its
    failure is the lookup's. -/
def getMeetingState (db : Db) (t : MeetingTable) (q : MeetingState → Bool) :
    Except Fault (Option MeetingState) :=
  match db.lookup with
  | some e => .error (.err e)
  | none => .ok (t.rows.find? q)

/-- Modelled from the spec: `awaitInternalMeeting`, which
    `cmd/b3scalenoded/handler.go` calls and no file under `src/` defines.
    It polls for the row with this internal id for up to five seconds.
    Inside the handler's transaction nothing else writes the table in this
    model, so the result is the first poll's. -/
def awaitInternalMeeting (db : Db) (t : MeetingTable) (internalID : String) :
    Except Fault (Option MeetingState) :=
  getMeetingState db t (·.internalID == internalID)

/-- `MeetingState.Refresh`: `*s = *next` dereferences the row it read. -/
def MeetingState.refresh (db : Db) (t : MeetingTable) (s : MeetingState) :
    Except Fault MeetingState :=
  match db.refresh with
  | some e => .error (.err e)
  | none =>
    match t.rows.find? (·.id == s.id) with
    | none => .error .nilDeref
    | some next => .ok next

/-- Modelled from the spec: `MeetingState.insert`, whose body in
    `pkg/store/meeting_state.go` holds the `INSERT` statement and no `Exec`
    or `return`. The row takes `id` and `internal_id` from the meeting, as
    the spec's data model names them. -/
def MeetingState.insert (db : Db) (i : Nat) (now : Nat) (s : MeetingState) (t : MeetingTable) :
    Except Fault MeetingTable :=
  match db.insert i with
  | some e => .error (.err e)
  | none =>
    t.insert { s with
      id := s.meeting.meetingID, internalID := s.meeting.internalMeetingID, createdAt := some now }

/-- `MeetingState.update` of the source. -/
def MeetingState.update : Except Fault Unit := .error (.err "implement me")

/-- `MeetingState.Save`: insert a row never stored (zero `CreatedAt`), else
    update it; then `Refresh`. Returns the outcome, the state and the table. -/
def MeetingState.save (db : Db) (i now : Nat) (s : MeetingState) (t : MeetingTable) :
    Except Fault MeetingState × MeetingTable :=
  match s.createdAt with
  | none =>
    match s.insert db i now t with
    | .error e => (.error e, t)
    | .ok t' => ({ s with id := s.meeting.meetingID }.refresh db t', t')
  | some _ =>
    match MeetingState.update with
    | .error e => (.error e, t)
    | .ok () => (s.refresh db t, t)

/-- Modelled from the spec: `MeetingState.Save(ctx, tx)`, which the handlers
    of `cmd/b3scalenoded` call; `src/` has only `Save()` without a
    transaction. It writes the row's meeting state. -/
def MeetingState.saveTx (db : Db) (t : MeetingTable) (s : MeetingState) :
    Except Fault MeetingTable :=
  match db.save with
  | some e => .error (.err e)
  | none => .ok (t.setState s.id s.meeting)

/-- Modelled from the spec: `store.DeleteMeetingStateByInternalID(ctx, tx,
    id)`, which `cmd/b3scalenoded/handler.go` calls and no file under `src/`
    defines. It deletes the row with this internal id. -/
def deleteMeetingStateByInternalID (db : Db) (t : MeetingTable) (internalID : String) :
    Except Fault MeetingTable :=
  match db.delete with
  | some e => .error (.err e)
  | none => .ok (t.erase (·.internalID == internalID))

/-- Modelled from the spec: `store.DeleteMeetingState(pool,
    &MeetingState{ID: id})`, which `Backend.IsMeetingRunning` calls and no
    file under `src/` defines. It deletes the row with this id. -/
def deleteMeetingState (db : Db) (t : MeetingTable) (id : String) : Except Fault MeetingTable :=
  match db.delete with
  | some e => .error (.err e)
  | none => .ok (t.erase (·.id == id))

/-! ## Backends -/

/-- A backend's state; `host` and `secret` are `Backend.Host` and
    `Backend.Secret`. `latency` is written by the agent and has no column. -/
structure BackendState where
  id : String
  nodeState : String
  adminState : String
  lastError : Option String
  host : String
  secret : String
  tags : List String
  latency : Nat
  createdAt : Option Nat
  updatedAt : Option Nat
  syncedAt : Option Nat
  deriving DecidableEq, Repr

/-- `InitBackendState`: the defaults of a new state. -/
def BackendState.init (s : BackendState) : BackendState :=
  { s with
    nodeState := if s.nodeState = "" then "init" else s.nodeState
    adminState := if s.adminState = "" then "ready" else s.adminState }

/-- The `backends` table. -/
structure BackendTable where
  rows : List BackendState
  ids_nodup : (rows.map BackendState.id).Nodup

/-- The columns `update` writes from `s`, on row `r`. -/
def BackendState.write (s r : BackendState) : BackendState :=
  if r.id = s.id then
    { r with nodeState := s.nodeState, adminState := s.adminState, lastError := s.lastError,
             host := s.host, secret := s.secret, tags := s.tags, updatedAt := s.updatedAt,
             syncedAt := s.syncedAt }
  else r

@[simp] theorem BackendState.write_id (s r : BackendState) : (s.write r).id = r.id := by
  unfold write; split_ifs <;> rfl

/-- Writing a row's own state with a new secret and update time over it
    changes just those. -/
theorem BackendState.write_secret (r : BackendState) (k : String) (u : Option Nat) :
    ({ r with secret := k, updatedAt := u } : BackendState).write r =
      { r with secret := k, updatedAt := u } := by
  simp [write]

/-- The row `INSERT INTO backends` stores for `s`: the drawn id and the
    database's defaults. -/
def BackendState.inserted (s : BackendState) (id : String) (now : Nat) : BackendState :=
  { s with
    id := id, lastError := none, latency := 0, createdAt := some now, updatedAt := none,
    syncedAt := none }

@[simp] theorem BackendState.inserted_id (s : BackendState) (id : String) (now : Nat) :
    (s.inserted id now).id = id := rfl

namespace BackendTable

/-- `UPDATE backends SET … WHERE id = s.id`. -/
def write (t : BackendTable) (s : BackendState) : BackendTable where
  rows := t.rows.map s.write
  ids_nodup := by simpa [List.map_map, Function.comp_def] using t.ids_nodup

/-- `INSERT INTO backends … RETURNING id`. -/
def insert (t : BackendTable) (s : BackendState) (id : String) (now : Nat) :
    Except Fault BackendTable :=
  if h : id ∉ t.rows.map BackendState.id then
    .ok ⟨t.rows ++ [s.inserted id now],
      by simpa [List.nodup_append] using ⟨t.ids_nodup, fun x hx e => h (e ▸ List.mem_map_of_mem _ hx)⟩⟩
  else .error (.err errUniqueViolation)

@[simp] theorem write_rows (t : BackendTable) (s : BackendState) :
    (t.write s).rows = t.rows.map s.write := rfl

theorem eq_of_id {t : BackendTable} {r r' : BackendState} (hr : r ∈ t.rows) (hr' : r' ∈ t.rows)
    (h : r.id = r'.id) : r = r' :=
  List.inj_on_of_nodup_map t.ids_nodup hr hr' h

/-- Writing a state over row `r` changes no other row. -/
theorem write_rows_eq {t : BackendTable} {r s : BackendState} (hr : r ∈ t.rows) (hs : s.id = r.id) :
    (t.write s).rows = t.rows.map fun x => if x.id = r.id then s.write r else x := by
  refine List.map_congr_left fun x hx => ?_
  by_cases hx' : x.id = r.id
  · rw [if_pos hx', eq_of_id hx hr hx']
  · rw [if_neg hx', BackendState.write, if_neg (hs ▸ hx')]

/-- Putting a row back under its own id changes nothing. -/
theorem map_put_self {t : BackendTable} {r : BackendState} (hr : r ∈ t.rows) :
    t.rows.map (fun x => if x.id = r.id then r else x) = t.rows :=
  (List.map_congr_left fun x hx => by
    split_ifs with hx'
    · exact (eq_of_id hx hr hx').symm
    · rfl).trans (List.map_id _)

end BackendTable

/-- `GetBackendState` by id. -/
def getBackendState (t : BackendTable) (id : String) : Option BackendState :=
  t.rows.find? (·.id == id)

/-- `BackendState.Refresh`: `*s = *next` dereferences the row it read. -/
def BackendState.refresh (db : Db) (t : BackendTable) (s : BackendState) :
    Except Fault BackendState :=
  match db.refresh with
  | some e => .error (.err e)
  | none =>
    match getBackendState t s.id with
    | none => .error .nilDeref
    | some next => .ok next

/-- `BackendState.insert`: returns the drawn id, `""` when it fails. -/
def BackendState.insert (db : Db) (now : Nat) (s : BackendState) (t : BackendTable) :
    Except Fault (String × BackendTable) :=
  match db.register with
  | some e => .error (.err e)
  | none => (t.insert s db.uuid now).map fun t' => (db.uuid, t')

/-- `BackendState.update`: sets `UpdatedAt` before the statement runs. -/
def BackendState.update (db : Db) (now : Nat) (s : BackendState) (t : BackendTable) :
    BackendState × Except Fault BackendTable :=
  let s := { s with updatedAt := some now }
  (s, match db.update with
    | some e => .error (.err e)
    | none => .ok (t.write s))

/-- The write of `BackendState.Save`: insert a state never stored (zero
    `CreatedAt`), else update it. Returns the state as the write leaves it. -/
def BackendState.persist (db : Db) (now : Nat) (s : BackendState) (t : BackendTable) :
    BackendState × Except Fault BackendTable :=
  match s.createdAt with
  | none =>
    match s.insert db now t with
    | .error e => ({ s with id := "" }, .error e)
    | .ok (id, t') => ({ s with id := id }, .ok t')
  | some _ => s.update db now t

/-- `BackendState.Save`: the write, then `Refresh`. Returns the outcome, the
    state as `Save` leaves it, and the table. -/
def BackendState.save (db : Db) (now : Nat) (s : BackendState) (t : BackendTable) :
    Except Fault Unit × BackendState × BackendTable :=
  match s.persist db now t with
  | (s, .error e) => (.error e, s, t)
  | (s, .ok t') =>
    match s.refresh db t' with
    | .error e => (.error e, s, t')
    | .ok next => (.ok (), next, t')

/-- Both tables. -/
structure Store where
  meetings : MeetingTable
  backends : BackendTable

/-- `BackendState.ClearMeetings`: through the pool, outside any
    transaction. -/
def BackendState.clearMeetings (db : Db) (s : BackendState) (t : MeetingTable) :
    Except Fault MeetingTable :=
  match db.clear with
  | some e => .error (.err e)
  | none => .ok (t.erase (·.backendID == some s.id))

/-- The loop of `SetMeetings`: `InitMeetingState` and `Save` for each meeting
    from the `i`-th on; a failed `Save` is ignored, a panic is not. -/
def saveMeetings (db : Db) (now : Nat) (s : BackendState) :
    Nat → List Bbb.Meeting → MeetingTable → Except Fault Unit × MeetingTable
  | _, [], t => (.ok (), t)
  | i, m :: ms, t =>
    let st : MeetingState := ⟨"", m.internalMeetingID, none, some s.id, m, none, none, none⟩
    match st.save db i now t with
    | (.error .nilDeref, t') => (.error .nilDeref, t')
    | (_, t') => saveMeetings db now s (i + 1) ms t'

/-- `BackendState.SetMeetings`. Its transaction is begun and committed, but
    no statement runs in it: `ClearMeetings`, the inserts and `Save` go
    through the pool. Returns the outcome, the state and the store. -/
def BackendState.setMeetings (db : Db) (now : Nat) (meetings : List Bbb.Meeting)
    (s : BackendState) (st : Store) : Except Fault Unit × BackendState × Store :=
  match db.begin with
  | some e => (.error (.err e), s, st)
  | none =>
    match s.clearMeetings db st.meetings with
    | .error e => (.error e, s, st)
    | .ok cleared =>
      match saveMeetings db now s 0 meetings cleared with
      | (.error f, ms) => (.error f, s, { st with meetings := ms })
      | (.ok (), ms) =>
        let s := { s with nodeState := "ready", syncedAt := some now, updatedAt := some now }
        match s.save db now st.backends with
        | (.error .nilDeref, s', bs) => (.error .nilDeref, s', ⟨ms, bs⟩)
        | (_, s', bs) =>
          match db.commit with
          | some e => (.error (.err e), s', ⟨ms, bs⟩)
          | none => (.ok (), s', ⟨ms, bs⟩)

/-! ## What `Save` leaves in a backend state -/

theorem BackendState.refresh_ok {db : Db} {t : BackendTable} {s next : BackendState}
    (h : s.refresh db t = .ok next) : next ∈ t.rows ∧ next.id = s.id := by
  unfold refresh getBackendState at h
  cases hr : db.refresh <;> simp only [hr, reduceCtorEq] at h
  cases hf : t.rows.find? (·.id == s.id) <;> simp only [hf, reduceCtorEq, Except.ok.injEq] at h
  subst h
  exact ⟨List.mem_of_find?_eq_some hf, by simpa using List.find?_some hf⟩

theorem BackendTable.insert_ok {t t' : BackendTable} {s : BackendState} {id : String} {now : Nat}
    (h : t.insert s id now = .ok t') :
    t'.rows = t.rows ++ [s.inserted id now] ∧ id ∉ t.rows.map BackendState.id := by
  unfold insert at h
  split_ifs at h with hid
  cases h; exact ⟨rfl, hid⟩

theorem BackendState.persist_state (db : Db) (now : Nat) (s : BackendState) (t : BackendTable) :
    (s.persist db now t).1.nodeState = s.nodeState ∧
      (s.persist db now t).1.lastError = s.lastError := by
  unfold persist
  split
  · split <;> exact ⟨rfl, rfl⟩
  · exact ⟨rfl, rfl⟩

/-- The row a successful write leaves under the written state's id keeps
    its node state, and its last error or none (a fresh row has none). -/
theorem BackendState.persist_row {db : Db} {now : Nat} {s : BackendState} {t t' : BackendTable}
    (h : (s.persist db now t).2 = .ok t') {next : BackendState} (hn : next ∈ t'.rows)
    (hid : next.id = (s.persist db now t).1.id) :
    next.nodeState = s.nodeState ∧ (next.lastError = s.lastError ∨ next.lastError = none) := by
  unfold persist at h hid
  rcases hc : s.createdAt with _ | c <;> simp only [hc] at h hid
  · unfold insert at h hid
    rcases hr : db.register with _ | e <;> simp only [hr, reduceCtorEq] at h hid
    rcases hi : t.insert s db.uuid now with e | t'' <;>
      simp only [hi, Except.map, reduceCtorEq, Except.ok.injEq] at h hid
    subst h
    obtain ⟨hrows, hfresh⟩ := BackendTable.insert_ok hi
    rw [hrows, List.mem_append] at hn
    rcases hn with hn | hn
    · exact absurd (hid ▸ List.mem_map_of_mem _ hn) hfresh
    · obtain rfl := List.mem_singleton.1 hn
      simp [inserted]
  · unfold update at h hid
    rcases hu : db.update with _ | e <;> simp only [hu, reduceCtorEq, Except.ok.injEq] at h hid
    subst h
    obtain ⟨r, -, rfl⟩ := List.mem_map.1 hn
    simp only [write_id] at hid
    simp [write, hid]

/-- A successful `Save` of a state never stored appends its row, and reads
    that row back. -/
theorem BackendState.save_new {db : Db} {now : Nat} {s s' : BackendState} {t t' : BackendTable}
    (hc : s.createdAt = none) (h : s.save db now t = (.ok (), s', t')) :
    t'.rows = t.rows ++ [s.inserted db.uuid now] ∧ s' = s.inserted db.uuid now := by
  unfold save persist insert at h
  rcases hr : db.register with _ | e <;> simp only [hc, hr, Except.map] at h
  · rcases hi : t.insert s db.uuid now with e | t'' <;> simp only [hi] at h
    · simp at h
    obtain ⟨hrows, hfresh⟩ := BackendTable.insert_ok hi
    split at h
    · simp at h
    rename_i next hn
    obtain ⟨rfl, rfl⟩ : next = s' ∧ t'' = t' := by simpa using h
    obtain ⟨hmem, hid⟩ := refresh_ok hn
    rw [hrows] at hmem ⊢
    refine ⟨rfl, ?_⟩
    rcases List.mem_append.1 hmem with hm | hm
    · exact absurd (by simpa [hid] using List.mem_map_of_mem BackendState.id hm) hfresh
    · simpa [inserted, hc] using List.mem_singleton.1 hm
  · simp at h

/-- A successful `Save` of a stored state writes its row and reads it
    back. -/
theorem BackendState.save_stored {db : Db} {now c : Nat} {s s' : BackendState}
    {t t' : BackendTable} (hc : s.createdAt = some c) (h : s.save db now t = (.ok (), s', t')) :
    t' = t.write { s with updatedAt := some now } ∧ s' ∈ t'.rows ∧ s'.id = s.id := by
  unfold save persist update at h
  rcases hu : db.update with _ | e <;> simp only [hc, hu] at h
  · split at h
    · simp at h
    · rename_i next hn
      simp only [Prod.mk.injEq, true_and] at h
      obtain ⟨rfl, rfl⟩ := h
      exact ⟨rfl, refresh_ok hn⟩
  · simp at h

/-- `Save` keeps the node state, and the last error or clears it, on every
    path, a panic included. -/
theorem BackendState.save_state (db : Db) (now : Nat) (s : BackendState) (t : BackendTable) :
    (s.save db now t).2.1.nodeState = s.nodeState ∧
      ((s.save db now t).2.1.lastError = s.lastError ∨ (s.save db now t).2.1.lastError = none) := by
  have hp := persist_state db now s t
  unfold save
  rcases hw : s.persist db now t with ⟨s', _ | t'⟩
  · simp_all
  simp only
  rcases hn : s'.refresh db t' with _ | next
  · simp_all
  obtain ⟨hmem, hid⟩ := refresh_ok hn
  rw [hw] at hp
  exact persist_row (by rw [hw]) hmem (by rw [hw]; exact hid)

end B3scale
