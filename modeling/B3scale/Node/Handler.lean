/-
  b3scale formalization — the node agent's event handler
  (`cmd/b3scalenoded/handler.go`).

  * `dispatch` is `EventHandler.Dispatch`: each event runs in one
    transaction, a working copy of the table (`Tx`) that `COMMIT` installs
    only if the handler returned `nil` and no statement failed;
  * `dispatch_writes`: one dispatch leaves the table as it was, deletes the
    row of a destroyed meeting, or gives the row of the event's meeting the
    state `change` computes from it;
  * `attendees_distinct_of_fresh_joins`: every run keeps a meeting's
    attendees distinct by internal user id as long as no `UserJoinedMeeting`
    names a user already in the list; `join_duplicates_attendee`: a
    redelivered join appends the user a second time;
  * `dispatch_twice`: dispatching an event twice is dispatching it once,
    unless it is a `UserJoinedMeeting` for a stored meeting
    (`redelivered_join_appends`);
  * `nil_lookups_panic`: `onMeetingEnded`, `GetMeetingInfo` and the
    `Refresh` of both states dereference the result of a lookup that found
    no row.
-/
import B3scale.Cluster.Backend

namespace B3scale
namespace Node

/-- A handler's transaction. -/
structure Tx where
  table : MeetingTable
  /-- a statement failed: Postgres refuses the rest, and `COMMIT` rolls
      back -/
  aborted : Bool

/-- `mstate.Save(ctx, tx)` in a handler. -/
def Tx.save (db : Db) (tx : Tx) (ms : MeetingState) : Except Fault Tx :=
  match MeetingState.saveTx db tx.table ms with
  | .error e => .error e
  | .ok t => .ok { tx with table := t }

/-! ## The handlers -/

/-- What `onMeetingCreated` does to a stored meeting. -/
def markRunning (m : Bbb.Meeting) : Bbb.Meeting := { m with running := true }

/-- What `onMeetingEnded` does: "Reset meeting state". -/
def resetMeeting (m : Bbb.Meeting) : Bbb.Meeting :=
  { m with running := false, attendees := some [] }

/-- What `onUserJoinedMeeting` does: append the attendee to the list, a
    `nil` list read as empty. -/
def addAttendee (a : Bbb.Attendee) (m : Bbb.Meeting) : Bbb.Meeting :=
  { m with attendees := some (m.attendees.getD [] ++ [a]) }

/-- What `onUserLeftMeeting` does: drop every attendee with the user's id;
    `none` for a `nil` list, which it leaves alone. -/
def removeAttendee (internalUserID : String) (m : Bbb.Meeting) : Option Bbb.Meeting :=
  m.attendees.map fun as =>
    { m with attendees := some (as.filter (·.internalUserID != internalUserID)) }

/-- The body `onMeetingCreated`, `onUserJoinedMeeting` and
    `onUserLeftMeeting` share: an unknown meeting drops the event, a stored
    one gets `change` (`none`: nothing to save) and is saved. -/
def updateMeeting (db : Db) (tx : Tx) (lookup : Except Fault (Option MeetingState))
    (change : Bbb.Meeting → Option Bbb.Meeting) : Except Fault Tx :=
  match lookup with
  | .error e => .error e
  | .ok none => .ok tx
  | .ok (some ms) =>
    match change ms.meeting with
    | none => .ok tx
    | some m => tx.save db { ms with meeting := m }

def onMeetingCreated (db : Db) (tx : Tx) (internalMeetingID : String) : Except Fault Tx :=
  updateMeeting db tx (awaitInternalMeeting db tx.table internalMeetingID) (some ∘ markRunning)

/-- `onMeetingEnded` logs an unknown meeting and goes on: the assignment to
    `mstate.Meeting.Running` dereferences the `nil` state. -/
def onMeetingEnded (db : Db) (tx : Tx) (internalMeetingID : String) : Except Fault Tx :=
  match awaitInternalMeeting db tx.table internalMeetingID with
  | .error e => .error e
  | .ok none => .error .nilDeref
  | .ok (some ms) => tx.save db { ms with meeting := resetMeeting ms.meeting }

/-- `onMeetingDestroyed` returns `nil` when the delete fails, but the failed
    statement has aborted the transaction. -/
def onMeetingDestroyed (db : Db) (tx : Tx) (internalMeetingID : String) : Except Fault Tx :=
  match deleteMeetingStateByInternalID db tx.table internalMeetingID with
  | .error _ => .ok { tx with aborted := true }
  | .ok t => .ok { tx with table := t }

def onUserJoinedMeeting (db : Db) (tx : Tx) (internalMeetingID : String)
    (attendee : Bbb.Attendee) : Except Fault Tx :=
  updateMeeting db tx (getMeetingState db tx.table (·.internalID == internalMeetingID))
    (some ∘ addAttendee attendee)

def onUserLeftMeeting (db : Db) (tx : Tx) (internalMeetingID internalUserID : String) :
    Except Fault Tx :=
  updateMeeting db tx (getMeetingState db tx.table (·.internalID == internalMeetingID))
    (removeAttendee internalUserID)

/-- The type switch of `Dispatch`; an event of another type is only logged
    ("unhandled unknown event"). -/
def handle (db : Db) (tx : Tx) : Bbb.Event → Except Fault Tx
  | .meetingCreated x _ => onMeetingCreated db tx x
  | .meetingEnded x => onMeetingEnded db tx x
  | .meetingDestroyed x => onMeetingDestroyed db tx x
  | .userJoinedMeeting x a => onUserJoinedMeeting db tx x a
  | .userLeftMeeting x u => onUserLeftMeeting db tx x u
  | .other _ => .ok tx

/-- `EventHandler.Dispatch`: the outcome, and the table after it. The
    deferred `tx.Rollback` drops the working copy on every path but a
    successful `COMMIT`, a panic included. -/
def dispatch (db : Db) (e : Bbb.Event) (t : MeetingTable) : Except Fault Unit × MeetingTable :=
  match db.begin with
  | some err => (.error (.err err), t)
  | none =>
    match handle db ⟨t, false⟩ e with
    | .error f => (.error f, t)
    | .ok tx =>
      if tx.aborted then (.error (.err errTxCommitRollback), t)
      else
        match db.commit with
        | some err => (.error (.err err), t)
        | none => (.ok (), tx.table)

/-- Events dispatched one after another, each with what the database does
    during it. -/
def dispatchAll (run : List (Db × Bbb.Event)) (t : MeetingTable) : MeetingTable :=
  run.foldl (fun t p => (dispatch p.1 p.2 t).2) t

/-- What the handler of `e` does to the stored meeting it finds. -/
def change : Bbb.Event → Bbb.Meeting → Option Bbb.Meeting
  | .meetingCreated _ _ => some ∘ markRunning
  | .meetingEnded _ => some ∘ resetMeeting
  | .userJoinedMeeting _ a => some ∘ addAttendee a
  | .userLeftMeeting _ u => removeAttendee u
  | .meetingDestroyed _ | .other _ => fun _ => none

/-! ## What one dispatch writes -/

theorem getMeetingState_some {db : Db} {t : MeetingTable} {q : MeetingState → Bool}
    {ms : MeetingState} (h : getMeetingState db t q = .ok (some ms)) :
    db.lookup = none ∧ ms ∈ t.rows ∧ q ms := by
  unfold getMeetingState at h
  cases hl : db.lookup <;> simp only [hl, Except.ok.injEq, reduceCtorEq] at h
  exact ⟨rfl, List.mem_of_find?_eq_some h, List.find?_some h⟩

theorem Tx.save_ok {db : Db} {tx tx' : Tx} {ms : MeetingState} (h : tx.save db ms = .ok tx') :
    db.save = none ∧ tx' = { tx with table := tx.table.setState ms.id ms.meeting } := by
  unfold Tx.save MeetingState.saveTx at h
  cases hs : db.save <;> simp only [hs, Except.ok.injEq, reduceCtorEq] at h
  exact ⟨rfl, h.symm⟩

/-- How the shared body succeeds on the row of `e`'s meeting: by changing
    nothing, or by writing `change e` into it. -/
theorem updateMeeting_ok {db : Db} {t : MeetingTable} (e : Bbb.Event) {x : String} {tx : Tx}
    (hx : e.internalMeetingID = some x)
    (h : updateMeeting db ⟨t, false⟩ (getMeetingState db t (·.internalID == x)) (change e) =
      .ok tx) :
    tx = ⟨t, false⟩ ∨ ∃ ms m, t.rows.find? (·.internalID == x) = some ms ∧
      e.internalMeetingID = some ms.internalID ∧ db.lookup = none ∧ db.save = none ∧
      change e ms.meeting = some m ∧ tx = ⟨t.setState ms.id m, false⟩ := by
  unfold updateMeeting at h
  rcases hl : getMeetingState db t (·.internalID == x) with _ | _ | ms <;>
    simp only [hl, Except.ok.injEq, reduceCtorEq] at h
  · exact .inl h.symm
  obtain ⟨hdb, -, hq⟩ := getMeetingState_some hl
  cases hc : change e ms.meeting <;> simp only [hc, Except.ok.injEq] at h
  · exact .inl h.symm
  obtain ⟨hs, rfl⟩ := Tx.save_ok h
  refine .inr ⟨ms, _, ?_, by rw [hx, beq_iff_eq.1 hq], hdb, hs, hc, rfl⟩
  unfold getMeetingState at hl; simpa [hdb] using hl

/-- How a handler can succeed: by changing nothing, by aborting, by
    deleting the row of a destroyed meeting, or by writing `change e` into
    the row of `e`'s meeting. -/
theorem handle_ok {db : Db} {t : MeetingTable} {e : Bbb.Event} {tx : Tx}
    (h : handle db ⟨t, false⟩ e = .ok tx) :
    tx = ⟨t, false⟩ ∨ tx = ⟨t, true⟩ ∨
    (∃ x, e = .meetingDestroyed x ∧ db.delete = none ∧ tx = ⟨t.erase (·.internalID == x), false⟩) ∨
    ∃ x ms m, t.rows.find? (·.internalID == x) = some ms ∧ e.internalMeetingID = some ms.internalID ∧
      db.lookup = none ∧ db.save = none ∧ change e ms.meeting = some m ∧
      tx = ⟨t.setState ms.id m, false⟩ := by
  cases e with
  | meetingCreated x y =>
    exact (updateMeeting_ok (.meetingCreated x y) rfl h).imp id fun h => .inr (.inr ⟨x, h⟩)
  | userJoinedMeeting x a =>
    exact (updateMeeting_ok (.userJoinedMeeting x a) rfl h).imp id fun h => .inr (.inr ⟨x, h⟩)
  | userLeftMeeting x u =>
    exact (updateMeeting_ok (.userLeftMeeting x u) rfl h).imp id fun h => .inr (.inr ⟨x, h⟩)
  | other _ => exact .inl (Except.ok.inj h).symm
  | meetingDestroyed x =>
    simp only [handle, onMeetingDestroyed, deleteMeetingStateByInternalID] at h
    cases hd : db.delete <;> simp only [hd, Except.ok.injEq] at h <;> subst h
    · exact .inr (.inr (.inl ⟨x, rfl, rfl, rfl⟩))
    · exact .inr (.inl rfl)
  | meetingEnded x =>
    simp only [handle, onMeetingEnded] at h
    rcases hl : awaitInternalMeeting db t x with _ | _ | ms <;>
      simp only [hl, reduceCtorEq] at h
    obtain ⟨hdb, -, hq⟩ := getMeetingState_some hl
    obtain ⟨hs, rfl⟩ := Tx.save_ok h
    refine .inr (.inr (.inr ⟨x, ms, _, ?_, by rw [beq_iff_eq.1 hq]; rfl, hdb, hs, rfl, rfl⟩))
    unfold awaitInternalMeeting getMeetingState at hl; simpa [hdb] using hl

/-- `Dispatch` commits the handler's working copy, or leaves the table as it
    was. -/
theorem dispatch_cases (db : Db) (e : Bbb.Event) (t : MeetingTable) :
    (dispatch db e t).2 = t ∨ db.begin = none ∧ db.commit = none ∧
      ∃ t', handle db ⟨t, false⟩ e = .ok ⟨t', false⟩ ∧ dispatch db e t = (.ok (), t') := by
  unfold dispatch
  split
  · exact .inl rfl
  · split
    · exact .inl rfl
    · rename_i tx h
      split
      · exact .inl rfl
      · split
        · exact .inl rfl
        · rename_i hb _ hc
          obtain ⟨t', a⟩ := tx
          simp_all

theorem dispatch_of_handle {db : Db} {e : Bbb.Event} {t t' : MeetingTable}
    (hb : db.begin = none) (hc : db.commit = none) (h : handle db ⟨t, false⟩ e = .ok ⟨t', false⟩) :
    dispatch db e t = (.ok (), t') := by
  simp [dispatch, hb, hc, h]

/-- **What one dispatch writes.** The table is left as it was, or the rows
    of a destroyed meeting are deleted, or the row of the event's meeting
    gets the state `change` computes from it. -/
theorem dispatch_writes (db : Db) (e : Bbb.Event) (t : MeetingTable) :
    (dispatch db e t).2 = t ∨
    (∃ x, e = .meetingDestroyed x ∧ (dispatch db e t).2 = t.erase (·.internalID == x)) ∨
    ∃ ms m, ms ∈ t.rows ∧ e.internalMeetingID = some ms.internalID ∧
      change e ms.meeting = some m ∧ (dispatch db e t).2 = t.setState ms.id m := by
  rcases dispatch_cases db e t with h | ⟨-, -, t', hh, hd⟩
  · exact .inl h
  rw [hd]
  rcases handle_ok hh with h | h | ⟨x, rfl, -, h⟩ | ⟨x, ms, m, hm, hx, -, -, hc, h⟩ <;>
    simp only [Tx.mk.injEq, and_true, Bool.false_eq_true, and_false] at h
  · exact .inl h
  · exact .inr (.inl ⟨x, rfl, h⟩)
  · exact .inr (.inr ⟨ms, m, List.mem_of_find?_eq_some hm, hx, hc, h⟩)

/-! ## Distinct attendees -/

/-- The stored attendees of meeting `x` have distinct internal user ids. -/
def Distinct (x : String) (t : MeetingTable) : Prop :=
  ∀ r ∈ t.rows, r.internalID = x → r.meeting.userIDs.Nodup

instance (x : String) (t : MeetingTable) : Decidable (Distinct x t) :=
  inferInstanceAs (Decidable (∀ r ∈ t.rows, _))

/-- `e` is no `UserJoinedMeeting` for meeting `x` naming a user already in
    its stored list. -/
def freshJoin (x : String) (t : MeetingTable) : Bbb.Event → Bool
  | .userJoinedMeeting y a =>
    y != x || t.rows.all fun r => r.internalID != x || !r.meeting.userIDs.contains a.internalUserID
  | _ => true

/-- Every join of the run is fresh when it is dispatched. -/
def freshJoins (x : String) : MeetingTable → List (Db × Bbb.Event) → Bool
  | _, [] => true
  | t, (db, e) :: run => freshJoin x t e && freshJoins x (dispatch db e t).2 run

theorem userIDs_change {e : Bbb.Event} {m m' : Bbb.Meeting} (h : change e m = some m')
    (hd : m.userIDs.Nodup) (hf : ∀ y a, e = .userJoinedMeeting y a → a.internalUserID ∉ m.userIDs) :
    m'.userIDs.Nodup := by
  cases e with
  | meetingCreated => cases h; exact hd
  | meetingEnded => cases h; simp [resetMeeting, Bbb.Meeting.userIDs]
  | userJoinedMeeting y a =>
    cases h
    simpa [addAttendee, Bbb.Meeting.userIDs, List.nodup_append] using
      ⟨hd, fun b hb e => hf y a rfl (e ▸ List.mem_map_of_mem _ hb)⟩
  | userLeftMeeting y u =>
    simp only [change, removeAttendee, Option.map_eq_some'] at h
    obtain ⟨as, has, rfl⟩ := h
    simp only [Bbb.Meeting.userIDs, has, Option.getD_some] at hd ⊢
    exact hd.sublist ((List.filter_sublist _).map _)
  | meetingDestroyed => cases h
  | other => cases h

theorem Distinct.dispatch {x : String} {t : MeetingTable} (h : Distinct x t) (db : Db)
    {e : Bbb.Event} (hf : freshJoin x t e) : Distinct x (dispatch db e t).2 := by
  rcases dispatch_writes db e t with he | ⟨y, -, he⟩ | ⟨ms, m, hms, hx, hc, he⟩ <;> rw [he]
  · exact h
  · exact fun r hr => h r (List.mem_of_mem_filter hr)
  intro r' hr' hrx
  obtain ⟨r, hr, rfl⟩ := List.mem_map.1 hr'
  rw [MeetingState.withMeeting_internalID] at hrx
  by_cases hid : r.id = ms.id
  · obtain rfl := MeetingTable.eq_of_id hr hms hid
    rw [MeetingState.withMeeting, if_pos rfl]
    refine userIDs_change hc (h r hr hrx) fun y a he hin => ?_
    subst he hrx
    simp only [Bbb.Event.internalMeetingID, Option.some.injEq] at hx
    simp only [freshJoin, hx, bne_self_eq_false, Bool.false_or, List.all_eq_true] at hf
    simpa [hin] using hf r hr
  · rw [MeetingState.withMeeting, if_neg hid]
    exact h r hr hrx

/-- **Attendees stay distinct while joins are fresh.** In every run of
    `Dispatch`, over events of any kind and any meeting and whatever the
    database does, the attendees of meeting `x` keep distinct internal user
    ids as long as no `UserJoinedMeeting` for `x` names a user already in
    its stored list. -/
theorem attendees_distinct_of_fresh_joins (x : String) (t : MeetingTable)
    (run : List (Db × Bbb.Event)) (h : Distinct x t) (hf : freshJoins x t run) :
    Distinct x (dispatchAll run t) := by
  induction run generalizing t with
  | nil => exact h
  | cons p run ih =>
    obtain ⟨db, e⟩ := p
    simp only [freshJoins, Bool.and_eq_true] at hf
    exact ih _ (h.dispatch db hf.1) hf.2

/-- A meeting `x` stored with no attendees. -/
theorem attendees_distinct_rejoin :
    Distinct "x" (dispatchAll
      [(Db.ok, .userJoinedMeeting "x" ⟨"u", "u", "U"⟩), (Db.ok, .userLeftMeeting "x" "u"),
        (Db.ok, .userJoinedMeeting "x" ⟨"u", "u", "U"⟩)]
      (.single ⟨"m", "x", none, none, ⟨"m", "x", true, some []⟩, none, none, none⟩)) :=
  attendees_distinct_of_fresh_joins _ _ _ (by decide) (by decide)

/-- The events of meeting `x` whose handler updates its row. -/
def updatesMeeting (x : String) : Bbb.Event → Bool
  | .meetingCreated y _ | .meetingEnded y | .userJoinedMeeting y _ | .userLeftMeeting y _ => y == x
  | .meetingDestroyed _ | .other _ => false

/-- A `UserJoinedMeeting` delivered twice lists its attendee twice. -/
theorem join_duplicates_attendee :
    ¬ ∀ (x : String) (t : MeetingTable) (run : List (Db × Bbb.Event)),
      Distinct x t → (∀ p ∈ run, updatesMeeting x p.2) → Distinct x (dispatchAll run t) :=
  fun h => absurd (h "x" (.single ⟨"m", "x", none, none, ⟨"m", "x", true, some []⟩, none, none, none⟩)
    [(Db.ok, .userJoinedMeeting "x" ⟨"u", "u", "U"⟩), (Db.ok, .userJoinedMeeting "x" ⟨"u", "u", "U"⟩)]
    (by decide) (by decide)) (by decide)

/-! ## Redelivery -/

/-- Every handler but `onUserJoinedMeeting` writes a state it would write
    again. -/
theorem change_change {e : Bbb.Event} (he : ∀ x a, e ≠ .userJoinedMeeting x a)
    {m m' : Bbb.Meeting} (h : change e m = some m') : change e m' = some m' := by
  cases e with
  | meetingCreated => cases h; rfl
  | meetingEnded => cases h; rfl
  | userJoinedMeeting x a => exact absurd rfl (he x a)
  | userLeftMeeting _ u =>
    simp only [change, removeAttendee, Option.map_eq_some'] at h
    obtain ⟨as, -, rfl⟩ := h
    simp [change, removeAttendee, List.filter_filter]
  | meetingDestroyed => cases h
  | other => cases h

/-- The success path of a handler that finds its meeting: the converse of
    `handle_ok`. -/
theorem handle_of_find {db : Db} {t : MeetingTable} {e : Bbb.Event} {x : String}
    {ms : MeetingState} {m : Bbb.Meeting} (hl : db.lookup = none) (hs : db.save = none)
    (hx : e.internalMeetingID = some x) (hf : t.rows.find? (·.internalID == x) = some ms)
    (hc : change e ms.meeting = some m) :
    handle db ⟨t, false⟩ e = .ok ⟨t.setState ms.id m, false⟩ := by
  have hq : getMeetingState db t (·.internalID == x) = .ok (some ms) := by
    simp [getMeetingState, hl, hf]
  cases e with
  | meetingCreated =>
    cases hx; cases hc
    simp [handle, onMeetingCreated, updateMeeting, awaitInternalMeeting, hq, Tx.save,
      MeetingState.saveTx, hs]
  | meetingEnded =>
    cases hx; cases hc
    simp [handle, onMeetingEnded, awaitInternalMeeting, hq, Tx.save, MeetingState.saveTx, hs]
  | userJoinedMeeting =>
    cases hx; cases hc
    simp [handle, onUserJoinedMeeting, updateMeeting, hq, Tx.save, MeetingState.saveTx, hs]
  | userLeftMeeting _ u =>
    cases hx
    have hc : removeAttendee u ms.meeting = some m := hc
    simp [handle, onUserLeftMeeting, updateMeeting, hq, hc, Tx.save, MeetingState.saveTx, hs]
  | meetingDestroyed => cases hc
  | other => cases hc

/-- A handler that succeeded without aborting succeeds again on its own
    result and changes nothing, unless it is a join for a stored meeting. -/
theorem handle_again {db : Db} {t t' : MeetingTable} {e : Bbb.Event}
    (he : ∀ x a, e = .userJoinedMeeting x a → ∀ r ∈ t.rows, r.internalID ≠ x)
    (h : handle db ⟨t, false⟩ e = .ok ⟨t', false⟩) : handle db ⟨t', false⟩ e = .ok ⟨t', false⟩ := by
  rcases handle_ok h with h' | h' | ⟨x, rfl, hd, h'⟩ | ⟨x, ms, m, hf, hx, hl, hs, hc, h'⟩ <;>
    simp only [Tx.mk.injEq, and_true, Bool.false_eq_true, and_false] at h' <;> subst h'
  · exact h
  · simp [handle, onMeetingDestroyed, deleteMeetingStateByInternalID, hd, MeetingTable.erase_erase]
  have hq : ms.internalID = x := by simpa using List.find?_some hf
  subst hq
  have hj : ∀ y a, e ≠ .userJoinedMeeting y a := fun y a hj =>
    he y a hj ms (List.mem_of_find?_eq_some hf) (by
      subst hj; simpa [Bbb.Event.internalMeetingID] using hx.symm)
  have hf' : (t.setState ms.id m).rows.find? (·.internalID == ms.internalID) =
      some { ms with meeting := m } := by
    rw [MeetingTable.find?_setState _ _ _ (by simp), hf]
    simp [MeetingState.withMeeting]
  simpa [MeetingTable.setState_setState] using
    handle_of_find hl hs hx hf' (change_change hj hc)

/-- **Redelivery changes nothing, joins apart.** Dispatching an event twice
    in a row, whatever the database does (the same both times), leaves the
    table as dispatching it once, for every event but a `UserJoinedMeeting`
    for a stored meeting. -/
theorem dispatch_twice (db : Db) (e : Bbb.Event) (t : MeetingTable)
    (he : ∀ x a, e = .userJoinedMeeting x a → ∀ r ∈ t.rows, r.internalID ≠ x) :
    (dispatch db e (dispatch db e t).2).2 = (dispatch db e t).2 := by
  rcases dispatch_cases db e t with h | ⟨hb, hc, t', hh, hd⟩
  · rw [h]; exact h
  · rw [hd, dispatch_of_handle hb hc (handle_again he hh)]

theorem dispatch_twice_left :
    (dispatch Db.ok (.userLeftMeeting "x" "u") (dispatch Db.ok (.userLeftMeeting "x" "u")
      (.single ⟨"m", "x", none, none, ⟨"m", "x", true, some [⟨"u", "u", "U"⟩]⟩, none, none, none⟩)).2).2 =
    (dispatch Db.ok (.userLeftMeeting "x" "u")
      (.single ⟨"m", "x", none, none, ⟨"m", "x", true, some [⟨"u", "u", "U"⟩]⟩, none, none, none⟩)).2 :=
  dispatch_twice _ _ _ fun _ _ h => nomatch h

/-- A `UserJoinedMeeting` for a stored meeting, dispatched twice, appends
    its attendee twice. -/
theorem redelivered_join_appends :
    ¬ ∀ (db : Db) (e : Bbb.Event) (t : MeetingTable),
      (dispatch db e (dispatch db e t).2).2 = (dispatch db e t).2 :=
  fun h => absurd (h Db.ok (.userJoinedMeeting "x" ⟨"u", "u", "U"⟩)
    (.single ⟨"m", "x", none, none, ⟨"m", "x", true, some []⟩, none, none, none⟩)) (by decide)

/-! ## Lookups that find no row -/

theorem find?_none_of_absent {α : Type} {l : List α} {f : α → String} {x : String}
    (h : ∀ r ∈ l, f r ≠ x) : l.find? (f · == x) = none :=
  List.find?_eq_none.2 fun r hr => by simpa using h r hr

/-- Unlike its siblings, `onMeetingEnded` panics on a meeting the store does
    not know. -/
theorem dispatch_meetingEnded_unknown {db : Db} {t : MeetingTable} {x : String}
    (hb : db.begin = none) (hl : db.lookup = none) (hx : ∀ r ∈ t.rows, r.internalID ≠ x) :
    dispatch db (.meetingEnded x) t = (.error .nilDeref, t) := by
  simp [dispatch, handle, onMeetingEnded, awaitInternalMeeting, getMeetingState, hb, hl,
    find?_none_of_absent hx]

theorem getMeetingInfo_unknown {db : Db} {t : MeetingTable} {id : String} (now : Nat)
    (m : Bbb.Meeting) (hl : db.lookup = none) (hx : ∀ r ∈ t.rows, r.id ≠ id) :
    (Cluster.getMeetingInfo db now id (.ok ("SUCCESS", m)) t).1 = .error .nilDeref := by
  simp [Cluster.getMeetingInfo, getMeetingState, hl, find?_none_of_absent hx]

theorem MeetingState.refresh_gone {db : Db} {t : MeetingTable} {s : MeetingState}
    (hr : db.refresh = none) (hx : ∀ r ∈ t.rows, r.id ≠ s.id) :
    s.refresh db t = .error .nilDeref := by
  simp [MeetingState.refresh, hr, find?_none_of_absent hx]

/-- `Save` of a stored backend state whose row is gone: the `UPDATE` matches
    no row and succeeds, and the `Refresh` after it panics. -/
theorem BackendState.save_gone {db : Db} {t : BackendTable} {s : BackendState} {c : Nat}
    (now : Nat) (hc : s.createdAt = some c) (hu : db.update = none) (hr : db.refresh = none)
    (hx : ∀ r ∈ t.rows, r.id ≠ s.id) : (s.save db now t).1 = .error .nilDeref := by
  have hp : s.persist db now t =
      ({ s with updatedAt := some now }, .ok (t.write { s with updatedAt := some now })) := by
    simp [BackendState.persist, BackendState.update, hc, hu]
  have hn : BackendState.refresh db (t.write { s with updatedAt := some now })
      { s with updatedAt := some now } = .error .nilDeref := by
    simp only [BackendState.refresh, getBackendState, hr]
    rw [find?_none_of_absent (by simpa using hx)]
  simp [BackendState.save, hp, hn]

/-- **Lookups that find no row are dereferenced.** `Dispatch` of a
    `MeetingEnded` for a meeting the store does not know, `GetMeetingInfo`
    answered `SUCCESS` for a meeting missing from the store, `Refresh` of a
    meeting state whose row is gone, and `Save` of a backend state whose row
    is gone all end in a `nil` dereference, where the database reports no
    error. -/
theorem nil_lookups_panic :
    (∀ (db : Db) (t : MeetingTable) (x : String), db.begin = none → db.lookup = none →
      (∀ r ∈ t.rows, r.internalID ≠ x) → dispatch db (.meetingEnded x) t = (.error .nilDeref, t)) ∧
    (∀ (db : Db) (now : Nat) (id : String) (m : Bbb.Meeting) (t : MeetingTable),
      db.lookup = none → (∀ r ∈ t.rows, r.id ≠ id) →
      (Cluster.getMeetingInfo db now id (.ok ("SUCCESS", m)) t).1 = .error .nilDeref) ∧
    (∀ (db : Db) (t : MeetingTable) (s : MeetingState), db.refresh = none →
      (∀ r ∈ t.rows, r.id ≠ s.id) → s.refresh db t = .error .nilDeref) ∧
    (∀ (db : Db) (now c : Nat) (t : BackendTable) (s : BackendState), s.createdAt = some c →
      db.update = none → db.refresh = none → (∀ r ∈ t.rows, r.id ≠ s.id) →
      (s.save db now t).1 = .error .nilDeref) :=
  ⟨fun _ _ _ hb hl hx => dispatch_meetingEnded_unknown hb hl hx,
    fun _ now _ m _ hl hx => getMeetingInfo_unknown now m hl hx,
    fun _ _ _ hr hx => MeetingState.refresh_gone hr hx,
    fun _ now _ _ _ hc hu hr hx => BackendState.save_gone now hc hu hr hx⟩

theorem nil_lookups_panic_on_empty :
    dispatch Db.ok (.meetingEnded "x") .empty = (.error .nilDeref, .empty) ∧
    (Cluster.getMeetingInfo Db.ok 1 "m" (.ok ("SUCCESS", ⟨"m", "x", true, none⟩)) .empty).1 =
      .error .nilDeref ∧
    MeetingState.refresh Db.ok .empty
      ⟨"m", "x", none, none, ⟨"m", "x", true, none⟩, some 1, none, none⟩ = .error .nilDeref ∧
    (BackendState.save Db.ok 2 ⟨"b", "ready", "ready", none, "h", "k", [], 0, some 1, none, none⟩
      ⟨[], List.nodup_nil⟩).1 = .error .nilDeref :=
  ⟨nil_lookups_panic.1 _ _ _ rfl rfl (fun _ h => nomatch h),
    nil_lookups_panic.2.1 _ _ _ _ _ rfl (fun _ h => nomatch h),
    nil_lookups_panic.2.2.1 _ _ _ rfl (fun _ h => nomatch h),
    nil_lookups_panic.2.2.2 _ _ _ _ _ rfl rfl rfl fun _ h => nomatch h⟩

end Node
end B3scale
