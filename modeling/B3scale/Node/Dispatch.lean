/-
  b3scale formalization — what `EventHandler.Dispatch` commits
  (`cmd/b3scalenoded/handler.go`).

  * `dispatch_ok`, `dispatch_error`: a dispatch that returns `nil`
    commits its handler's working copy; one that returns an error, or
    panics, leaves the table as it was;
  * `committedTable`: the table the handlers describe, the row of a
    destroyed meeting deleted and the row of another event's meeting given
    the state `change` computes; `dispatch_works`: with a working database
    a dispatch commits it, unless the event ends an unknown meeting;
  * `dispatch_commits_only_event_row`: every dispatch changes no row but
    the one of the event's meeting, and one that returns `nil` commits
    `committedTable`;
  * `attendeeSet`: the attendee ids as a set, changed by each event;
    `attendee_ids_follow_events`: along every run of events for one stored
    meeting, the ids in its stored list are the set the committed events
    make of the ids it started with, and with a working database every
    event is committed.
-/
import B3scale.Node.Handler
import Mathlib.Data.Finset.Basic

namespace B3scale

/-! ## Rows a write leaves alone -/

namespace MeetingTable

/-- Writing the state of row `ms` changes no row of another meeting. -/
theorem mem_setState_of_ne {t : MeetingTable} {ms r : MeetingState} (m : Bbb.Meeting)
    (hms : ms ∈ t.rows) (hr : r.internalID ≠ ms.internalID) :
    r ∈ (t.setState ms.id m).rows ↔ r ∈ t.rows := by
  have hid : ∀ r' ∈ t.rows, r'.internalID ≠ ms.internalID → r'.id ≠ ms.id :=
    fun r' hr' hne he => hne (by rw [eq_of_id hr' hms he])
  simp only [setState_rows, List.mem_map]
  constructor
  · rintro ⟨r', hr', rfl⟩
    rw [MeetingState.withMeeting_internalID] at hr
    rwa [MeetingState.withMeeting, if_neg (hid r' hr' hr)]
  · exact fun h => ⟨r, h, by rw [MeetingState.withMeeting, if_neg (hid r h hr)]⟩

theorem mem_erase_of_ne {t : MeetingTable} {r : MeetingState} {x : String} (hr : r.internalID ≠ x) :
    r ∈ (t.erase (·.internalID == x)).rows ↔ r ∈ t.rows := by
  simp [hr]

/-- The row with a stored row's internal id is that row. -/
theorem find?_internalID {t : MeetingTable} {r : MeetingState} (hr : r ∈ t.rows) :
    t.rows.find? (·.internalID == r.internalID) = some r := by
  rcases hf : t.rows.find? (·.internalID == r.internalID) with _ | y
  · exact absurd (List.find?_eq_none.1 hf r hr) (by simp)
  · have hy : y.internalID = r.internalID := by simpa using List.find?_some hf
    rw [List.inj_on_of_nodup_map t.internal_nodup (List.mem_of_find?_eq_some hf) hr hy] at hf
    exact hf

end MeetingTable

/-- Every statement of a handler's transaction succeeds: `Begin`, the
    lookup, the `UPDATE`, the `DELETE` and the `COMMIT`. -/
def Db.works (db : Db) : Prop :=
  db.begin = none ∧ db.lookup = none ∧ db.save = none ∧ db.delete = none ∧ db.commit = none

instance (db : Db) : Decidable db.works := inferInstanceAs (Decidable (_ ∧ _))

namespace Node

/-! ## The outcome of a dispatch -/

/-- A dispatch that returns `nil` committed its handler's working copy. -/
theorem dispatch_ok {db : Db} {e : Bbb.Event} {t : MeetingTable} (h : (dispatch db e t).1 = .ok ()) :
    ∃ t', handle db ⟨t, false⟩ e = .ok ⟨t', false⟩ ∧ (dispatch db e t).2 = t' := by
  unfold dispatch at h ⊢
  cases hb : db.begin <;> simp only [hb, reduceCtorEq] at h ⊢
  rcases hh : handle db ⟨t, false⟩ e with _ | ⟨t', _ | _⟩ <;>
    simp only [hh, reduceCtorEq, Bool.false_eq_true, if_true, if_false] at h ⊢
  cases hc : db.commit <;> simp only [hc, reduceCtorEq] at h ⊢
  exact ⟨t', rfl, rfl⟩

/-- A dispatch that returns an error, or panics, leaves the table as it
    was: the deferred `Rollback` drops the working copy. -/
theorem dispatch_error {db : Db} {e : Bbb.Event} {t : MeetingTable}
    (h : (dispatch db e t).1 ≠ .ok ()) : (dispatch db e t).2 = t := by
  rcases dispatch_cases db e t with h' | ⟨-, -, t', -, hd⟩
  · exact h'
  · exact absurd (congrArg Prod.fst hd) h

/-! ## The table a dispatch commits -/

/-- The table the body `updateMeeting` writes for meeting `x`: the row of
    the meeting given the state `f` computes; no change for an unknown
    meeting or a state that needs no save. -/
def writeMeeting (x : String) (f : Bbb.Meeting → Option Bbb.Meeting) (t : MeetingTable) :
    MeetingTable :=
  match t.rows.find? (·.internalID == x) with
  | some ms =>
    match f ms.meeting with
    | some m => t.setState ms.id m
    | none => t
  | none => t

/-- The table a successful `Dispatch` of `e` commits, as the handlers
    describe it: the row of a destroyed meeting deleted; for the other
    kinds, the row of the event's meeting given the state `change` computes;
    nothing changed for an unknown meeting or an event of another type. -/
def committedTable (e : Bbb.Event) (t : MeetingTable) : MeetingTable :=
  match e, e.internalMeetingID with
  | .meetingDestroyed x, _ => t.erase (·.internalID == x)
  | _, some x => writeMeeting x (change e) t
  | _, none => t

theorem updateMeeting_commits {db : Db} {t : MeetingTable} {x : String}
    {f : Bbb.Meeting → Option Bbb.Meeting} {tx : Tx}
    (h : updateMeeting db ⟨t, false⟩ (getMeetingState db t (·.internalID == x)) f = .ok tx) :
    tx = ⟨writeMeeting x f t, false⟩ := by
  unfold updateMeeting getMeetingState at h
  cases hl : db.lookup <;> simp only [hl, reduceCtorEq] at h
  unfold writeMeeting
  rcases hf : t.rows.find? (·.internalID == x) with _ | ms <;> simp only [hf] at h ⊢
  · exact (Except.ok.inj h).symm
  · cases hc : f ms.meeting <;> simp only [hc] at h ⊢
    · exact (Except.ok.inj h).symm
    · exact (Tx.save_ok h).2

theorem updateMeeting_works {db : Db} {t : MeetingTable} {x : String}
    {f : Bbb.Meeting → Option Bbb.Meeting} (hl : db.lookup = none) (hs : db.save = none) :
    updateMeeting db ⟨t, false⟩ (getMeetingState db t (·.internalID == x)) f =
      .ok ⟨writeMeeting x f t, false⟩ := by
  unfold updateMeeting getMeetingState writeMeeting
  rcases hf : t.rows.find? (·.internalID == x) with _ | ms
  · simp [hl, hf]
  · cases hc : f ms.meeting <;> simp [hl, hf, hc, Tx.save, MeetingState.saveTx, hs]

/-- A handler that succeeds without aborting leaves `committedTable`. -/
theorem handle_commits {db : Db} {t t' : MeetingTable} {e : Bbb.Event}
    (h : handle db ⟨t, false⟩ e = .ok ⟨t', false⟩) : t' = committedTable e t := by
  cases e with
  | meetingCreated x y =>
    exact congrArg Tx.table (@updateMeeting_commits db t x (change (.meetingCreated x y)) _ h)
  | userJoinedMeeting x a =>
    exact congrArg Tx.table (@updateMeeting_commits db t x (change (.userJoinedMeeting x a)) _ h)
  | userLeftMeeting x u =>
    exact congrArg Tx.table (@updateMeeting_commits db t x (change (.userLeftMeeting x u)) _ h)
  | other => exact (congrArg Tx.table (Except.ok.inj h)).symm
  | meetingDestroyed x =>
    simp only [handle, onMeetingDestroyed, deleteMeetingStateByInternalID] at h
    cases hd : db.delete <;>
      simp only [hd, Except.ok.injEq, Tx.mk.injEq, Bool.true_eq_false, and_false] at h
    exact h.1.symm
  | meetingEnded x =>
    simp only [handle, onMeetingEnded, awaitInternalMeeting, getMeetingState] at h
    cases hl : db.lookup <;> simp only [hl, reduceCtorEq] at h
    simp only [committedTable, Bbb.Event.internalMeetingID, writeMeeting]
    rcases hf : t.rows.find? (·.internalID == x) with _ | ms <;> simp only [hf, reduceCtorEq] at h ⊢
    exact congrArg Tx.table (Tx.save_ok h).2

/-- With a working database every handler succeeds and leaves
    `committedTable`, but `onMeetingEnded` for an unknown meeting. -/
theorem handle_works {db : Db} {t : MeetingTable} {e : Bbb.Event} (hw : db.works)
    (he : ∀ x, e = .meetingEnded x → ∃ r ∈ t.rows, r.internalID = x) :
    handle db ⟨t, false⟩ e = .ok ⟨committedTable e t, false⟩ := by
  obtain ⟨-, hl, hs, hd, -⟩ := hw
  cases e with
  | meetingCreated x y => exact @updateMeeting_works db t x (change (.meetingCreated x y)) hl hs
  | userJoinedMeeting x a => exact @updateMeeting_works db t x (change (.userJoinedMeeting x a)) hl hs
  | userLeftMeeting x u => exact @updateMeeting_works db t x (change (.userLeftMeeting x u)) hl hs
  | other => rfl
  | meetingDestroyed x => simp [handle, onMeetingDestroyed, deleteMeetingStateByInternalID, hd,
      committedTable]
  | meetingEnded x =>
    obtain ⟨r, hr, rfl⟩ := he _ rfl
    simp [handle, onMeetingEnded, awaitInternalMeeting, getMeetingState, hl,
      MeetingTable.find?_internalID hr, Tx.save, MeetingState.saveTx, hs, committedTable,
      Bbb.Event.internalMeetingID, writeMeeting, change]

/-- For every event, every table and whatever the database does, a
    `Dispatch` that returns `nil` commits `committedTable`. -/
theorem dispatch_commits {db : Db} {e : Bbb.Event} {t : MeetingTable}
    (h : (dispatch db e t).1 = .ok ()) : (dispatch db e t).2 = committedTable e t := by
  obtain ⟨t', hh, hd⟩ := dispatch_ok h
  rw [hd, handle_commits hh]

/-- With a working database a `Dispatch` returns `nil` and commits
    `committedTable`, unless the event ends a meeting the store does not
    know, where it panics and leaves the table. -/
theorem dispatch_works {db : Db} (hw : db.works) (e : Bbb.Event) (t : MeetingTable) :
    dispatch db e t = (.ok (), committedTable e t) ∨
      ∃ x, e = .meetingEnded x ∧ (∀ r ∈ t.rows, r.internalID ≠ x) ∧
        dispatch db e t = (.error .nilDeref, t) := by
  by_cases hx : ∃ x, e = .meetingEnded x ∧ ∀ r ∈ t.rows, r.internalID ≠ x
  · obtain ⟨x, rfl, hx⟩ := hx
    exact .inr ⟨x, rfl, hx, dispatch_meetingEnded_unknown hw.1 hw.2.1 hx⟩
  · refine .inl (dispatch_of_handle hw.1 hw.2.2.2.2 (handle_works hw fun x hex => ?_))
    by_contra hne
    push_neg at hne
    exact hx ⟨x, hex, hne⟩

/-- **A dispatch changes no row but its meeting's.** For every event, every
    table and whatever the database does: when `Dispatch` returns an error
    or panics, the table is the one it started from; when it returns `nil`,
    it has committed `committedTable`, the row of a destroyed meeting
    deleted or the state `change` computes written into the row of the
    event's meeting; every row of another meeting is left as it was; and
    with a working database it returns `nil`, unless the event ends a
    meeting the store does not know, where it panics. -/
theorem dispatch_commits_only_event_row (db : Db) (e : Bbb.Event) (t : MeetingTable) :
    ((dispatch db e t).1 ≠ .ok () → (dispatch db e t).2 = t) ∧
    ((dispatch db e t).1 = .ok () → (dispatch db e t).2 = committedTable e t) ∧
    (∀ r : MeetingState, (∀ x, e.internalMeetingID = some x → r.internalID ≠ x) →
      (r ∈ (dispatch db e t).2.rows ↔ r ∈ t.rows)) ∧
    (db.works → dispatch db e t = (.ok (), committedTable e t) ∨
      ∃ x, e = .meetingEnded x ∧ (∀ r ∈ t.rows, r.internalID ≠ x) ∧
        dispatch db e t = (.error .nilDeref, t)) := by
  refine ⟨dispatch_error, dispatch_commits, fun r hr => ?_, fun hw => dispatch_works hw e t⟩
  rcases dispatch_writes db e t with h | ⟨x, rfl, h⟩ | ⟨ms, m, hms, hx, -, h⟩ <;> rw [h]
  · exact MeetingTable.mem_erase_of_ne (hr x rfl)
  · exact MeetingTable.mem_setState_of_ne m hms (hr _ hx)

/-- A stored meeting destroyed with a working database: its row is gone. -/
theorem dispatch_commits_destroy :
    (dispatch Db.ok (.meetingDestroyed "x")
        (.single ⟨"m", "x", none, none, ⟨"m", "x", true, none⟩, none, none, none⟩)).2 =
      committedTable (.meetingDestroyed "x")
        (.single ⟨"m", "x", none, none, ⟨"m", "x", true, none⟩, none, none, none⟩) ∧
    committedTable (.meetingDestroyed "x")
        (.single ⟨"m", "x", none, none, ⟨"m", "x", true, none⟩, none, none, none⟩) = .empty :=
  ⟨(dispatch_commits_only_event_row _ _ _).2.1 rfl, by decide⟩

/-! ## The attendee ids as a set -/

/-- The set of attendee ids an event leaves, in the terms of the set
    semantics: a join inserts the user, a leave removes it, the end of the
    meeting clears the set. -/
def attendeeSet : Bbb.Event → Finset String → Finset String
  | .userJoinedMeeting _ a, s => insert a.internalUserID s
  | .userLeftMeeting _ u, s => s.erase u
  | .meetingEnded _, _ => ∅
  | _, s => s

/-- The events of a run whose `Dispatch` returned `nil`, in order. -/
def committedEvents : MeetingTable → List (Db × Bbb.Event) → List Bbb.Event
  | _, [] => []
  | t, (db, e) :: run =>
    match dispatch db e t with
    | (.ok (), t') => e :: committedEvents t' run
    | (.error _, t') => committedEvents t' run

/-- What the handlers' `change` does to the set of attendee ids. -/
theorem userIDs_change_set {e : Bbb.Event} {m m' : Bbb.Meeting} (h : change e m = some m') :
    m'.userIDs.toFinset = attendeeSet e m.userIDs.toFinset := by
  cases e with
  | meetingCreated => cases h; rfl
  | meetingEnded => cases h; rfl
  | userJoinedMeeting y a =>
    cases h
    ext u
    simp [attendeeSet, addAttendee, Bbb.Meeting.userIDs, or_comm]
  | userLeftMeeting y v =>
    simp only [change, removeAttendee, Option.map_eq_some'] at h
    obtain ⟨as, has, rfl⟩ := h
    ext u
    simp only [attendeeSet, Bbb.Meeting.userIDs, has, Option.getD_some, List.mem_toFinset,
      Finset.mem_erase, List.mem_map, List.mem_filter, bne_iff_ne, ne_eq]
    constructor
    · rintro ⟨a, ⟨ha, hv⟩, rfl⟩; exact ⟨hv, a, ha, rfl⟩
    · rintro ⟨hv, a, ha, rfl⟩; exact ⟨a, ⟨ha, hv⟩, rfl⟩
  | meetingDestroyed => cases h
  | other => cases h

/-- A change that saves nothing leaves the set as it is: only a leave from
    a `nil` list, whose set is empty. -/
theorem attendeeSet_of_change_none {e : Bbb.Event} {m : Bbb.Meeting} (hu : e.internalMeetingID.isSome)
    (h : change e m = none) : attendeeSet e m.userIDs.toFinset = m.userIDs.toFinset := by
  cases e with
  | userLeftMeeting y v =>
    simp only [change, removeAttendee, Option.map_eq_none'] at h
    simp [attendeeSet, Bbb.Meeting.userIDs, h]
  | meetingDestroyed => rfl
  | other => cases hu
  | _ => cases h

/-! ## A run of events for one meeting -/

/-- The body the join, leave and create handlers share, on a stored
    meeting: it saves nothing, or writes the changed state into the row. -/
theorem updateMeeting_found {db : Db} {t : MeetingTable} {x : String} {ms : MeetingState}
    {f : Bbb.Meeting → Option Bbb.Meeting} {tx : Tx}
    (hf : t.rows.find? (·.internalID == x) = some ms)
    (h : updateMeeting db ⟨t, false⟩ (getMeetingState db t (·.internalID == x)) f = .ok tx) :
    f ms.meeting = none ∧ tx = ⟨t, false⟩ ∨
      ∃ m, f ms.meeting = some m ∧ tx = ⟨t.setState ms.id m, false⟩ := by
  obtain rfl := updateMeeting_commits h
  simp only [writeMeeting, hf]
  cases f ms.meeting with
  | none => exact .inl ⟨rfl, rfl⟩
  | some m => exact .inr ⟨m, rfl, rfl⟩

/-- How a handler for a stored meeting succeeds. -/
theorem handle_found {db : Db} {t : MeetingTable} {e : Bbb.Event} {x : String}
    {ms : MeetingState} {tx : Tx} (hu : updatesMeeting x e)
    (hf : t.rows.find? (·.internalID == x) = some ms) (h : handle db ⟨t, false⟩ e = .ok tx) :
    change e ms.meeting = none ∧ tx = ⟨t, false⟩ ∨
      ∃ m, change e ms.meeting = some m ∧ tx = ⟨t.setState ms.id m, false⟩ := by
  cases e with
  | meetingCreated y => obtain rfl := beq_iff_eq.1 hu; exact updateMeeting_found hf h
  | userJoinedMeeting y => obtain rfl := beq_iff_eq.1 hu; exact updateMeeting_found hf h
  | userLeftMeeting y => obtain rfl := beq_iff_eq.1 hu; exact updateMeeting_found hf h
  | meetingEnded y =>
    obtain rfl := beq_iff_eq.1 hu
    simp only [handle, onMeetingEnded, awaitInternalMeeting, getMeetingState] at h
    cases hl : db.lookup <;> simp only [hl, hf, reduceCtorEq] at h
    obtain ⟨-, rfl⟩ := Tx.save_ok h
    exact .inr ⟨_, rfl, rfl⟩
  | meetingDestroyed => cases hu
  | other => cases hu

/-- One dispatch of an event for a stored meeting: a committed one applies
    `attendeeSet` to its ids, any other leaves the table as it was. -/
theorem dispatch_found {db : Db} {e : Bbb.Event} {t : MeetingTable} {x : String}
    {ms : MeetingState} (hu : updatesMeeting x e) (hf : t.rows.find? (·.internalID == x) = some ms)
    (h : (dispatch db e t).1 = .ok ()) :
    ∃ ms', (dispatch db e t).2.rows.find? (·.internalID == x) = some ms' ∧ ms'.id = ms.id ∧
      ms'.meeting.userIDs.toFinset = attendeeSet e ms.meeting.userIDs.toFinset := by
  obtain ⟨t', hh, hd⟩ := dispatch_ok h
  rw [hd]
  rcases handle_found hu hf hh with ⟨hc, ht⟩ | ⟨m, hc, ht⟩ <;> simp only [Tx.mk.injEq, and_true] at ht <;>
    subst ht
  · have hx : e.internalMeetingID.isSome := by cases e <;> first | rfl | cases hu
    exact ⟨ms, hf, rfl, (attendeeSet_of_change_none hx hc).symm⟩
  · refine ⟨{ ms with meeting := m }, ?_, rfl, userIDs_change_set hc⟩
    rw [MeetingTable.find?_setState _ _ _ (by simp), hf]
    simp [MeetingState.withMeeting]

theorem attendees_run (x : String) :
    ∀ (run : List (Db × Bbb.Event)) (t : MeetingTable) (ms : MeetingState),
      (∀ p ∈ run, updatesMeeting x p.2) → t.rows.find? (·.internalID == x) = some ms →
      ∃ ms', (dispatchAll run t).rows.find? (·.internalID == x) = some ms' ∧ ms'.id = ms.id ∧
        ms'.meeting.userIDs.toFinset =
          (committedEvents t run).foldl (fun s e => attendeeSet e s) ms.meeting.userIDs.toFinset
  | [], _, ms, _, hf => ⟨ms, hf, rfl, rfl⟩
  | (db, e) :: run, t, ms, hu, hf => by
    have hrun : ∀ p ∈ run, updatesMeeting x p.2 := fun p hp => hu p (List.mem_cons_of_mem _ hp)
    have hall : dispatchAll ((db, e) :: run) t = dispatchAll run (dispatch db e t).2 := rfl
    rcases hd : dispatch db e t with ⟨_ | _, t'⟩
    · -- the dispatch failed: nothing changed
      have ht : (dispatch db e t).2 = t := dispatch_error (by simp [hd])
      rw [hd] at ht
      subst ht
      simp only [hall, hd, committedEvents]
      exact attendees_run x run _ ms hrun hf
    · have hok : (dispatch db e t).1 = .ok () := by simp [hd]
      obtain ⟨ms', hf', hid, hs⟩ := dispatch_found (hu (db, e) (List.mem_cons_self _ _)) hf hok
      rw [hd] at hf'
      obtain ⟨ms'', hf'', hid', hs'⟩ := attendees_run x run t' ms' hrun hf'
      refine ⟨ms'', by rw [hall, hd]; exact hf'', hid'.trans hid, ?_⟩
      simp only [committedEvents, hd, List.foldl_cons, ← hs]
      exact hs'

/-- With a working database every event of a run for a stored meeting is
    committed. -/
theorem committedEvents_of_works (x : String) :
    ∀ (run : List (Db × Bbb.Event)) (t : MeetingTable) (ms : MeetingState),
      (∀ p ∈ run, updatesMeeting x p.2) → (∀ p ∈ run, p.1.works) →
      t.rows.find? (·.internalID == x) = some ms → committedEvents t run = run.map Prod.snd
  | [], _, _, _, _, _ => rfl
  | (db, e) :: run, t, ms, hu, hw, hf => by
    have hue := hu (db, e) (List.mem_cons_self _ _)
    have hok : (dispatch db e t).1 = .ok () := by
      rcases dispatch_works (hw (db, e) (List.mem_cons_self _ _)) e t with h | ⟨y, rfl, hy, -⟩
      · rw [h]
      · obtain rfl := beq_iff_eq.1 hue
        exact absurd (by simpa using List.find?_some hf) (hy ms (List.mem_of_find?_eq_some hf))
    obtain ⟨ms', hf', -, -⟩ := dispatch_found hue hf hok
    rcases hd : dispatch db e t with ⟨_ | _, t'⟩
    · rw [hd] at hok; cases hok
    · rw [hd] at hf'
      simp only [committedEvents, hd, List.map_cons]
      exact congrArg _ (committedEvents_of_works x run t' ms'
        (fun p hp => hu p (List.mem_cons_of_mem _ hp)) (fun p hp => hw p (List.mem_cons_of_mem _ hp)) hf')

/-- **Attendee ids follow the set semantics.** For a stored meeting with
    internal id `x` and every run of `MeetingCreated`, `MeetingEnded`,
    `UserJoinedMeeting` and `UserLeftMeeting` events for `x`, whatever the
    database does, the meeting's row is still stored afterwards, and the
    internal user ids of its attendee list are the set obtained from the ids
    it started with by inserting the user of each committed join, removing
    the user of each committed leave and clearing the set at each committed
    end, in order; with a working database every event of the run is
    committed. -/
theorem attendee_ids_follow_events (x : String) (t : MeetingTable) (r : MeetingState)
    (hr : r ∈ t.rows) (hx : r.internalID = x) (run : List (Db × Bbb.Event))
    (hrun : ∀ p ∈ run, updatesMeeting x p.2) :
    (∃ r' ∈ (dispatchAll run t).rows, r'.id = r.id ∧ r'.internalID = x ∧
      r'.meeting.userIDs.toFinset =
        (committedEvents t run).foldl (fun s e => attendeeSet e s) r.meeting.userIDs.toFinset) ∧
    ((∀ p ∈ run, p.1.works) → committedEvents t run = run.map Prod.snd) := by
  subst hx
  have hf := MeetingTable.find?_internalID hr
  obtain ⟨r', hf', hid, hs⟩ := attendees_run _ run t r hrun hf
  exact ⟨⟨r', List.mem_of_find?_eq_some hf', hid, by simpa using List.find?_some hf', hs⟩,
    fun hw => committedEvents_of_works _ run t r hrun hw hf⟩

/-- Two joins and a leave on a working database: all three are committed. -/
theorem attendee_ids_join_leave :
    (∃ r' ∈ (dispatchAll [(Db.ok, .userJoinedMeeting "x" ⟨"u", "u", "U"⟩),
        (Db.ok, .userJoinedMeeting "x" ⟨"v", "v", "V"⟩), (Db.ok, .userLeftMeeting "x" "u")]
        (.single ⟨"m", "x", none, none, ⟨"m", "x", true, none⟩, none, none, none⟩)).rows,
      r'.id = "m" ∧ r'.internalID = "x" ∧
      r'.meeting.userIDs.toFinset =
        (committedEvents (.single ⟨"m", "x", none, none, ⟨"m", "x", true, none⟩, none, none, none⟩)
          [(Db.ok, .userJoinedMeeting "x" ⟨"u", "u", "U"⟩),
            (Db.ok, .userJoinedMeeting "x" ⟨"v", "v", "V"⟩), (Db.ok, .userLeftMeeting "x" "u")]).foldl
          (fun s e => attendeeSet e s) (Bbb.Meeting.userIDs ⟨"m", "x", true, none⟩).toFinset) ∧
    committedEvents (.single ⟨"m", "x", none, none, ⟨"m", "x", true, none⟩, none, none, none⟩)
        [(Db.ok, .userJoinedMeeting "x" ⟨"u", "u", "U"⟩),
          (Db.ok, .userJoinedMeeting "x" ⟨"v", "v", "V"⟩), (Db.ok, .userLeftMeeting "x" "u")] =
      [.userJoinedMeeting "x" ⟨"u", "u", "U"⟩, .userJoinedMeeting "x" ⟨"v", "v", "V"⟩,
        .userLeftMeeting "x" "u"] :=
  have h := attendee_ids_follow_events "x" _
    ⟨"m", "x", none, none, ⟨"m", "x", true, none⟩, none, none, none⟩ (List.mem_singleton_self _) rfl
    [(Db.ok, .userJoinedMeeting "x" ⟨"u", "u", "U"⟩), (Db.ok, .userJoinedMeeting "x" ⟨"v", "v", "V"⟩),
      (Db.ok, .userLeftMeeting "x" "u")] (by decide)
  ⟨h.1, h.2 (by decide)⟩

end Node
end B3scale
