/-
  b3scale formalization — what `BackendState.SetMeetings` leaves in the
  `meetings` table (`pkg/store/meeting_state.go`).

  `SetMeetings` begins a transaction and commits it, but runs no statement in
  it: `ClearMeetings`, the `Save` of each meeting and the backend's `Save` go
  through the pool, each committed on its own, and the error of every `Save`
  is dropped.

  * `saveMeetings_ok`: the loop over the meetings never panics, so it
    never stops early;
  * `set_meetings_outside_tx`: once `Begin` and the `DELETE` succeed, the
    table afterwards is the cleared table with what the inserts left,
    whatever `SetMeetings` returns; and it returns `nil` exactly when its
    `COMMIT` succeeds and the backend's `Save` does not panic, whatever the
    inserts did;
  * `set_meetings_replaces_backend_rows`: the rows of other backends are
    kept, every row of the backend is one of the meetings', and when every
    `INSERT` succeeds on fresh ids the backend's rows are the meetings, in
    order.
-/
import B3scale.Store.MeetingState

namespace B3scale

theorem MeetingTable.insert_ok {t t' : MeetingTable} {r : MeetingState} (h : t.insert r = .ok t') :
    t'.rows = t.rows ++ [r] := by
  unfold insert at h
  split_ifs at h
  cases h; rfl

theorem MeetingState.insert_ok {db : Db} {i now : Nat} {s : MeetingState} {t t' : MeetingTable}
    (h : s.insert db i now t = .ok t') : ∃ r, t'.rows = t.rows ++ [r] ∧ r.id = s.meeting.meetingID := by
  unfold MeetingState.insert at h
  cases hi : db.insert i <;> simp only [hi, reduceCtorEq] at h
  exact ⟨_, MeetingTable.insert_ok h, rfl⟩

/-- An `INSERT` fails with an error, never a panic. -/
theorem MeetingState.insert_error {db : Db} {i now : Nat} {s : MeetingState} {t : MeetingTable}
    {e : Fault} (h : s.insert db i now t = .error e) : e ≠ .nilDeref := by
  unfold MeetingState.insert MeetingTable.insert at h
  cases hi : db.insert i <;> simp only [hi, Except.error.injEq] at h
  · split_ifs at h; cases h; nofun
  · cases h; nofun

/-- `Save` of a meeting never stored does not panic: its `Refresh` reads
    the row the `INSERT` just wrote. -/
theorem MeetingState.save_new {db : Db} {i now : Nat} {s : MeetingState} {t : MeetingTable}
    (hc : s.createdAt = none) : (s.save db i now t).1 ≠ .error .nilDeref := by
  unfold save
  rw [hc]
  rcases hi : s.insert db i now t with e | t'
  · exact fun h => MeetingState.insert_error hi (by simpa using h)
  · obtain ⟨r, hrows, hid⟩ := MeetingState.insert_ok hi
    simp only [refresh]
    cases db.refresh
    · rw [hrows, List.find?_append]
      cases List.find? _ t.rows <;> simp [hid]
    · simp

/-- The loop of `SetMeetings` runs to its end. -/
theorem saveMeetings_ok (db : Db) (now : Nat) (s : BackendState) :
    ∀ (i : Nat) (ms : List Bbb.Meeting) (t : MeetingTable), (saveMeetings db now s i ms t).1 = .ok ()
  | _, [], _ => rfl
  | i, m :: ms, t => by
    unfold saveMeetings
    dsimp only
    split
    · rename_i h; exact absurd (congrArg Prod.fst h) (MeetingState.save_new rfl)
    · exact saveMeetings_ok db now s (i + 1) ms _

/-- **`SetMeetings` is not atomic.** For every store, backend state and
    list of meetings, whatever the database does after `Begin` and the
    `DELETE` of `ClearMeetings` succeed: the `meetings` table afterwards is
    the backend's rows deleted and the inserts that succeeded added,
    whatever `SetMeetings` returns; and it returns `nil` exactly when its
    `COMMIT` succeeds and the backend's `Save` does not panic, however many
    inserts failed. -/
theorem set_meetings_outside_tx (db : Db) (now : Nat) (ms : List Bbb.Meeting) (s : BackendState)
    (st : Store) (hb : db.begin = none) (hc : db.clear = none) :
    (s.setMeetings db now ms st).2.2.meetings =
      (saveMeetings db now s 0 ms (st.meetings.erase (·.backendID == some s.id))).2 ∧
    ((s.setMeetings db now ms st).1 = .ok () ↔
      db.commit = none ∧
        (({ s with nodeState := "ready", syncedAt := some now, updatedAt := some now }.save db now
          st.backends).1 ≠ .error .nilDeref)) := by
  unfold BackendState.setMeetings BackendState.clearMeetings
  simp only [hb, hc]
  rcases hs : saveMeetings db now s 0 ms (st.meetings.erase (·.backendID == some s.id)) with ⟨r, t⟩
  have hr := saveMeetings_ok db now s 0 ms (st.meetings.erase (·.backendID == some s.id))
  rw [hs] at hr
  obtain rfl : r = .ok () := hr
  dsimp only
  rcases BackendState.save db now
    { s with nodeState := "ready", syncedAt := some now, updatedAt := some now } st.backends with
    ⟨(⟨_ | _⟩ | ⟨⟩), s', bs⟩ <;> cases db.commit <;> simp

/-- A failed `COMMIT` returns its error after the backend's meeting row is
    deleted; a failed `INSERT` returns `nil` with the meeting missing. -/
theorem set_meetings_commit_fails :
    ((BackendState.setMeetings { Db.ok with commit := some "conn closed" } 2 []
        ⟨"b", "ready", "ready", none, "h", "k", [], 0, some 1, none, none⟩
        ⟨.single ⟨"m", "x", none, some "b", ⟨"m", "x", true, none⟩, some 1, none, none⟩,
          ⟨[⟨"b", "ready", "ready", none, "h", "k", [], 0, some 1, none, none⟩],
            List.nodup_singleton _⟩⟩).1 ≠ .ok () ∧
      (BackendState.setMeetings { Db.ok with commit := some "conn closed" } 2 []
        ⟨"b", "ready", "ready", none, "h", "k", [], 0, some 1, none, none⟩
        ⟨.single ⟨"m", "x", none, some "b", ⟨"m", "x", true, none⟩, some 1, none, none⟩,
          ⟨[⟨"b", "ready", "ready", none, "h", "k", [], 0, some 1, none, none⟩],
            List.nodup_singleton _⟩⟩).2.2.meetings = .empty) ∧
    ((BackendState.setMeetings { Db.ok with insert := fun _ => some "boom" } 2 [⟨"m", "x", true, none⟩]
        ⟨"b", "ready", "ready", none, "h", "k", [], 0, some 1, none, none⟩
        ⟨.empty, ⟨[⟨"b", "ready", "ready", none, "h", "k", [], 0, some 1, none, none⟩],
          List.nodup_singleton _⟩⟩).1 = .ok () ∧
      (BackendState.setMeetings { Db.ok with insert := fun _ => some "boom" } 2 [⟨"m", "x", true, none⟩]
        ⟨"b", "ready", "ready", none, "h", "k", [], 0, some 1, none, none⟩
        ⟨.empty, ⟨[⟨"b", "ready", "ready", none, "h", "k", [], 0, some 1, none, none⟩],
          List.nodup_singleton _⟩⟩).2.2.meetings = .empty) :=
  ⟨⟨fun h => absurd ((set_meetings_outside_tx _ _ _ _ _ rfl rfl).2.1 h).1 (by decide),
      (set_meetings_outside_tx _ _ _ _ _ rfl rfl).1.trans (by decide)⟩,
    ⟨(set_meetings_outside_tx _ _ _ _ _ rfl rfl).2.2
        ⟨rfl, fun h => absurd (congrArg Except.toOption h) (by decide)⟩,
      (set_meetings_outside_tx _ _ _ _ _ rfl rfl).1.trans (by decide)⟩⟩

/-! ## What the loop leaves -/

/-- The row `SetMeetings` stores for meeting `m` of backend `s` at `now`. -/
def meetingRow (s : BackendState) (now : Nat) (m : Bbb.Meeting) : MeetingState :=
  ⟨m.meetingID, m.internalMeetingID, none, some s.id, m, some now, none, none⟩

/-- One turn of the loop: the `INSERT` of the meeting's row, kept when it
    succeeds, and nothing else. -/
theorem saveMeetings_cons (db : Db) (now : Nat) (s : BackendState) (i : Nat) (m : Bbb.Meeting)
    (ms : List Bbb.Meeting) (t : MeetingTable) :
    ∃ t₁, (saveMeetings db now s i (m :: ms) t).2 = (saveMeetings db now s (i + 1) ms t₁).2 ∧
      (t₁.rows = t.rows ∨ t₁.rows = t.rows ++ [meetingRow s now m]) ∧
      (db.insert i = none → m.meetingID ∉ t.rows.map MeetingState.id →
        m.internalMeetingID ∉ t.rows.map MeetingState.internalID →
        t₁.rows = t.rows ++ [meetingRow s now m]) := by
  simp only [saveMeetings]
  split
  · rename_i h; exact absurd (congrArg Prod.fst h) (MeetingState.save_new rfl)
  · rename_i x t₁ _ h
    refine ⟨t₁, rfl, ?_⟩
    have ht : t₁ = _ := (congrArg Prod.snd h).symm
    simp only [MeetingState.save, MeetingState.insert] at ht
    cases hi : db.insert i with
    | some e => simp [hi] at ht; subst ht; simp
    | none =>
      simp only [hi] at ht
      unfold MeetingTable.insert at ht
      split_ifs at ht with hf
      · subst ht; exact ⟨.inr rfl, fun _ _ _ => rfl⟩
      · subst ht
        exact ⟨.inl rfl, fun _ h1 h2 => absurd ⟨h1, h2⟩ hf⟩

/-- The loop only appends rows of its own backend, each built from one of
    the meetings. -/
theorem saveMeetings_rows (db : Db) (now : Nat) (s : BackendState) :
    ∀ (i : Nat) (ms : List Bbb.Meeting) (t : MeetingTable), ∃ new,
      (saveMeetings db now s i ms t).2.rows = t.rows ++ new ∧
        ∀ r ∈ new, ∃ m ∈ ms, r = meetingRow s now m
  | _, [], t => ⟨[], by simp [saveMeetings]⟩
  | i, m :: ms, t => by
    obtain ⟨t₁, heq, hrows, -⟩ := saveMeetings_cons db now s i m ms t
    obtain ⟨new, hnew, hmem⟩ := saveMeetings_rows db now s (i + 1) ms t₁
    rw [heq, hnew]
    rcases hrows with h | h <;> rw [h]
    · exact ⟨new, rfl, fun r hr => (hmem r hr).imp fun m' hm' => ⟨.tail _ hm'.1, hm'.2⟩⟩
    · refine ⟨meetingRow s now m :: new, by simp, fun r hr => ?_⟩
      rcases List.mem_cons.1 hr with rfl | hr
      · exact ⟨m, .head _, rfl⟩
      · exact (hmem r hr).imp fun m' hm' => ⟨.tail _ hm'.1, hm'.2⟩

/-- When every `INSERT` succeeds and no meeting's ids are taken, the loop
    appends one row per meeting, in order. -/
theorem saveMeetings_rows_of_fresh {db : Db} (now : Nat) (s : BackendState)
    (hdb : ∀ i, db.insert i = none) :
    ∀ (i : Nat) (ms : List Bbb.Meeting) (t : MeetingTable),
      (ms.map Bbb.Meeting.meetingID).Nodup → (ms.map Bbb.Meeting.internalMeetingID).Nodup →
      (∀ m ∈ ms, m.meetingID ∉ t.rows.map MeetingState.id ∧
        m.internalMeetingID ∉ t.rows.map MeetingState.internalID) →
      (saveMeetings db now s i ms t).2.rows = t.rows ++ ms.map (meetingRow s now)
  | _, [], t, _, _, _ => by simp [saveMeetings]
  | i, m :: ms, t, hid, hint, hfresh => by
    obtain ⟨t₁, heq, -, hins⟩ := saveMeetings_cons db now s i m ms t
    have h₁ := hins (hdb i) (hfresh m (.head _)).1 (hfresh m (.head _)).2
    rw [List.map_cons, List.nodup_cons] at hid hint
    have hfresh₁ : ∀ m' ∈ ms, m'.meetingID ∉ t₁.rows.map MeetingState.id ∧
        m'.internalMeetingID ∉ t₁.rows.map MeetingState.internalID := fun m' hm' => by
      have hne : m'.meetingID ≠ m.meetingID := fun e => hid.1 (e ▸ List.mem_map_of_mem _ hm')
      have hne' : m'.internalMeetingID ≠ m.internalMeetingID :=
        fun e => hint.1 (e ▸ List.mem_map_of_mem _ hm')
      simpa [h₁, meetingRow, hne, hne'] using hfresh m' (.tail _ hm')
    rw [heq, saveMeetings_rows_of_fresh now s hdb (i + 1) ms t₁ hid.2 hint.2 hfresh₁, h₁]
    simp

/-- The meetings table `SetMeetings` leaves once `Begin` and the `DELETE`
    succeed: the cleared table with what the loop added. -/
theorem BackendState.setMeetings_meetings {db : Db} (now : Nat) (ms : List Bbb.Meeting)
    (s : BackendState) (st : Store) (hb : db.begin = none) (hc : db.clear = none) :
    (s.setMeetings db now ms st).2.2.meetings =
      (saveMeetings db now s 0 ms (st.meetings.erase (·.backendID == some s.id))).2 := by
  unfold BackendState.setMeetings BackendState.clearMeetings
  simp only [hb, hc]
  rcases hs : saveMeetings db now s 0 ms (st.meetings.erase (·.backendID == some s.id)) with ⟨r, t⟩
  rcases r with f | ⟨⟩
  · rfl
  · dsimp only
    split <;> [rfl; (split <;> rfl)]

/-- **`SetMeetings` replaces the backend's rows and no other.** For every
    store, backend state, list of meetings and outcome of each `INSERT`, once
    `Begin` and the `DELETE` succeed: a row of another backend is in the
    table afterwards exactly when it was before; every row of the backend is
    the row of one of the meetings; and when every `INSERT` succeeds, the
    meetings' ids are distinct and no row of another backend holds one of
    them, the table is the other backends' rows followed by one row per
    meeting, in order. -/
theorem set_meetings_replaces_backend_rows (db : Db) (now : Nat) (ms : List Bbb.Meeting)
    (s : BackendState) (st : Store) (hb : db.begin = none) (hc : db.clear = none) :
    (∀ r, r.backendID ≠ some s.id →
      (r ∈ (s.setMeetings db now ms st).2.2.meetings.rows ↔ r ∈ st.meetings.rows)) ∧
    (∀ r ∈ (s.setMeetings db now ms st).2.2.meetings.rows, r.backendID = some s.id →
      ∃ m ∈ ms, r = meetingRow s now m) ∧
    ((∀ i, db.insert i = none) → (ms.map Bbb.Meeting.meetingID).Nodup →
      (ms.map Bbb.Meeting.internalMeetingID).Nodup →
      (∀ m ∈ ms, ∀ r ∈ st.meetings.rows, r.backendID ≠ some s.id →
        r.id ≠ m.meetingID ∧ r.internalID ≠ m.internalMeetingID) →
      (s.setMeetings db now ms st).2.2.meetings.rows =
        st.meetings.rows.filter (·.backendID != some s.id) ++ ms.map (meetingRow s now)) := by
  rw [BackendState.setMeetings_meetings now ms s st hb hc]
  obtain ⟨new, hnew, hmem⟩ := saveMeetings_rows db now s 0 ms (st.meetings.erase (·.backendID == some s.id))
  have hown : ∀ r ∈ new, r.backendID = some s.id := fun r hr => by
    obtain ⟨m, -, rfl⟩ := hmem r hr; rfl
  refine ⟨fun r hr => ?_, fun r hr hs => ?_, fun hdb hid hint hfresh => ?_⟩
  · have hkept : (!(r.backendID == some s.id)) = true := by simpa using hr
    rw [hnew, List.mem_append, MeetingTable.erase_rows, List.mem_filter, hkept]
    exact ⟨fun h => h.elim And.left fun h => absurd (hown r h) hr, fun h => .inl ⟨h, rfl⟩⟩
  · rw [hnew, List.mem_append, MeetingTable.erase_rows, List.mem_filter] at hr
    rcases hr with ⟨-, hr⟩ | hr
    · simp [hs] at hr
    · exact hmem r hr
  · refine saveMeetings_rows_of_fresh now s hdb 0 ms _ hid hint fun m hm => ?_
    simp only [MeetingTable.erase_rows, List.mem_map, List.mem_filter]
    refine ⟨fun ⟨r, ⟨hr, hne⟩, e⟩ => ?_, fun ⟨r, ⟨hr, hne⟩, e⟩ => ?_⟩
    · exact (hfresh m hm r hr (by simpa using hne)).1 e
    · exact (hfresh m hm r hr (by simpa using hne)).2 e

/-- Backend `b` reports meeting `m`: its stale row `o` goes, the row of
    backend `c`'s meeting `n` stays, and `m` is stored with the time. -/
theorem set_meetings_keeps_other_backend :
    (BackendState.setMeetings Db.ok 2 [⟨"m", "x", true, none⟩]
        ⟨"b", "ready", "ready", none, "h", "k", [], 0, some 1, none, none⟩
        ⟨⟨[⟨"n", "y", none, some "c", ⟨"n", "y", true, none⟩, some 1, none, none⟩,
            ⟨"o", "z", none, some "b", ⟨"o", "z", true, none⟩, some 1, none, none⟩],
            by decide, by decide⟩,
          ⟨[⟨"b", "ready", "ready", none, "h", "k", [], 0, some 1, none, none⟩],
            List.nodup_singleton _⟩⟩).2.2.meetings.rows =
      [⟨"n", "y", none, some "c", ⟨"n", "y", true, none⟩, some 1, none, none⟩,
        ⟨"m", "x", none, some "b", ⟨"m", "x", true, none⟩, some 2, none, none⟩] :=
  ((set_meetings_replaces_backend_rows _ _ _ _ _ rfl rfl).2.2 (fun _ => rfl) (by decide) (by decide)
    (by decide)).trans (by decide)

end B3scale
