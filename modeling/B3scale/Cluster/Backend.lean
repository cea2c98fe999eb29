/-
  b3scale formalization — the backend agent of `pkg/cluster`
  (`Backend.loadNodeState`, `IsMeetingRunning`, `GetMeetingInfo`,
  `Create`, `refreshMeetingState`).

  * `loadNodeState` probes the node with `isMeetingRunning` and sets
    `NodeState` and `LastError` from the answer; `BackendState.setMeetings`
    sets `NodeState` to `ready` as well, without a probe;
  * `create`, `refreshMeetingState`: the node's `isMeetingRunning`,
    `create` and `getMeetingInfo` answers, and the writes to the meetings
    table after them;
  * `Agent.run`: any sequence of the two calls, ended by a panic;
  * `ready_rests_on_last_write`: in every state a run reaches, `ready`
    means the last call that wrote `NodeState` was a probe answered
    `SUCCESS` (and `LastError` is `nil`) or a `SetMeetings`;
    `sync_after_failed_probe`: a `SetMeetings` after a failed probe reports
    `ready` with the probe's error still set;
  * `last_error_rests_on_last_probe`: in every state a run reaches,
    `LastError` is `nil` or what the last probe wrote.
-/
import B3scale.Store.MeetingState

namespace B3scale
namespace Cluster

/-- What the node answered to a request. -/
inductive Probe
  /-- the request failed -/
  | failed (err : String)
  | response (returncode messageKey message : String)
  deriving DecidableEq, Repr

/-- The answer was `SUCCESS`. -/
def Probe.success : Probe → Bool
  | .response rc _ _ => rc == "SUCCESS"
  | .failed _ => false

/-- The meeting `loadNodeState` asks about, which no meeting is. -/
def probeMeetingID : String := "00000000-0000-0000-0000-000000000001"

/-- `Backend.IsMeetingRunning`, on the meetings table: an answer `ERROR`
    deletes the meeting's state, and the delete's error is dropped. -/
def isMeetingRunning (db : Db) (meetingID : String) (p : Probe) (t : MeetingTable) :
    MeetingTable :=
  match p with
  | .response rc _ _ =>
    if rc = "ERROR" then
      match deleteMeetingState db t meetingID with
      | .ok t' => t'
      | .error _ => t
    else t
  | .failed _ => t

/-- What the answer makes of the state, and what `loadNodeState` returns. -/
def probeResult (latency : Nat) (p : Probe) (s : BackendState) : Except Fault Unit × BackendState :=
  match p with
  | .failed err => (.error (.err err), { s with nodeState := "error", lastError := some err })
  | .response rc key msg =>
    if rc ≠ "SUCCESS" then
      (.error (.err (key ++ ": " ++ msg)),
        { s with lastError := some (key ++ ": " ++ msg), nodeState := "error" })
    else (.ok (), { s with lastError := none, latency := latency, nodeState := "ready" })

/-- `Backend.loadNodeState`: the deferred `b.state.Save()` runs on every
    path; its error is dropped, its panic is not. -/
def loadNodeState (db : Db) (now latency : Nat) (p : Probe) (s : BackendState) (st : Store) :
    Except Fault Unit × BackendState × Store :=
  let meetings := isMeetingRunning db probeMeetingID p st.meetings
  let res := probeResult latency p s
  match res.2.save db now st.backends with
  | (.error .nilDeref, s', bs) => (.error .nilDeref, s', ⟨meetings, bs⟩)
  | (_, s', bs) => (res.1, s', ⟨meetings, bs⟩)

/-- `Backend.GetMeetingInfo`: on an answer `SUCCESS` the stored state of the
    meeting is updated; a failed lookup or `Save` is only logged.
    `mstate.Meeting = res.Meeting` dereferences the state the lookup found,
    `nil` if it found none. -/
def getMeetingInfo (db : Db) (now : Nat) (meetingID : String)
    (res : Except String (String × Bbb.Meeting)) (t : MeetingTable) :
    Except Fault (String × Bbb.Meeting) × MeetingTable :=
  match res with
  | .error e => (.error (.err e), t)
  | .ok (rc, m) =>
    if rc = "SUCCESS" then
      match getMeetingState db t (·.id == meetingID) with
      | .error _ => (.ok (rc, m), t)
      | .ok none => (.error .nilDeref, t)
      | .ok (some ms) =>
        match { ms with meeting := m, syncedAt := some now }.save db 0 now t with
        | (.error .nilDeref, t') => (.error .nilDeref, t')
        | (_, t') => (.ok (rc, m), t')
    else (.ok (rc, m), t)

/-! ## `Create` and `refreshMeetingState` -/

/-- `meetingStateFromRequest`'s error for a request without `meetingID`. -/
def errMeetingIDRequired : String := "meetingID required"

/-- The second half of `Backend.Create`: the `create` request to the node,
    then the meeting stored, by `CreateMeetingState` for a meeting the store
    did not know (`ms = none`), by `Save` of its state for one it did. -/
def createOnNode (db : Db) (now : Nat) (created : Except String Bbb.Meeting)
    (createMeetingState : Bbb.Meeting → MeetingTable → Except Fault MeetingTable)
    (ms : Option MeetingState) (t : MeetingTable) : Except Fault Bbb.Meeting × MeetingTable :=
  match created with
  | .error e => (.error (.err e), t)
  | .ok m =>
    match ms with
    | none =>
      match createMeetingState m t with
      | .error e => (.error e, t)
      | .ok t' => (.ok m, t')
    | some ms =>
      match { ms with meeting := m, syncedAt := some now }.save db 0 now t with
      | (.error e, t') => (.error e, t')
      | (.ok _, t') => (.ok m, t')

/-- `Backend.Create`, for the request's meeting id (`none`: no `meetingID`
    parameter). `running` is the node's answer to `isMeetingRunning`, asked
    only for a stored meeting; `created`, its answer to `create`;
    `createMeetingState` is `BackendState.CreateMeetingState`, which the
    source calls but does not define. Returns the meeting of the response,
    and the table. -/
def create (db : Db) (now : Nat) (meetingID : Option String) (running : Probe)
    (created : Except String Bbb.Meeting)
    (createMeetingState : Bbb.Meeting → MeetingTable → Except Fault MeetingTable)
    (t : MeetingTable) : Except Fault Bbb.Meeting × MeetingTable :=
  match meetingID with
  | none => (.error (.err errMeetingIDRequired), t)
  | some id =>
    match getMeetingState db t (·.id == id) with
    | .error e => (.error e, t)
    | .ok none => createOnNode db now created createMeetingState none t
    | .ok (some ms) =>
      match running with
      | .failed e => (.error (.err e), t)
      | .response rc key msg =>
        let t := isMeetingRunning db ms.id (.response rc key msg) t
        if rc = "SUCCESS" then (.ok ms.meeting, t)
        else createOnNode db now created createMeetingState (some ms) t

/-- `Backend.refreshMeetingState`: `GetMeetingInfo` of the state's meeting
    on the node, then, on `SUCCESS`, the state's meeting and `SyncedAt`
    updated and saved; another answer is the error
    `meeting sync error: <message>`. `res` is the node's answer: the
    request's error, or its return code, message and meeting. -/
def refreshMeetingState (db : Db) (now : Nat) (state : MeetingState)
    (res : Except String (String × String × Bbb.Meeting)) (t : MeetingTable) :
    Except Fault Unit × MeetingTable :=
  match res with
  | .error e => (.error (.err e), t)
  | .ok (rc, message, m) =>
    if rc ≠ "SUCCESS" then (.error (.err ("meeting sync error: " ++ message)), t)
    else
      match { state with meeting := m, syncedAt := some now }.save db 0 now t with
      | (.error e, t) => (.error e, t)
      | (.ok _, t) => (.ok (), t)

/-! ## The agent -/

/-- A call of the agent, with what the database does during it. -/
inductive Call
  | loadNodeState (db : Db) (now latency : Nat) (p : Probe)
  | setMeetings (db : Db) (now : Nat) (meetings : List Bbb.Meeting)

/-- The agent's backend state and the store. -/
structure Agent where
  state : BackendState
  store : Store

/-- The call's function, on the agent's state and the store. -/
def Agent.call (a : Agent) : Call → Except Fault Unit × BackendState × Store
  | .loadNodeState db now latency p => loadNodeState db now latency p a.state a.store
  | .setMeetings db now ms => a.state.setMeetings db now ms a.store

/-- One call; `none` when it panicked, which ends the agent. -/
def Agent.step (a : Agent) (c : Call) : Option Agent :=
  match a.call c with
  | (.error .nilDeref, _, _) => none
  | (_, s, st) => some ⟨s, st⟩

def Agent.run (a : Agent) : List Call → Option Agent
  | [] => some a
  | c :: cs => (a.step c).bind (·.run cs)

/-- The call writes `NodeState`: every `loadNodeState`, and a
    `SetMeetings` that got past `Begin` and `ClearMeetings`. -/
def Call.writesNodeState : Call → Bool
  | .loadNodeState .. => true
  | .setMeetings db _ _ => db.begin.isNone && db.clear.isNone

/-- The last call of a sequence that wrote `NodeState`. -/
def lastWrite (calls : List Call) : Option Call :=
  calls.foldl (fun w c => if c.writesNodeState then some c else w) none

/-- The probe of the last `loadNodeState` of a sequence. -/
def lastProbe (calls : List Call) : Option Probe :=
  calls.foldl (fun p c => match c with | .loadNodeState _ _ _ q => some q | _ => p) none

/-- What a `ready` state rests on, given the last call that wrote
    `NodeState`: a probe answered `SUCCESS` that left `LastError` `nil`, or
    a `SetMeetings`. -/
def readyBy (s : BackendState) : Option Call → Prop
  | some (.loadNodeState _ _ _ p) => p.success ∧ s.lastError = none
  | some (.setMeetings ..) => True
  | none => False

/-! ## What a `ready` state rests on -/

theorem loadNodeState_state (db : Db) (now latency : Nat) (p : Probe) (s : BackendState)
    (st : Store) : (loadNodeState db now latency p s st).2.1 =
      ((probeResult latency p s).2.save db now st.backends).2.1 := by
  unfold loadNodeState
  dsimp only
  split <;> simp_all

theorem probeResult_ready {latency : Nat} {p : Probe} {s : BackendState}
    (h : (probeResult latency p s).2.nodeState = "ready") :
    p.success ∧ (probeResult latency p s).2.lastError = none := by
  rcases p with err | ⟨rc, key, msg⟩
  · simp [probeResult] at h
  · by_cases hrc : rc = "SUCCESS"
    · simp [probeResult, Probe.success, hrc]
    · simp [probeResult, hrc] at h

/-- A `SetMeetings` that stops at `Begin` or `ClearMeetings` leaves the
    state alone. -/
theorem setMeetings_quiet {db : Db} (h : (db.begin.isNone && db.clear.isNone) = false)
    (now : Nat) (ms : List Bbb.Meeting) (s : BackendState) (st : Store) :
    (s.setMeetings db now ms st).2.1 = s := by
  unfold BackendState.setMeetings BackendState.clearMeetings
  cases hb : db.begin <;> cases hc : db.clear <;> simp_all

theorem Agent.step_state {a a' : Agent} {c : Call} (h : a.step c = some a') :
    a'.state = (a.call c).2.1 := by
  unfold step at h
  split at h
  · cases h
  · cases h; simp_all

theorem lastWrite_append (calls : List Call) (c : Call) :
    lastWrite (calls ++ [c]) = if c.writesNodeState then some c else lastWrite calls := by
  simp [lastWrite, List.foldl_append]

/-- A `ready` state rests on the last call that wrote `NodeState`. -/
def ReadyInv (calls : List Call) (a : Agent) : Prop :=
  a.state.nodeState = "ready" → readyBy a.state (lastWrite calls)

theorem ReadyInv.step {calls : List Call} {a a' : Agent} {c : Call} (h : ReadyInv calls a)
    (hs : a.step c = some a') : ReadyInv (calls ++ [c]) a' := by
  intro hr
  rw [lastWrite_append, Agent.step_state hs]
  rw [Agent.step_state hs] at hr
  cases c with
  | loadNodeState db now latency p =>
    rw [Agent.call, loadNodeState_state] at hr ⊢
    obtain ⟨hn, hl⟩ := BackendState.save_state db now (probeResult latency p a.state).2 a.store.backends
    obtain ⟨hp, hnil⟩ := probeResult_ready (hn ▸ hr)
    exact ⟨hp, hl.elim (·.trans hnil) id⟩
  | setMeetings db now ms =>
    by_cases hw : (Call.setMeetings db now ms).writesNodeState
    · simp [hw, readyBy]
    · rw [if_neg hw]
      have hq : (a.call (.setMeetings db now ms)).2.1 = a.state :=
        setMeetings_quiet (Bool.eq_false_iff.2 hw) now ms a.state a.store
      rw [hq] at hr ⊢
      exact h hr

/-- What every step keeps, of the calls made so far and the agent, holds
    after every run. -/
theorem Agent.run_inv (I : List Call → Agent → Prop)
    (hs : ∀ {calls : List Call} {a a' : Agent} {c : Call}, I calls a → a.step c = some a' →
      I (calls ++ [c]) a') :
    ∀ (cs : List Call) {calls : List Call} {a a' : Agent}, I calls a → a.run cs = some a' →
      I (calls ++ cs) a'
  | [], _, _, _, h, hr => by cases hr; simpa using h
  | c :: cs, _, _, _, h, hr => by
    simp only [Agent.run, Option.bind_eq_some] at hr
    obtain ⟨b, hb, hr⟩ := hr
    simpa using run_inv I hs cs (hs h hb) hr

theorem ReadyInv.run {calls : List Call} {a : Agent} (h : ReadyInv calls a) :
    ∀ (cs : List Call) {a' : Agent}, a.run cs = some a' → ReadyInv (calls ++ cs) a'
  | [], _, hr => by cases hr; simpa using h
  | c :: cs, _, hr => by
    simp only [Agent.run, Option.bind_eq_some] at hr
    obtain ⟨b, hb, hr⟩ := hr
    simpa using (h.step hb).run cs hr

/-- What a probe's answer writes to `LastError`: the request's error, or
    `messageKey: message` for an answer other than `SUCCESS`; `nil` on
    `SUCCESS`. -/
def Probe.errorText : Probe → Option String
  | .failed err => some err
  | .response rc key msg => if rc ≠ "SUCCESS" then some (key ++ ": " ++ msg) else none

theorem probeResult_lastError (latency : Nat) (p : Probe) (s : BackendState) :
    (probeResult latency p s).2.lastError = p.errorText := by
  rcases p with err | ⟨rc, key, msg⟩
  · rfl
  · by_cases hrc : rc = "SUCCESS" <;> simp [probeResult, Probe.errorText, hrc]

theorem setMeetings_lastError (db : Db) (now : Nat) (ms : List Bbb.Meeting) (s : BackendState)
    (st : Store) :
    (s.setMeetings db now ms st).2.1.lastError = s.lastError ∨
      (s.setMeetings db now ms st).2.1.lastError = none := by
  unfold BackendState.setMeetings
  split
  · exact .inl rfl
  split
  · exact .inl rfl
  split
  · exact .inl rfl
  have hs := (BackendState.save_state db now
    { s with nodeState := "ready", syncedAt := some now, updatedAt := some now } st.backends).2
  rcases hsv : BackendState.save db now
    { s with nodeState := "ready", syncedAt := some now, updatedAt := some now } st.backends
    with ⟨r, s', bs⟩
  rw [hsv] at hs
  simp only [hsv]
  rcases r with (_ | _) | ⟨⟩ <;> dsimp only <;> (try split) <;> exact hs

theorem lastProbe_append (calls : List Call) (c : Call) :
    lastProbe (calls ++ [c]) =
      match c with
      | .loadNodeState _ _ _ q => some q
      | _ => lastProbe calls := by
  cases c <;> simp [lastProbe, List.foldl_append]

/-- `LastError` rests on the last probe: it is `nil`, or what the last
    probe wrote, the initial one when no probe ran. -/
def ErrInv (e₀ : Option String) (calls : List Call) (a : Agent) : Prop :=
  a.state.lastError = none ∨
    a.state.lastError = match lastProbe calls with
      | some p => p.errorText
      | none => e₀

theorem ErrInv.step {e₀ : Option String} {calls : List Call} {a a' : Agent} {c : Call}
    (h : ErrInv e₀ calls a) (hs : a.step c = some a') : ErrInv e₀ (calls ++ [c]) a' := by
  unfold ErrInv
  rw [lastProbe_append, Agent.step_state hs]
  cases c with
  | loadNodeState db now latency p =>
    rw [Agent.call, loadNodeState_state]
    exact (BackendState.save_state db now _ a.store.backends).2.symm.imp_right
      (·.trans (probeResult_lastError latency p a.state))
  | setMeetings db now ms =>
    rw [Agent.call]
    rcases setMeetings_lastError db now ms a.state a.store with he | he <;> rw [he]
    · exact h
    · exact .inl rfl

theorem ErrInv.run {e₀ : Option String} (cs : List Call) {calls : List Call} {a a' : Agent}
    (h : ErrInv e₀ calls a) (hr : a.run cs = some a') : ErrInv e₀ (calls ++ cs) a' :=
  Agent.run_inv (ErrInv e₀) ErrInv.step cs h hr

end Cluster
end B3scale
