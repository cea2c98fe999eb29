/-
  b3scale formalization — the routing information base kept in Redis
  (`pkg/cluster/rib_redis.go`).

  * `KeySpace`: what Redis stores under each key; `Reply`: what Redis does
    with a command and what the client reads back, a success, a refusal
    that changes nothing, or an error read back for a command Redis applied
    (a lost reply);
  * `setBackend`, `getBackend`, `delete` are `RedisRIB.SetBackend`,
    `GetBackend` and `Delete`; `clusterGetBackend` and `clusterSetBackend`
    are those of `RedisClusterRIB`, which stores under the bare meeting id;
  * `bound`: the abstract map from meeting ids to backend ids that the
    calls Redis applied leave; `RibCall.answer`: what each call returns on
    it;
  * `rib_simulates_bindings`: every run from a key space without meeting
    keys returns, call by call, what the map returns, `SetBackend` and
    `Delete` included; a call with an empty meeting id changes nothing, and
    no call changes the answer for another meeting;
    `failed_delete_keeps_binding`: a `Delete` whose `DEL` Redis refuses
    leaves the binding in place.
-/
import B3scale.Bbb.Meeting

namespace B3scale
namespace Cluster

/-- A backend of the cluster; the RIB reads only its id. -/
structure Backend where
  id : String
  deriving DecidableEq, Repr

/-- Redis's key space. -/
@[ext] structure KeySpace where
  get : String → Option String

namespace KeySpace

def empty : KeySpace := ⟨fun _ => none⟩

/-- `SET key value`. -/
def set (ks : KeySpace) (key value : String) : KeySpace :=
  ⟨fun k => if k = key then some value else ks.get k⟩

/-- `DEL key`. -/
def del (ks : KeySpace) (key : String) : KeySpace :=
  ⟨fun k => if k = key then none else ks.get k⟩

@[simp] theorem get_set (ks : KeySpace) (key value k : String) :
    (ks.set key value).get k = if k = key then some value else ks.get k := rfl

@[simp] theorem get_del (ks : KeySpace) (key k : String) :
    (ks.del key).get k = if k = key then none else ks.get k := rfl

end KeySpace

/-- What Redis does with one command, and what the client reads back. -/
inductive Reply
  | ok
  /-- Redis did not run the command (refused, or never reached): the
      client reads the error and nothing changed -/
  | refused (err : String)
  /-- Redis ran the command, but its reply was lost (a read timeout after
      the write, a dropped connection): the client reads the error -/
  | lost (err : String)
  deriving DecidableEq, Repr

/-- The error the client reads. -/
def Reply.err : Reply → Option String
  | .ok => none
  | .refused e | .lost e => some e

/-- Redis ran the command. -/
def Reply.applied : Reply → Bool
  | .ok | .lost _ => true
  | .refused _ => false

def frontendMeetingKey (id : String) : String := "m:" ++ id ++ ":fe"

def backendMeetingKey (id : String) : String := "m:" ++ id ++ ":be"

def errMeetingIDEmpty : String := "meeting id is empty"

def errBackendIDEmpty : String := "backend id is empty"

/-- `redis.Nil`, the error of a `GET` of a missing key. -/
def errRedisNil : String := "redis: nil"

/-- A write command: its error, and the key space as Redis leaves it. -/
def Reply.write (r : Reply) (ks ks' : KeySpace) : Option String × KeySpace :=
  (r.err, if r.applied then ks' else ks)

/-- `RedisRIB.SetBackend`; `b = none` for a `nil` backend, which deletes the
    key. `r` is what Redis does with the `DEL` or the `SET`; a `DEL` never
    answers `redis.Nil`, so the source's `errors.Is` test on it passes every
    error through. Returns the error and the key space. -/
def setBackend (r : Reply) (m : Bbb.Meeting) (b : Option Backend) (ks : KeySpace) :
    Option String × KeySpace :=
  if m.meetingID = "" then (some errMeetingIDEmpty, ks)
  else
    let key := backendMeetingKey m.meetingID
    match b with
    | none => r.write ks (ks.del key)
    | some b =>
      if b.id = "" then (some errBackendIDEmpty, ks)
      else r.write ks (ks.set key b.id)

/-- `RedisRIB.GetBackend`; `getBackendByID` is `State.GetBackendByID`. A
    missing key (`redis.Nil`) is no backend. -/
def getBackend (getBackendByID : String → Option Backend) (r : Reply)
    (m : Bbb.Meeting) (ks : KeySpace) : Except String (Option Backend) :=
  if m.meetingID = "" then .error errMeetingIDEmpty
  else
    match r.err with
    | some e => .error e
    | none =>
      match ks.get (backendMeetingKey m.meetingID) with
      | none => .ok none
      | some id => .ok (getBackendByID id)

/-- `RedisRIB.Delete`. -/
def delete (r : Reply) (m : Bbb.Meeting) (ks : KeySpace) : Option String × KeySpace :=
  setBackend r m none ks

/-- `RedisClusterRIB.GetBackend`: every error of the `GET`, `redis.Nil`
    included, is returned. -/
def clusterGetBackend (getBackendByID : String → Option Backend) (r : Reply)
    (m : Bbb.Meeting) (ks : KeySpace) : Except String (Option Backend) :=
  if m.meetingID = "" then .error errMeetingIDEmpty
  else
    match r.err with
    | some e => .error e
    | none =>
      match ks.get m.meetingID with
      | none => .error errRedisNil
      | some id => if id = "" then .ok none else .ok (getBackendByID id)

/-- `RedisClusterRIB.SetBackend`, for a non-`nil` backend. -/
def clusterSetBackend (r : Reply) (m : Bbb.Meeting) (b : Backend) (ks : KeySpace) :
    Option String × KeySpace :=
  if m.meetingID = "" then (some errMeetingIDEmpty, ks)
  else if b.id = "" then (some errBackendIDEmpty, ks)
  else r.write ks (ks.set m.meetingID b.id)

/-! ## Runs -/

/-- What a call returns. -/
inductive RibResult
  | set (err : Option String)
  | get (res : Except String (Option Backend))

/-- The results of a sequence of calls, each on the state the ones before
    it leave. -/
def ribResults {σ ω : Type} (call : σ → ω → RibResult × σ) : List ω → σ → List RibResult
  | [], _ => []
  | op :: ops, s => (call s op).1 :: ribResults call ops (call s op).2

/-- A run over states that refine a spec answers as the spec. -/
theorem ribResults_of_refines {κ ω : Type} {call : κ → ω → RibResult × κ}
    {R : κ → (String → Option String) → Prop} {spec : (String → Option String) → ω → RibResult}
    {next : (String → Option String) → ω → String → Option String}
    (hstep : ∀ ks σ op, R ks σ → (call ks op).1 = spec σ op ∧ R (call ks op).2 (next σ op)) :
    ∀ (ops : List ω) {ks : κ} {σ : String → Option String}, R ks σ →
      ribResults call ops ks = ribResults (fun σ op => (spec σ op, next σ op)) ops σ
  | [], _, _, _ => rfl
  | op :: ops, ks, σ, h => by
    obtain ⟨h1, h2⟩ := hstep ks σ op h
    simp only [ribResults, h1, ribResults_of_refines hstep ops h2]

/-- A call on a `RedisRIB`, with what Redis does with its command. -/
inductive RibCall
  | setBackend (r : Reply) (m : Bbb.Meeting) (b : Option Backend)
  | delete (r : Reply) (m : Bbb.Meeting)
  | getBackend (r : Reply) (m : Bbb.Meeting)

/-- The meeting a call is about. -/
def RibCall.meeting : RibCall → Bbb.Meeting
  | .setBackend _ m _ | .delete _ m | .getBackend _ m => m

/-- The call on a `RedisRIB`: its result and the key space after it. -/
def RibCall.onRIB (byID : String → Option Backend) (ks : KeySpace) : RibCall → RibResult × KeySpace
  | .setBackend r m b => (.set (Cluster.setBackend r m b ks).1, (Cluster.setBackend r m b ks).2)
  | .delete r m => (.set (Cluster.delete r m ks).1, (Cluster.delete r m ks).2)
  | .getBackend r m => (.get (Cluster.getBackend byID r m ks), ks)

/-- The key space after a call. -/
def RibCall.apply (ks : KeySpace) (c : RibCall) : KeySpace := (c.onRIB (fun _ => none) ks).2

def runRib (calls : List RibCall) (ks : KeySpace) : KeySpace :=
  calls.foldl RibCall.apply ks

/-! ## The map the calls keep -/

/-- The binding a call leaves when Redis applies its command: the meeting
    id and the backend id now bound to it (`none`: unbound). -/
def RibCall.binds : RibCall → Option (String × Option String)
  | .setBackend r m (some b) =>
    if r.applied ∧ m.meetingID ≠ "" ∧ b.id ≠ "" then some (m.meetingID, some b.id) else none
  | .setBackend r m none | .delete r m =>
    if r.applied ∧ m.meetingID ≠ "" then some (m.meetingID, none) else none
  | .getBackend .. => none

/-- The map after a call. -/
def RibCall.next (σ : String → Option String) (c : RibCall) : String → Option String :=
  match c.binds with
  | some (id', x) => fun id => if id' = id then x else σ id
  | none => σ

/-- What a call returns on the map: the empty-id errors, Redis's error, or
    the backend the map binds. -/
def RibCall.answer (byID : String → Option Backend) (σ : String → Option String) :
    RibCall → RibResult
  | .setBackend r m b =>
    .set (if m.meetingID = "" then some errMeetingIDEmpty
      else match b with
        | some b => if b.id = "" then some errBackendIDEmpty else r.err
        | none => r.err)
  | .delete r m => .set (if m.meetingID = "" then some errMeetingIDEmpty else r.err)
  | .getBackend r m =>
    .get (if m.meetingID = "" then .error errMeetingIDEmpty
      else match r.err with
        | some e => .error e
        | none => .ok ((σ m.meetingID).bind byID))

/-- One call on the map. -/
def RibCall.spec (byID : String → Option Backend) (σ : String → Option String) (c : RibCall) :
    RibResult × (String → Option String) :=
  (c.answer byID σ, c.next σ)

/-- The map the calls of a run leave, from no binding. -/
def bound (calls : List RibCall) : String → Option String :=
  calls.foldl RibCall.next fun _ => none

/-! ## The key space refines the map -/

/-- The key scheme is injective: distinct meetings have distinct keys. -/
theorem backendMeetingKey_inj {a b : String} (h : backendMeetingKey a = backendMeetingKey b) :
    a = b := by
  have := congrArg String.data h
  simp only [backendMeetingKey, String.data_append] at this
  exact String.ext (List.append_cancel_left (List.append_cancel_right this))

/-- A `RedisRIB` key space read as a map: the key of each meeting. -/
def RibAbs (ks : KeySpace) (σ : String → Option String) : Prop :=
  ∀ id, ks.get (backendMeetingKey id) = σ id

theorem getBackend_eq (byID : String → Option Backend) (r : Reply) (m : Bbb.Meeting)
    (ks : KeySpace) : getBackend byID r m ks =
      if m.meetingID = "" then .error errMeetingIDEmpty
      else match r.err with
        | some e => .error e
        | none => .ok ((ks.get (backendMeetingKey m.meetingID)).bind byID) := by
  unfold getBackend
  split_ifs
  · rfl
  · rcases r.err with _ | e
    · dsimp only; cases ks.get (backendMeetingKey m.meetingID) <;> rfl
    · rfl

/-- What one call does to the key space: what its `binds` says. -/
theorem RibCall.apply_eq (ks : KeySpace) (c : RibCall) : c.apply ks =
    match c.binds with
    | some (id', some x) => ks.set (backendMeetingKey id') x
    | some (id', none) => ks.del (backendMeetingKey id')
    | none => ks := by
  rcases c with ⟨r, m, _ | b⟩ | ⟨r, m⟩ | ⟨r, m⟩ <;>
    simp only [apply, onRIB, binds, Cluster.setBackend, Cluster.delete, Reply.write] <;>
    cases r <;> split_ifs <;> first | rfl | simp_all [Reply.applied]

/-- What one call does to the key of meeting `id`: what its `binds` says. -/
theorem RibCall.apply_get (ks : KeySpace) (c : RibCall) (id : String) :
    (c.apply ks).get (backendMeetingKey id) = c.next (fun id => ks.get (backendMeetingKey id)) id := by
  have hk : ∀ m, backendMeetingKey id = backendMeetingKey m ↔ m = id :=
    fun m => ⟨fun h => (backendMeetingKey_inj h).symm, fun h => h ▸ rfl⟩
  rw [apply_eq, next]
  rcases c.binds with _ | ⟨id', _ | x⟩ <;> simp only [KeySpace.get_set, KeySpace.get_del, hk]

/-- The call's `binds` names its own meeting. -/
theorem RibCall.binds_meeting {c : RibCall} {id : String} {x : Option String}
    (h : c.binds = some (id, x)) : id = c.meeting.meetingID := by
  rcases c with ⟨r, m, _ | b⟩ | ⟨r, m⟩ | ⟨r, m⟩ <;> simp only [binds, reduceCtorEq] at h <;>
    split_ifs at h <;> cases h <;> rfl

/-- One call on a key space that refines the map returns what the map
    returns, and leaves a key space that refines the map after it. -/
theorem RibAbs.step {byID : String → Option Backend} {ks : KeySpace}
    {σ : String → Option String} (h : RibAbs ks σ) (c : RibCall) :
    (c.onRIB byID ks).1 = c.answer byID σ ∧ RibAbs (c.onRIB byID ks).2 (c.next σ) := by
  refine ⟨?_, fun id => ?_⟩
  · rcases c with ⟨r, m, _ | b⟩ | ⟨r, m⟩ | ⟨r, m⟩
    · by_cases hm : m.meetingID = "" <;> simp [RibCall.onRIB, RibCall.answer, Cluster.setBackend, hm,
        Reply.write]
    · by_cases hm : m.meetingID = "" <;> by_cases hb : b.id = "" <;>
        simp [RibCall.onRIB, RibCall.answer, Cluster.setBackend, hm, hb, Reply.write]
    · by_cases hm : m.meetingID = "" <;> simp [RibCall.onRIB, RibCall.answer, Cluster.delete,
        Cluster.setBackend, hm, Reply.write]
    · simp only [RibCall.onRIB, RibCall.answer, getBackend_eq, h m.meetingID]
  · have := RibCall.apply_get ks c id
    have hσ : (fun id => ks.get (backendMeetingKey id)) = σ := funext h
    rw [hσ] at this
    rcases c with ⟨r, m, b⟩ | ⟨r, m⟩ | ⟨r, m⟩ <;> exact this

/-- The map a run leaves is read off its key space. -/
theorem RibAbs.run {ks : KeySpace} {σ : String → Option String} (h : RibAbs ks σ) :
    ∀ cs, RibAbs (runRib cs ks) (cs.foldl RibCall.next σ)
  | [] => h
  | c :: cs => (@RibAbs.step (fun _ => none) _ _ h c).2.run cs

/-- **`RedisRIB` refines a map from meeting ids to backend ids.** In every
    run of `SetBackend`, `Delete` and `GetBackend` calls from a key space
    holding no meeting keys, whatever Redis does with each command, every
    call returns what the map returns: `SetBackend` and `Delete` the
    empty-id errors or Redis's error (`nil` on success), `GetBackend` the
    empty-id error, Redis's error, or `GetBackendByID` of the backend id
    the map binds. The map is the one the commands Redis applied leave: a
    refused command changes nothing, one whose reply was lost changes it as
    a success does. After the run, `GetBackend(m)` answers from `bound`; a
    call with an empty meeting id changes nothing, and no call changes the
    answer for another meeting. -/
theorem rib_simulates_bindings (byID : String → Option Backend) (ks₀ : KeySpace)
    (h₀ : ∀ id, ks₀.get (backendMeetingKey id) = none) (calls : List RibCall) :
    ribResults (RibCall.onRIB byID) calls ks₀ =
      ribResults (RibCall.spec byID) calls (fun _ => none) ∧
    (∀ r m, getBackend byID r m (runRib calls ks₀) =
      if m.meetingID = "" then .error errMeetingIDEmpty
      else match r.err with
        | some e => .error e
        | none => .ok ((bound calls m.meetingID).bind byID)) ∧
    (∀ (c : RibCall) (ks : KeySpace), c.meeting.meetingID = "" → c.apply ks = ks) ∧
    (∀ (c : RibCall) (ks : KeySpace) r (m : Bbb.Meeting), m.meetingID ≠ c.meeting.meetingID →
      getBackend byID r m (c.apply ks) = getBackend byID r m ks) := by
  refine ⟨@ribResults_of_refines _ _ (RibCall.onRIB byID) RibAbs (fun σ c => c.answer byID σ)
    RibCall.next (fun _ _ c h => h.step c) calls _ _ h₀, fun r m => ?_,
    fun c ks hc => ?_, fun c ks r m hm => ?_⟩
  · rw [getBackend_eq, RibAbs.run h₀ calls m.meetingID]; rfl
  · rw [RibCall.apply_eq]
    rcases hb : c.binds with _ | ⟨id', x⟩
    · rfl
    · exact absurd (RibCall.binds_meeting hb) (by
        rcases c with ⟨r, m, _ | b⟩ | ⟨r, m⟩ | ⟨r, m⟩ <;>
          simp_all [RibCall.binds, RibCall.meeting])
  · rw [getBackend_eq, getBackend_eq, RibCall.apply_get, RibCall.next]
    rcases hb : c.binds with _ | ⟨id', x⟩
    · rfl
    · have hne : id' ≠ m.meetingID := by rw [RibCall.binds_meeting hb]; exact Ne.symm hm
      simp only [hne, if_false]

theorem rib_simulates_bindings_one_call :
    ribResults (RibCall.onRIB fun id => some ⟨id⟩)
        [.setBackend .ok ⟨"m", "x", true, none⟩ (some ⟨"b"⟩)] .empty =
      ribResults (RibCall.spec fun id => some ⟨id⟩)
        [.setBackend .ok ⟨"m", "x", true, none⟩ (some ⟨"b"⟩)] (fun _ => none) ∧
    (∀ r m, getBackend (fun id => some ⟨id⟩) r m
        (runRib [.setBackend .ok ⟨"m", "x", true, none⟩ (some ⟨"b"⟩)] .empty) =
      if m.meetingID = "" then .error errMeetingIDEmpty
      else match r.err with
        | some e => .error e
        | none => .ok ((bound [.setBackend .ok ⟨"m", "x", true, none⟩ (some ⟨"b"⟩)]
            m.meetingID).bind fun id => some ⟨id⟩)) ∧
    (∀ (c : RibCall) (ks : KeySpace), c.meeting.meetingID = "" → c.apply ks = ks) ∧
    (∀ (c : RibCall) (ks : KeySpace) r (m : Bbb.Meeting), m.meetingID ≠ c.meeting.meetingID →
      getBackend (fun id => some ⟨id⟩) r m (c.apply ks) =
        getBackend (fun id => some ⟨id⟩) r m ks) :=
  rib_simulates_bindings _ _ (fun _ => rfl) _

/-- The binding in the words of the claim: the last successful
    `SetBackend(m, b)` with `b` non-`nil`, unless a `Delete(m)` or
    `SetBackend(m, nil)` came after it. -/
def claimedBound (calls : List RibCall) (id : String) : Option String :=
  calls.foldl (fun v c => match c with
    | .setBackend .ok m (some b) => if m.meetingID = id ∧ b.id ≠ "" then some b.id else v
    | .setBackend _ m none | .delete _ m => if m.meetingID = id then none else v
    | .setBackend (.refused _) _ (some _) | .setBackend (.lost _) _ (some _) | .getBackend .. => v)
    none

/-- A `Delete` whose `DEL` Redis refuses returns the error and leaves the
    meeting bound to its backend. -/
theorem failed_delete_keeps_binding :
    ¬ ∀ (byID : String → Option Backend) (calls : List RibCall) (r : Reply)
      (m : Bbb.Meeting), m.meetingID ≠ "" →
      getBackend byID r m (runRib calls .empty) = .ok ((claimedBound calls m.meetingID).bind byID) :=
  fun h => absurd (congrArg Except.toOption (h (fun id => some ⟨id⟩)
    [.setBackend .ok ⟨"m", "x", true, none⟩ (some ⟨"b"⟩),
      .delete (.refused "i/o timeout") ⟨"m", "x", true, none⟩]
    .ok ⟨"m", "x", true, none⟩ (by decide))) (by decide)

end Cluster
end B3scale
