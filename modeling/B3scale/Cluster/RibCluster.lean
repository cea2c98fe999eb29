/-
  b3scale formalization — the two Redis RIBs of `pkg/cluster/rib_redis.go`
  against the map they keep.

  * `RibOp`: the calls both offer, `SetBackend` with a non-`nil` backend and
    `GetBackend`, each with the `Reply` Redis gives its command;
  * `RibOp.answer`, `RibOp.next`: the map from meeting ids to backend ids
    that both implement; `GetBackend` of a meeting the map does not hold
    answers `unbound`;
  * `rib_refines_map`, `clusterRib_refines_map`: every run of `RedisRIB`
    from an empty key space answers as the map with `unbound = (nil, nil)`,
    every run of `RedisClusterRIB` as the map with `unbound = redis.Nil`;
  * `ribs_agree_unless_unbound`: the two return the same results exactly
    when no `GetBackend` asks for a meeting that was never bound;
    `cluster_get_unbound_errs`: there `RedisRIB` returns `(nil, nil)` and
    `RedisClusterRIB` the error `redis: nil`.
-/
import B3scale.Cluster.RibRedis

namespace B3scale
namespace Cluster

/-- A call both RIBs offer, with a non-`nil` backend, and what Redis does
    with its command. -/
inductive RibOp
  | setBackend (r : Reply) (m : Bbb.Meeting) (b : Backend)
  | getBackend (r : Reply) (m : Bbb.Meeting)

/-- The call as a call on a `RedisRIB`. -/
def RibOp.toCall : RibOp → RibCall
  | .setBackend r m b => .setBackend r m (some b)
  | .getBackend r m => .getBackend r m

/-- The call on a `RedisRIB`. -/
def RibOp.onRIB (byID : String → Option Backend) (ks : KeySpace) (op : RibOp) :
    RibResult × KeySpace :=
  op.toCall.onRIB byID ks

/-- The call on a `RedisClusterRIB`. -/
def RibOp.onClusterRIB (byID : String → Option Backend) (ks : KeySpace) :
    RibOp → RibResult × KeySpace
  | .setBackend r m b => (.set (clusterSetBackend r m b ks).1, (clusterSetBackend r m b ks).2)
  | .getBackend r m => (.get (clusterGetBackend byID r m ks), ks)

/-! ## The map both implement -/

/-- The map after a call: a `SetBackend` that Redis applied binds the
    meeting id. -/
def RibOp.next (σ : String → Option String) (op : RibOp) : String → Option String :=
  op.toCall.next σ

/-- What a call returns on the map; `unbound` is the answer of `GetBackend`
    for a meeting the map does not hold. -/
def RibOp.answer (byID : String → Option Backend) (unbound : Except String (Option Backend))
    (σ : String → Option String) : RibOp → RibResult
  | .setBackend r m b =>
    .set (if m.meetingID = "" then some errMeetingIDEmpty
      else if b.id = "" then some errBackendIDEmpty else r.err)
  | .getBackend r m =>
    .get (if m.meetingID = "" then .error errMeetingIDEmpty
      else match r.err with
        | some e => .error e
        | none => match σ m.meetingID with
          | none => unbound
          | some id => .ok (byID id))

/-- One call on the map. -/
def RibOp.spec (byID : String → Option Backend) (unbound : Except String (Option Backend))
    (σ : String → Option String) (op : RibOp) : RibResult × (String → Option String) :=
  (op.answer byID unbound σ, op.next σ)

/-- The call is a `GetBackend` that Redis answers, for a non-empty meeting
    id the map does not hold. -/
def RibOp.readsUnbound (σ : String → Option String) : RibOp → Bool
  | .getBackend r m => r.err.isNone && m.meetingID != "" && (σ m.meetingID).isNone
  | _ => false

/-- Some call of the sequence reads an unbound meeting. -/
def readsUnbound : List RibOp → (String → Option String) → Bool
  | [], _ => false
  | op :: ops, σ => op.readsUnbound σ || readsUnbound ops (op.next σ)

/-! ## Both key spaces refine the map -/

/-- A `RedisClusterRIB` key space read as the map: the bare meeting id; no
    backend id is empty. -/
def ClusterAbs (ks : KeySpace) (σ : String → Option String) : Prop :=
  ∀ id, ks.get id = σ id ∧ σ id ≠ some ""

/-- On the calls both offer, `RedisRIB` answers as the map with `(nil, nil)`
    for an unbound meeting. -/
theorem RibAbs.stepOp {byID : String → Option Backend} {ks : KeySpace}
    {σ : String → Option String} (h : RibAbs ks σ) (op : RibOp) :
    (op.onRIB byID ks).1 = op.answer byID (.ok none) σ ∧ RibAbs (op.onRIB byID ks).2 (op.next σ) := by
  obtain ⟨h1, h2⟩ := @RibAbs.step byID _ _ h op.toCall
  refine ⟨h1.trans ?_, h2⟩
  rcases op with ⟨r, m, b⟩ | ⟨r, m⟩
  · rfl
  · simp only [RibOp.toCall, RibCall.answer, RibOp.answer]
    split_ifs
    · rfl
    · rcases r.err with _ | e
      · cases σ m.meetingID <;> rfl
      · rfl

theorem ClusterAbs.step {byID : String → Option Backend} {ks : KeySpace}
    {σ : String → Option String} (h : ClusterAbs ks σ) (op : RibOp) :
    (op.onClusterRIB byID ks).1 = op.answer byID (.error errRedisNil) σ ∧
      ClusterAbs (op.onClusterRIB byID ks).2 (op.next σ) := by
  rcases op with ⟨r, m, b⟩ | ⟨r, m⟩
  · refine ⟨?_, fun k => ?_⟩
    · by_cases hm : m.meetingID = "" <;> by_cases hb : b.id = "" <;>
        simp [RibOp.onClusterRIB, RibOp.answer, clusterSetBackend, hm, hb, Reply.write]
    · obtain ⟨h1, h2⟩ := h k
      by_cases hm : m.meetingID = "" <;> by_cases hb : b.id = "" <;> by_cases hk : k = m.meetingID <;>
        cases r <;> simp_all [RibOp.onClusterRIB, RibOp.next, RibOp.toCall, RibCall.next, RibCall.binds,
          clusterSetBackend, Reply.write, Reply.applied, eq_comm]
  · refine ⟨?_, h⟩
    obtain ⟨hg, hne⟩ := h m.meetingID
    simp only [RibOp.onClusterRIB, RibOp.answer, clusterGetBackend, hg]
    split_ifs
    · rfl
    · rcases r.err with _ | e
      · rcases hσ : σ m.meetingID with _ | id
        · rfl
        · have hid : id ≠ "" := fun e => hne (by rw [hσ, e])
          simp [hid]
      · rfl

/-- **`RedisRIB` refines the map.** Every run of `SetBackend` and
    `GetBackend` calls from an empty key space, whatever Redis answers,
    returns what the map returns when an unbound meeting is `(nil, nil)`. -/
theorem rib_refines_map (byID : String → Option Backend) (ops : List RibOp) :
    ribResults (RibOp.onRIB byID) ops .empty =
      ribResults (RibOp.spec byID (.ok none)) ops fun _ => none :=
  @ribResults_of_refines _ _ (RibOp.onRIB byID) RibAbs (fun σ op => op.answer byID (.ok none) σ)
    RibOp.next (fun _ _ op h => h.stepOp op) ops _ _ fun _ => rfl

/-- **`RedisClusterRIB` refines the map.** Every run from an empty key space
    returns what the map returns when an unbound meeting is the error
    `redis: nil`. -/
theorem clusterRib_refines_map (byID : String → Option Backend) (ops : List RibOp) :
    ribResults (RibOp.onClusterRIB byID) ops .empty =
      ribResults (RibOp.spec byID (.error errRedisNil)) ops fun _ => none :=
  @ribResults_of_refines _ _ (RibOp.onClusterRIB byID) ClusterAbs
    (fun σ op => op.answer byID (.error errRedisNil) σ) RibOp.next (fun _ _ op h => h.step op) ops
    _ _ fun _ => ⟨rfl, by simp⟩

/-! ## Where the two differ -/

/-- What the claim compares of a result: whether the call returned an error,
    and the backend a `GetBackend` returned. -/
def RibResult.observe : RibResult → Bool × Option Backend
  | .set e => (e.isSome, none)
  | .get (.error _) => (true, none)
  | .get (.ok b) => (false, b)

section Unbound

variable {byID : String → Option Backend} {u u' : Except String (Option Backend)}

theorem answer_eq_of_not_reads {σ : String → Option String} {op : RibOp}
    (h : op.readsUnbound σ = false) : op.answer byID u σ = op.answer byID u' σ := by
  rcases op with ⟨r, m, b⟩ | ⟨r, m⟩
  · rfl
  · cases r <;> by_cases hm : m.meetingID = "" <;> cases hσ : σ m.meetingID <;>
      simp_all [RibOp.answer, RibOp.readsUnbound, Reply.err]

theorem observe_ne_of_reads (hu : (RibResult.get u).observe ≠ (RibResult.get u').observe)
    {σ : String → Option String} {op : RibOp} (h : op.readsUnbound σ = true) :
    (op.answer byID u σ).observe ≠ (op.answer byID u' σ).observe := by
  rcases op with ⟨r, m, b⟩ | ⟨_ | e | e, m⟩ <;>
    simp only [RibOp.readsUnbound, Reply.err, Option.isNone_some, Option.isNone_none, Bool.false_and,
      Bool.true_and, Bool.and_eq_true, bne_iff_ne, ne_eq, Option.isNone_iff_eq_none,
      reduceCtorEq] at h
  simpa [RibOp.answer, Reply.err, h.1, h.2] using hu

/-- Maps that differ only in their answer for unbound meetings return the
    same results on runs that never read one. -/
theorem spec_results_eq : ∀ (ops : List RibOp) (σ : String → Option String),
    readsUnbound ops σ = false →
      ribResults (RibOp.spec byID u) ops σ = ribResults (RibOp.spec byID u') ops σ
  | [], _, _ => rfl
  | op :: ops, σ, h => by
    simp only [readsUnbound, Bool.or_eq_false_iff] at h
    exact congrArg₂ List.cons (answer_eq_of_not_reads h.1) (spec_results_eq ops _ h.2)

/-- If their answers for unbound meetings tell apart, their results tell
    apart every run that reads one. -/
theorem readsUnbound_of_observe (hu : (RibResult.get u).observe ≠ (RibResult.get u').observe) :
    ∀ (ops : List RibOp) (σ : String → Option String),
      (ribResults (RibOp.spec byID u) ops σ).map RibResult.observe =
        (ribResults (RibOp.spec byID u') ops σ).map RibResult.observe →
      readsUnbound ops σ = false
  | [], _, _ => rfl
  | op :: ops, σ, h => by
    simp only [ribResults, RibOp.spec, List.map_cons, List.cons.injEq] at h
    simp only [readsUnbound, Bool.or_eq_false_iff]
    exact ⟨Bool.eq_false_iff.2 fun hr => observe_ne_of_reads hu hr h.1,
      readsUnbound_of_observe hu ops _ h.2⟩

end Unbound

/-- **The two RIBs agree unless a meeting was never bound.** For every
    sequence of `SetBackend` calls with non-`nil` backends and `GetBackend`
    calls, whatever Redis answers, and from empty key spaces: `RedisRIB`
    answers as the map with `(nil, nil)` for an unbound meeting and
    `RedisClusterRIB` as the map with the error `redis: nil`; so the two
    return the same results when no `GetBackend` reads a meeting that no
    successful `SetBackend` bound, and a run that reads one tells them apart
    by whether an error was returned. -/
theorem ribs_agree_unless_unbound (byID : String → Option Backend) (ops : List RibOp) :
    ribResults (RibOp.onRIB byID) ops .empty =
      ribResults (RibOp.spec byID (.ok none)) ops (fun _ => none) ∧
    ribResults (RibOp.onClusterRIB byID) ops .empty =
      ribResults (RibOp.spec byID (.error errRedisNil)) ops (fun _ => none) ∧
    (readsUnbound ops (fun _ => none) = false →
      ribResults (RibOp.onRIB byID) ops .empty = ribResults (RibOp.onClusterRIB byID) ops .empty) ∧
    ((ribResults (RibOp.onRIB byID) ops .empty).map RibResult.observe =
        (ribResults (RibOp.onClusterRIB byID) ops .empty).map RibResult.observe →
      readsUnbound ops (fun _ => none) = false) := by
  refine ⟨rib_refines_map byID ops, clusterRib_refines_map byID ops, fun h => ?_, fun h => ?_⟩
  · rw [rib_refines_map, clusterRib_refines_map]
    exact spec_results_eq ops _ h
  · rw [rib_refines_map, clusterRib_refines_map] at h
    exact readsUnbound_of_observe (by decide) ops _ h

/-- `GetBackend` of a meeting never bound, on empty key spaces: `RedisRIB`
    returns `(nil, nil)`, `RedisClusterRIB` the error `redis: nil`. -/
theorem cluster_get_unbound_errs :
    ribResults (RibOp.onRIB fun id => some ⟨id⟩) [.getBackend .ok ⟨"m", "x", true, none⟩] .empty =
      [.get (.ok none)] ∧
    ribResults (RibOp.onClusterRIB fun id => some ⟨id⟩) [.getBackend .ok ⟨"m", "x", true, none⟩]
        .empty = [.get (.error errRedisNil)] :=
  have h := ribs_agree_unless_unbound (fun id => some ⟨id⟩) [.getBackend .ok ⟨"m", "x", true, none⟩]
  ⟨h.1.trans rfl, h.2.1.trans rfl⟩

end Cluster
end B3scale
