/-
  b3scale formalization — `CommandQueue.Receive` and `process`
  (`pkg/store/command_queue.go`), one call of a consumer against the queue
  system that every other enqueuer, consumer and sweep keeps running.

  `Receive` loops: it subscribes on demand (`Acquire`, then `LISTEN`), waits
  up to ten seconds for a notification, then runs `process`, and returns on
  any error or once `process` has dequeued a command. A wait that fails
  releases the subscription, and a timeout goes on to `process`. A `LISTEN`
  that fails returns without releasing the connection `Acquire` gave.

  * `Round`: what the world does in one turn of the loop, the steps of the
    others included; `Listener`: the subscription and the connections
    `subscribe` never gives back; `Exit`: the statement a call returned at;
  * `process`, `receive`: the loop, over the queue steps `Queue.claim` and
    `Queue.complete`;
  * `receive_settles`: a call claims at most one command; it returns `nil`
    exactly when it committed that command's final state, rolls the claim
    back on a failing `json.Marshal`, `UPDATE` or `COMMIT`, and claims
    nothing on every other return; its consumer ends idle; and it changes
    the queue only by steps of the queue system;
  * `receive_in_queue_system`: from every reachable state, what a call
    leaves is reachable, its consumer holds no row lock, and its events
    settle as above;
  * `receive_lost`, `receive_stalled`: a call loses a pool connection
    exactly when `LISTEN` fails, and a pool whose connections are all lost
    stalls it.
-/
import B3scale.Store.CommandQueueSafety

namespace B3scale

/-- The consumer a step is taken by: that of a claim or a completion. -/
def Act.consumer : Act → Option Nat
  | .claim c | .complete c _ _ _ => some c
  | _ => none

/-- The consumer an event is about. -/
def Event.consumer : Event → Option Nat
  | .claim c _ _ | .invoke c _ _ _ | .commit c _ | .rollback c _ => some c
  | _ => none

/-- The events of consumer `c`. -/
def ownEvents (c : Nat) (log : List Event) : List Event := log.filter (·.consumer == some c)

/-! ## The others' steps -/

/-- Consumer `c` is left alone from `q` to `q'`: its phase is kept, and the
    log grows by events of others only. -/
def Frame (c : Nat) (q q' : Queue) : Prop :=
  q'.phase c = q.phase c ∧ ∃ new, q'.log = q.log ++ new ∧ ownEvents c new = []

theorem ownEvents_append (c : Nat) (l l' : List Event) :
    ownEvents c (l ++ l') = ownEvents c l ++ ownEvents c l' := List.filter_append _ _

theorem ownEvents_eq_nil {c : Nat} {l : List Event} (h : ∀ e ∈ l, e.consumer ≠ some c) :
    ownEvents c l = [] :=
  List.filter_eq_nil_iff.2 fun e he => by simpa using h e he

theorem ownEvents_invocation (c : Nat) (cmd : Row) (t now : Nat) :
    ownEvents c (invocation c cmd t now) = invocation c cmd t now :=
  List.filter_eq_self.2 fun e he => by simp [eq_of_mem_invocation he, Event.consumer]

theorem ownEvents_close (o : Option (CmdState × String)) (c id : Nat) :
    ownEvents c [Event.close o c id] = [Event.close o c id] := by
  cases o <;> simp [ownEvents, Event.close, Event.consumer]

theorem Frame.refl (c : Nat) (q : Queue) : Frame c q q := ⟨rfl, [], by simp, rfl⟩

theorem Frame.trans {c : Nat} {q₁ q₂ q₃ : Queue} (h₁ : Frame c q₁ q₂) (h₂ : Frame c q₂ q₃) :
    Frame c q₁ q₃ := by
  obtain ⟨hp₁, n₁, hl₁, ho₁⟩ := h₁
  obtain ⟨hp₂, n₂, hl₂, ho₂⟩ := h₂
  exact ⟨hp₂.trans hp₁, n₁ ++ n₂, by rw [hl₂, hl₁, List.append_assoc],
    by rw [ownEvents_append, ho₁, ho₂, List.append_nil]⟩

/-- A step of another consumer, or of no consumer, leaves `c` alone. -/
theorem Queue.step_frame {c : Nat} (q : Queue) {a : Act} (ha : a.consumer ≠ some c) :
    Frame c q (q.step a) := by
  cases a with
  | queue a p => exact Frame.refl c q
  | insertCommit id => exact Frame.refl c q
  | insertAbort id =>
    rcases q.insertAbort_cases id with h | ⟨-, hp, -, hl⟩
    · rw [Queue.step, h]; exact Frame.refl c q
    · exact ⟨congrFun hp c, [.aborted id], hl, rfl⟩
  | claim c' =>
    have hc : c ≠ c' := fun h => ha (h ▸ rfl)
    rcases q.claim_cases c' with h | ⟨cmd, -, -, -, hp, -, hl⟩
    · rw [Queue.step, h]; exact Frame.refl c q
    · exact ⟨by rw [Queue.step, hp, Function.update_noteq hc], _, hl,
        ownEvents_eq_nil (by simpa [Event.consumer] using hc.symm)⟩
  | complete c' res u m =>
    have hc : c ≠ c' := fun h => ha (h ▸ rfl)
    rcases q.complete_cases c' res u m with h | ⟨cmd, t, -, -, hp, -, hl⟩
    · rw [Queue.step, h]; exact Frame.refl c q
    · refine ⟨by rw [Queue.step, hp, Function.update_noteq hc], _, (List.append_assoc _ _ _).symm ▸ hl,
        ownEvents_eq_nil fun e he => ?_⟩
      rcases List.mem_append.1 he with he | he
      · rw [eq_of_mem_invocation he]; simpa [Event.consumer] using hc.symm
      · rcases Event.mem_close.1 he with ⟨-, rfl⟩ | ⟨-, rfl⟩ <;> simpa [Event.consumer] using hc.symm
  | deleteExpired =>
    refine ⟨rfl, _, Queue.deleteExpired_log q, ownEvents_eq_nil fun e he => ?_⟩
    obtain ⟨_, -, rfl⟩ := List.mem_map.1 he
    simp [Event.consumer]
  | tick d => exact Frame.refl c q

theorem foldl_frame {c : Nat} :
    ∀ (acts : List Act) (q : Queue), (∀ a ∈ acts, a.consumer ≠ some c) →
      Frame c q (acts.foldl Queue.step q)
  | [], q, _ => Frame.refl c q
  | a :: acts, q, h =>
    (Queue.step_frame q (h a (.head _))).trans (foldl_frame acts _ fun a' ha' => h a' (.tail _ ha'))

theorem Queue.claim_idle {q : Queue} {c : Nat} {cmd : Row} (hq : q.phase c = .idle)
    (hs : select q.table.rows = some cmd) :
    (q.claim c).phase c = .claimed cmd q.now ∧ (q.claim c).log = q.log ++ [.claim c cmd q.now] ∧
      (q.claim c).now = q.now := by
  simp [Queue.claim, hq, hs]

theorem Queue.complete_claimed {q : Queue} {c : Nat} {cmd : Row} {t : Nat} {res : HandlerResult}
    {u m : Bool} (hq : q.phase c = .claimed cmd t) :
    (q.complete c res u m).phase c = .idle ∧
      (q.complete c res u m).log =
        q.log ++ invocation c cmd t q.now ++ [Event.close (ending cmd q.now res u m) c cmd.id] := by
  simp [Queue.complete, hq]

namespace CommandQueue

/-- What `WaitForNotification` returns within its ten seconds. -/
inductive Wait
  | notified
  /-- an error that is a `net.Error` whose `Timeout()` holds -/
  | timeout
  /-- any other error -/
  | failed (err : String)

/-- One turn of `Receive`'s loop as the world plays it: what each statement
    returns, and the steps the other enqueuers, consumers and sweeps take
    meanwhile. -/
structure Round where
  /-- `subscribe`'s `Acquire` fails -/
  acquireErr : Option String
  /-- its `LISTEN` fails -/
  listenErr : Option String
  /-- the steps of the others while `Receive` waits -/
  others : List Act
  wait : Wait
  beginErr : Option String
  /-- an error of the `SELECT` other than `pgx.ErrNoRows` -/
  selectErr : Option String
  /-- the steps of the others between the `SELECT` and the `COMMIT` -/
  during : List Act
  /-- the error of `json.Marshal` on a result with no encoding -/
  marshalErr : String
  updateErr : Option String
  commitErr : Option String

/-- No step of the others is consumer `c`'s. -/
def Round.othersOnly (c : Nat) (r : Round) : Prop :=
  ∀ a ∈ r.others ++ r.during, a.consumer ≠ some c

/-- `Receive`'s hold on the pool: whether `q.subscription` is set, and how
    many connections `subscribe` acquired and nothing releases. -/
structure Listener where
  subscribed : Bool
  lost : Nat

/-- The connections the listener keeps from the pool. -/
def Listener.held (l : Listener) : Nat := l.lost + if l.subscribed then 1 else 0

/-- `Release` of the subscription, and `q.subscription = nil`. -/
def Listener.release (l : Listener) : Listener := { l with subscribed := false }

/-- Where a call of `Receive` returned: `nil` after a dequeue, or the error
    of the statement named. -/
inductive Exit
  | dequeued
  | acquire (err : String)
  | listen (err : String)
  | wait (err : String)
  | begin (err : String)
  | select (err : String)
  | marshal (err : String)
  | update (err : String)
  | commit (err : String)
  deriving DecidableEq

/-- Subscribe on demand: `subscribe` when `q.subscription` is `nil`, on a
    pool of `cap` connections. `Acquire` waits for good (`none`) while all
    of them are held; a failing `LISTEN` returns with its connection still
    acquired. -/
def Listener.subscribe (cap : Nat) (r : Round) (l : Listener) :
    Option (Except Exit Unit × Listener) :=
  if l.subscribed then some (.ok (), l)
  else if cap ≤ l.held then none
  else
    match r.acquireErr, r.listenErr with
    | some e, _ => some (.error (.acquire e), l)
    | none, some e => some (.error (.listen e), { l with lost := l.lost + 1 })
    | none, none => some (.ok (), { l with subscribed := true })

/-- What is left of the subscription after the wait: a notification keeps
    it, an error releases it. -/
def Wait.listener (w : Wait) (l : Listener) : Listener :=
  match w with
  | .notified => l
  | _ => l.release

/-- `process` after its `SELECT` returned `cmd`: `json.Marshal` of the
    result, the `UPDATE` and the `COMMIT` in turn. -/
def closeExit (cmd : Row) (now : Nat) (res : HandlerResult) (r : Round) : Except Exit Bool :=
  match (outcome cmd now res).2.marshal, r.updateErr, r.commitErr with
  | none, _, _ => .error (.marshal r.marshalErr)
  | some _, some e, _ => .error (.update e)
  | some _, none, some e => .error (.commit e)
  | some _, none, none => .ok true

/-- `process` for consumer `c`: `(dequeued, err)` as `.ok dequeued` or
    `.error`, and `none` while its `Begin` waits for a connection (`free`
    is false when the pool has none left). The claim and the completion are
    the queue steps `claim` and `complete`, with the others' steps between
    them. -/
def process (free : Bool) (c : Nat) (handler : Row → HandlerResult) (r : Round) (q : Queue) :
    Option (Except Exit Bool) × Queue :=
  if free then
    match r.beginErr, r.selectErr, select q.table.rows with
    | some e, _, _ => (some (.error (.begin e)), q)
    | none, some e, _ => (some (.error (.select e)), q)
    | none, none, none => (some (.ok false), q)
    | none, none, some cmd =>
      let q := r.during.foldl Queue.step (q.claim c)
      (some (closeExit cmd q.now (handler cmd) r),
        q.complete c (handler cmd) r.updateErr.isSome r.commitErr.isSome)
  else (none, q)

/-- `Receive(handler)` by consumer `c` on a pool of `cap` connections, over
    the rounds the world plays: where it returned (`none`: it is still in
    its loop after them), the listener, and the queue. -/
def receive (cap c : Nat) (handler : Row → HandlerResult) (l : Listener) (q : Queue) :
    List Round → Option Exit × Listener × Queue
  | [] => (none, l, q)
  | r :: rs =>
    match l.subscribe cap r with
    | none => (none, l, q)
    | some (.error x, l) => (some x, l, q)
    | some (.ok (), l) =>
      let q := r.others.foldl Queue.step q
      match r.wait with
      | .failed e => (some (.wait e), l.release, q)
      | _ =>
        let l := r.wait.listener l
        match process (decide (l.held < cap)) c handler r q with
        | (none, q) => (none, l, q)
        | (some (.error x), q) => (some x, l, q)
        | (some (.ok true), q) => (some .dequeued, l, q)
        | (some (.ok false), q) => receive cap c handler l q rs

/-! ## What a call leaves -/

/-- The events of its consumer that a call of `Receive` leaves, by where it
    returned: a claim and its commit after a dequeue; a claim and its
    rollback after a failing `json.Marshal`, `UPDATE` or `COMMIT`; none
    otherwise, and none while it is still in its loop. -/
def Settles (c : Nat) : Option Exit → List Event → Prop
  | some .dequeued, own =>
    ∃ cmd t now, own = .claim c cmd t :: invocation c cmd t now ++ [.commit c cmd.id]
  | some (.marshal _), own | some (.update _), own | some (.commit _), own =>
    ∃ cmd t now, own = .claim c cmd t :: invocation c cmd t now ++ [.rollback c cmd.id]
  | _, own => own = []

/-- `process`'s result as `Receive` reads it: `true` returns `nil`, an
    error is returned, and `false` goes round the loop again. -/
def processExit : Option (Except Exit Bool) → Option Exit
  | some (.ok true) => some .dequeued
  | some (.error x) => some x
  | _ => none

/-- What `process` returns after its `SELECT` agrees with how the claim
    ends in the log: `true` with a commit, an error with a rollback. -/
theorem closeExit_settles (c : Nat) (cmd : Row) (t now : Nat) (res : HandlerResult) (r : Round) :
    Settles c (processExit (some (closeExit cmd now res r)))
      (.claim c cmd t :: invocation c cmd t now ++
        [Event.close (ending cmd now res r.updateErr.isSome r.commitErr.isSome) c cmd.id]) := by
  unfold closeExit ending
  rcases (outcome cmd now res).2.marshal with _ | data <;>
    rcases r.updateErr with _ | e <;> rcases r.commitErr with _ | e' <;>
    exact ⟨cmd, t, now, rfl⟩

/-- **`process` settles its claim.** From an idle consumer, with the others
    not acting as it: the consumer ends idle, and its events are a claim
    and its commit when `process` returns `true`, a claim and its rollback
    when it returns a closing error, and none otherwise; the queue changes
    by steps of the queue system, the claim, the others' steps and the
    completion. -/
theorem process_settles {free : Bool} {c : Nat} {handler : Row → HandlerResult} {r : Round}
    {q : Queue} (hq : q.phase c = .idle) (hr : ∀ a ∈ r.during, a.consumer ≠ some c) :
    (process free c handler r q).2.phase c = .idle ∧
      (∃ new, (process free c handler r q).2.log = q.log ++ new ∧
        Settles c (processExit (process free c handler r q).1) (ownEvents c new)) ∧
      ∃ acts : List Act, (process free c handler r q).2 = acts.foldl Queue.step q := by
  unfold process
  split <;> try split
  case isTrue.h_4 cmd _ _ hs =>
    obtain ⟨hp₁, hl₁, -⟩ := Queue.claim_idle hq hs
    obtain ⟨hp₂, new, hl₂, ho⟩ := foldl_frame r.during (q.claim c) hr
    obtain ⟨hp₃, hl₃⟩ := Queue.complete_claimed (hp₂.trans hp₁)
    set q₂ := r.during.foldl Queue.step (q.claim c)
    refine ⟨hp₃, ⟨[.claim c cmd q.now] ++ new ++ invocation c cmd q.now q₂.now ++
      [Event.close (ending cmd q₂.now (handler cmd) r.updateErr.isSome r.commitErr.isSome) c cmd.id],
      by rw [hl₃, hl₂, hl₁]; simp only [List.append_assoc], ?_⟩,
      .claim c :: r.during ++ [.complete c (handler cmd) r.updateErr.isSome r.commitErr.isSome],
      by simp [q₂, List.foldl_append, Queue.step]⟩
    rw [ownEvents_append, ownEvents_append, ownEvents_append, ho, ownEvents_invocation,
      ownEvents_close]
    simpa [ownEvents, Event.consumer] using closeExit_settles c cmd q.now q₂.now (handler cmd) r
  all_goals exact ⟨hq, ⟨[], by simp, rfl⟩, [], rfl⟩

/-- `subscribe` fails at `Acquire` or `LISTEN`, before any claim. -/
theorem Listener.subscribe_error {cap : Nat} {r : Round} {l l' : Listener} {x : Exit}
    (h : l.subscribe cap r = some (.error x, l')) (c : Nat) : Settles c (some x) [] := by
  unfold Listener.subscribe at h
  split_ifs at h <;> (try split at h) <;> cases h <;> rfl

/-- **`Receive` claims at most one command, and returns `nil` exactly when
    it committed it.** From an idle consumer, for every run of rounds in
    which the others never act as it: the consumer ends idle; its events
    are a claim and the commit of its final state when the call returned
    `nil`, a claim and its rollback when it returned the error of
    `json.Marshal`, the `UPDATE` or the `COMMIT`, and none when it returned
    any other error or is still in its loop; and the queue changes by steps
    of the queue system. A handler's error is committed as the command's
    state: `Receive` never returns it. -/
theorem receive_settles (cap c : Nat) (handler : Row → HandlerResult) :
    ∀ (rs : List Round) (l : Listener) (q : Queue), q.phase c = .idle →
      (∀ r ∈ rs, r.othersOnly c) →
      (receive cap c handler l q rs).2.2.phase c = .idle ∧
        (∃ new, (receive cap c handler l q rs).2.2.log = q.log ++ new ∧
          Settles c (receive cap c handler l q rs).1 (ownEvents c new)) ∧
        ∃ acts : List Act, (receive cap c handler l q rs).2.2 = acts.foldl Queue.step q
  | [], _, _, hq, _ => ⟨hq, ⟨[], (List.append_nil _).symm, rfl⟩, [], rfl⟩
  | r :: rs, l, q, hq, hrs => by
    have hr := hrs r (.head _)
    obtain ⟨hp₁, n₁, hl₁, ho₁⟩ :=
      foldl_frame r.others q fun a ha => hr a (List.mem_append_left _ ha)
    simp only [receive]
    split
    · exact ⟨hq, ⟨[], by simp, rfl⟩, [], rfl⟩
    · exact ⟨hq, ⟨[], by simp, Listener.subscribe_error ‹_› c⟩, [], rfl⟩
    · split
      · exact ⟨hp₁.trans hq, ⟨n₁, hl₁, ho₁⟩, r.others, rfl⟩
      · obtain ⟨hp₂, ⟨n₂, hl₂, ho₂⟩, acts, ha⟩ :=
          @process_settles (decide ((r.wait.listener _).held < cap)) c handler r _ (hp₁.trans hq)
            fun a ha => hr a (List.mem_append_right _ ha)
        revert hp₂ hl₂ ho₂ ha
        generalize process _ c handler r _ = p
        rcases p with ⟨_ | (x | (_ | _)), q'⟩ <;> intro hp₂ hl₂ ho₂ ha
        case some.ok.false =>
          obtain ⟨hp₃, ⟨n₃, hl₃, ho₃⟩, acts', ha'⟩ :=
            receive_settles cap c handler rs _ q' hp₂ fun r' hr' => hrs r' (.tail _ hr')
          refine ⟨hp₃, ⟨n₁ ++ n₂ ++ n₃, by rw [hl₃, hl₂, hl₁]; simp only [List.append_assoc], ?_⟩,
            r.others ++ acts ++ acts', by rw [ha', List.foldl_append, List.foldl_append, ← ha]⟩
          rw [ownEvents_append, ownEvents_append, ho₁, show ownEvents c n₂ = [] from ho₂]
          exact ho₃
        all_goals exact ⟨hp₂, ⟨n₁ ++ n₂, by rw [hl₂, hl₁, List.append_assoc],
          by rw [ownEvents_append, ho₁]; exact ho₂⟩, r.others ++ acts,
          by rw [List.foldl_append]; exact ha⟩

/-! ## A call in the queue system -/

/-- **A call of `Receive` in the queue system.** From every reachable state
    of the queue in which consumer `c` is idle, for every run of rounds in
    which the others never act as `c`, however the call returned: the state
    it leaves is reachable by steps of the queue system, so that every
    invariant of the queue holds of it; `c` is idle and holds no row lock;
    and `c`'s events are a claim and the commit of its final state when the
    call returned `nil`, a claim and its rollback when it returned the error
    of `json.Marshal`, the `UPDATE` or the `COMMIT`, and none otherwise. So
    a call claims at most one command, and a handler's error is committed
    as the command's state, never returned. -/
theorem receive_in_queue_system (cap c : Nat) (handler : Row → HandlerResult) (l : Listener)
    (pre : List Act) (rs : List Round) (hq : (Queue.run pre).phase c = .idle)
    (hrs : ∀ r ∈ rs, r.othersOnly c) :
    (∃ acts, (receive cap c handler l (Queue.run pre) rs).2.2 = Queue.run (pre ++ acts)) ∧
      (receive cap c handler l (Queue.run pre) rs).2.2.phase c = .idle ∧
      (∀ row ∈ (receive cap c handler l (Queue.run pre) rs).2.2.table.rows, row.lock ≠ some c) ∧
      ∃ new, (receive cap c handler l (Queue.run pre) rs).2.2.log = (Queue.run pre).log ++ new ∧
        Settles c (receive cap c handler l (Queue.run pre) rs).1 (ownEvents c new) := by
  obtain ⟨hidle, hsettles, acts, ha⟩ := receive_settles cap c handler rs l _ hq hrs
  have hrun : (receive cap c handler l (Queue.run pre) rs).2.2 = Queue.run (pre ++ acts) := by
    rw [ha]; simp only [Queue.run, List.foldl_append]
  refine ⟨⟨acts, hrun⟩, hidle, fun row hrow hl => ?_, hsettles⟩
  obtain ⟨cmd, t, hc, -⟩ := (Queue.inv_run (pre ++ acts)).locked row (hrun ▸ hrow) c hl
  rw [← hrun, hidle] at hc
  cases hc

/-- A handler that fails makes `Receive` return `nil`: its error is
    committed as the command's state, and the command is unlocked. -/
theorem receive_commits_handler_error :
    (receive 2 0 (fun _ => .err "boom") ⟨false, 0⟩
        (Queue.run [.queue "end" (.str "x"), .insertCommit 0])
        [⟨none, none, [], .notified, none, none, [], "", none, none⟩]).1 = some .dequeued ∧
    (∃ acts, (receive 2 0 (fun _ => .err "boom") ⟨false, 0⟩
        (Queue.run [.queue "end" (.str "x"), .insertCommit 0])
        [⟨none, none, [], .notified, none, none, [], "", none, none⟩]).2.2 =
      Queue.run ([.queue "end" (.str "x"), .insertCommit 0] ++ acts)) ∧
    (receive 2 0 (fun _ => .err "boom") ⟨false, 0⟩
        (Queue.run [.queue "end" (.str "x"), .insertCommit 0])
        [⟨none, none, [], .notified, none, none, [], "", none, none⟩]).2.2.phase 0 = .idle ∧
    (∀ row ∈ (receive 2 0 (fun _ => .err "boom") ⟨false, 0⟩
        (Queue.run [.queue "end" (.str "x"), .insertCommit 0])
        [⟨none, none, [], .notified, none, none, [], "", none, none⟩]).2.2.table.rows,
      row.lock ≠ some 0) ∧
    ∃ new, (receive 2 0 (fun _ => .err "boom") ⟨false, 0⟩
        (Queue.run [.queue "end" (.str "x"), .insertCommit 0])
        [⟨none, none, [], .notified, none, none, [], "", none, none⟩]).2.2.log =
        (Queue.run [.queue "end" (.str "x"), .insertCommit 0]).log ++ new ∧
      Settles 0 (receive 2 0 (fun _ => .err "boom") ⟨false, 0⟩
        (Queue.run [.queue "end" (.str "x"), .insertCommit 0])
        [⟨none, none, [], .notified, none, none, [], "", none, none⟩]).1 (ownEvents 0 new) :=
  ⟨rfl, receive_in_queue_system _ _ _ _ _ _ rfl (by simp [Round.othersOnly])⟩

/-! ## Connections -/

/-- The call returned the error of `LISTEN`. -/
def Exit.isListen : Exit → Bool
  | .listen _ => true
  | _ => false

theorem Listener.lost_le_held (l : Listener) : l.lost ≤ l.held := by
  unfold Listener.held; omega

@[simp] theorem Wait.listener_lost (w : Wait) (l : Listener) : (w.listener l).lost = l.lost := by
  cases w <;> rfl

/-- `subscribe` loses the connection of a `LISTEN` that fails, and no
    other. -/
theorem Listener.subscribe_lost {cap : Nat} {r : Round} {l l' : Listener} {res : Except Exit Unit}
    (h : l.subscribe cap r = some (res, l')) :
    l'.lost = l.lost + match res with
      | .error x => x.isListen.toNat
      | .ok _ => 0 := by
  unfold Listener.subscribe at h
  split_ifs at h <;> (try split at h) <;> cases h <;> rfl

/-- `process` never returns the error of `LISTEN`. -/
theorem process_not_listen (free : Bool) (c : Nat) (handler : Row → HandlerResult) (r : Round)
    (q : Queue) : (processExit (process free c handler r q).1).any Exit.isListen = false := by
  unfold process closeExit
  split <;> try split
  case isTrue.h_4 => dsimp only; split <;> rfl
  all_goals rfl

/-- **A call loses one connection when `LISTEN` fails, and none
    otherwise.** -/
theorem receive_lost (cap c : Nat) (handler : Row → HandlerResult) :
    ∀ (rs : List Round) (l : Listener) (q : Queue),
      (receive cap c handler l q rs).2.1.lost =
        l.lost + ((receive cap c handler l q rs).1.any Exit.isListen).toNat
  | [], _, _ => rfl
  | r :: rs, l, q => by
    simp only [receive]
    split
    · rfl
    · simpa using Listener.subscribe_lost ‹_›
    · rename_i l' hs
      have hl' : l'.lost = l.lost := Listener.subscribe_lost hs
      split
      · simpa [Exit.isListen, Listener.release] using hl'
      · generalize hp : process _ c handler r _ = p
        have hx : (processExit p.1).any Exit.isListen = false := hp ▸ process_not_listen _ _ _ _ _
        rcases p with ⟨_ | (x | (_ | _)), q'⟩
        case some.ok.false => rw [receive_lost cap c handler rs _ q', Wait.listener_lost, hl']
        all_goals simp_all [processExit]

/-- **A pool whose connections are all lost stalls `Receive`.** Once the
    connections `subscribe` lost are as many as the pool has, a call claims
    nothing and loses no more: `Acquire`, or the `Begin` of `process`,
    waits for good, unless the wait for a notification fails first. -/
theorem receive_stalled {cap c : Nat} {handler : Row → HandlerResult} {l : Listener} {q : Queue}
    (rs : List Round) (h : cap ≤ l.lost) :
    (receive cap c handler l q rs).2.1.lost = l.lost ∧
      ((receive cap c handler l q rs).1 = none ∨
        ∃ e, (receive cap c handler l q rs).1 = some (.wait e)) := by
  cases rs with
  | nil => exact ⟨rfl, .inl rfl⟩
  | cons r rs =>
    by_cases hs : l.subscribed
    · have hfull : ¬ (r.wait.listener l).held < cap := by
        have := (r.wait.listener l).lost_le_held
        rw [Wait.listener_lost] at this
        omega
      simp only [receive, Listener.subscribe, hs, if_true]
      split
      · exact ⟨rfl, .inr ⟨_, rfl⟩⟩
      · simp [process, hfull]
    · have hfull : cap ≤ l.held := h.trans l.lost_le_held
      simp [receive, Listener.subscribe, hs, hfull]

end CommandQueue
end B3scale
