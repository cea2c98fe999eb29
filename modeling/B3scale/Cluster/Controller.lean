/-
  b3scale formalization — the main loop of `Controller.Start` (`pkg/cluster`),
  which calls `CommandQueue.Receive` again after every return.

  A `LISTEN` that fails keeps the connection `Acquire` gave it, and nothing
  in the loop gives it back; the `Begin` of `process` needs a connection of
  the same pool.

  * `handleCommand`: the controller's handler, which answers every command
    with `"some result"`;
  * `start`: the main loop, one call of `Receive` per list of rounds, each
    error logged;
  * `start_lost`: the connections lost are those of the `LISTEN` errors the
    loop logged;
  * `controller_stalls_after_failed_listens`: once these are as many as the
    pool's connections, the controller never claims a command again.
-/
import B3scale.Store.CommandQueueReceive

namespace B3scale
namespace Cluster

open CommandQueue

/-- `Controller.handleCommand`: prints the command, and returns
    `"some result", nil`. -/
def handleCommand (_ : Row) : HandlerResult := .ok (.str "some result")

/-- `Controller.Start`'s main loop for consumer `c` on a pool of `cap`
    connections: `Receive(c.handleCommand)`, one call per list of rounds,
    called again after every return. Returns the listener, the queue, and
    where each call returned, its error logged; it ends inside a call still
    in its loop. -/
def start (cap c : Nat) (l : Listener) (q : Queue) :
    List (List Round) → Listener × Queue × List Exit
  | [] => (l, q, [])
  | rs :: calls =>
    match receive cap c handleCommand l q rs with
    | (none, l, q) => (l, q, [])
    | (some x, l, q) =>
      let rest := start cap c l q calls
      (rest.1, rest.2.1, x :: rest.2.2)

theorem listen_count_cons (x : Exit) (xs : List Exit) :
    ((x :: xs).filter Exit.isListen).length = x.isListen.toNat + (xs.filter Exit.isListen).length := by
  cases hx : x.isListen <;> simp [List.filter_cons, hx, Nat.add_comm]

/-- The controller's loop loses one connection per `LISTEN` error it logs,
    and no other. -/
theorem start_lost (cap c : Nat) :
    ∀ (calls : List (List Round)) (l : Listener) (q : Queue),
      (start cap c l q calls).1.lost =
        l.lost + ((start cap c l q calls).2.2.filter Exit.isListen).length
  | [], _, _ => rfl
  | rs :: calls, l, q => by
    have hl := receive_lost cap c handleCommand rs l q
    revert hl
    simp only [start]
    generalize receive cap c handleCommand l q rs = o
    rcases o with ⟨_ | x, l', q'⟩ <;> intro hl
    · simpa using hl
    · have ih := start_lost cap c calls l' q'
      dsimp only at hl ⊢
      rw [listen_count_cons]
      rw [Option.any_some] at hl
      omega

/-- From a listener whose lost connections fill the pool, the loop claims
    nothing: whatever the world does, consumer `c`'s events stay as they
    were. -/
theorem start_stalled (cap c : Nat) :
    ∀ (calls : List (List Round)) (l : Listener) (q : Queue), cap ≤ l.lost →
      q.phase c = .idle → (∀ rs ∈ calls, ∀ r ∈ rs, r.othersOnly c) →
      ∃ new, (start cap c l q calls).2.1.log = q.log ++ new ∧ ownEvents c new = []
  | [], _, _, _, _, _ => ⟨[], (List.append_nil _).symm, rfl⟩
  | rs :: calls, l, q, h, hq, hcalls => by
    obtain ⟨hlost, hx⟩ := @receive_stalled cap c handleCommand l q rs h
    obtain ⟨hp, ⟨n₁, hl₁, ho₁⟩, -⟩ :=
      receive_settles cap c handleCommand rs l q hq (hcalls rs (.head _))
    revert hlost hx hp hl₁ ho₁
    simp only [start]
    generalize receive cap c handleCommand l q rs = o
    rcases o with ⟨_ | x, l', q'⟩ <;> intro hlost hx hp hl₁ ho₁
    · exact ⟨n₁, hl₁, ho₁⟩
    · obtain ⟨e, rfl⟩ : ∃ e, x = .wait e := by simpa using hx
      obtain ⟨n₂, hl₂, ho₂⟩ := start_stalled cap c calls l' q' (hlost ▸ h) hp
        fun rs' hrs' => hcalls rs' (.tail _ hrs')
      exact ⟨n₁ ++ n₂, by rw [hl₂, hl₁, List.append_assoc], by
        rw [ownEvents_append, ho₂, List.append_nil]; exact ho₁⟩

/-- **Failed `LISTEN`s stall the controller.** For every run of the
    controller's loop from an idle consumer, in which the others never act
    as it, split into a first part and the rest: once the `LISTEN` errors
    logged in the first part, with the connections lost before it, are as
    many as the pool's connections, no call of the rest claims a command,
    whatever the world does. Each such error keeps a connection that
    nothing gives back, and `Acquire` and `Begin` then wait for good. -/
theorem controller_stalls_after_failed_listens (cap c : Nat) :
    ∀ (calls₁ calls₂ : List (List Round)) (l : Listener) (q : Queue), q.phase c = .idle →
      (∀ rs ∈ calls₁ ++ calls₂, ∀ r ∈ rs, r.othersOnly c) →
      cap ≤ l.lost + ((start cap c l q calls₁).2.2.filter Exit.isListen).length →
      ∃ new, (start cap c l q (calls₁ ++ calls₂)).2.1.log =
        (start cap c l q calls₁).2.1.log ++ new ∧ ownEvents c new = []
  | [], calls₂, l, q, hq, hcalls, hfail => start_stalled cap c calls₂ l q hfail hq hcalls
  | rs :: calls₁, calls₂, l, q, hq, hcalls, hfail => by
    have hl := receive_lost cap c handleCommand rs l q
    have hp := (receive_settles cap c handleCommand rs l q hq (hcalls rs (.head _))).1
    revert hl hp hfail
    simp only [List.cons_append, start]
    generalize receive cap c handleCommand l q rs = o
    rcases o with ⟨_ | x, l', q'⟩ <;> intro hfail hl hp
    · exact ⟨[], (List.append_nil _).symm, rfl⟩
    · refine controller_stalls_after_failed_listens cap c calls₁ calls₂ l' q' hp
        (fun rs' hrs' => hcalls rs' (.tail _ hrs')) ?_
      dsimp only at hl hfail
      rw [listen_count_cons] at hfail
      rw [Option.any_some] at hl
      omega

/-- On a pool of one connection, one failed `LISTEN` is enough: the next
    call claims nothing, though a command waits. -/
theorem controller_stalls_after_one_listen :
    ∃ new, (start 1 0 ⟨false, 0⟩ (Queue.run [.queue "end" (.str "x"), .insertCommit 0])
        ([[⟨none, some "conn closed", [], .notified, none, none, [], "", none, none⟩]] ++
          [[⟨none, none, [], .notified, none, none, [], "", none, none⟩]])).2.1.log =
      (start 1 0 ⟨false, 0⟩ (Queue.run [.queue "end" (.str "x"), .insertCommit 0])
        [[⟨none, some "conn closed", [], .notified, none, none, [], "", none, none⟩]]).2.1.log ++ new ∧
      ownEvents 0 new = [] :=
  controller_stalls_after_failed_listens _ _ _ _ _ _ rfl (by simp [Round.othersOnly])
    (by decide)

end Cluster
end B3scale
