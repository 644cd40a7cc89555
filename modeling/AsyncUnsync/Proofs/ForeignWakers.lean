import AsyncUnsync.Proofs.BoundedValid
import AsyncUnsync.Proofs.WakePoints

/-! The calls by which the clients of a semaphore or of a bounded channel may wake somebody.
From every reachable state they are safe from foreign wakers exactly when they wake nobody. -/

namespace AsyncUnsync.Proofs.ForeignWakers
open Memory Transition Reentrancy LedgerSimulation WakePoints QueueCalls FuturePolls BoundedValid
variable {T : Type} {s s' : Semaphore} {a : Addr} {operation : Operation} {woken : List Waker}

def semaphoreCall (before : SemaphoreSystem.State) : SemaphoreSystem.Action → Option (Semaphore × Operation)
  | .addPermits n => some (before.sem, .addPermits n)
  | .dropPermit p => (before.permits.get? p).map fun count => (before.sem, .addPermits count)
  | .dropAcquire a => some (before.sem, .dropAcquire a)
  | .close => some (before.sem, .close)
  | .tryAcquireMany _ | .acquireMany _ | .poll _ _ | .forgetPermit _ | .removePermits _ => none

/-- A future that is ready drops its `Acquire` after it was polled. -/
def channelCall (build : Build) (before : BoundedSystem.State T) : BoundedSystem.Action T → Option (Semaphore × Operation)
  | .split | .intoSplit =>
    (build.sub before.queue.maxCapacity before.queue.capacity).toOption.map fun diff =>
      (before.queue.extra.semaphore, .addPermits diff)
  | .close _ | .dropReceiver => some (before.queue.extra.semaphore, .close)
  | .tryRecv _ | .pollRecv _ _ =>
    if before.queue.items.isEmpty then none else some (before.queue.extra.semaphore, .addPermits 1)
  | .pollFuture a waker =>
    match before.queue.extra.semaphore.pollFuture a waker with
    | .ok (polled, .ready _) => some (polled, .dropAcquire a)
    | _ => none
  | .dropFuture a => some (before.queue.extra.semaphore, .dropAcquire a)
  | .dropPermit _ | .dropOwnedPermit _ => some (before.queue.extra.semaphore, .addPermits 1)
  | .intoDeque | .forgetReceiver | .trySend _ _ | .tryReserve _ | .tryReserveOwned _ | .send _ _ | .reserve _
  | .reserveOwned _ | .forgetFuture _ | .permitSend _ _ | .forgetPermit _ | .ownedPermitSend _ _
  | .forgetOwnedPermit _ | .cloneSender _ | .dropSender _ | .forgetSender _ => none

theorem semaphoreCall_performed {before after : SemaphoreSystem.State} {action : SemaphoreSystem.Action}
    {outcome : SemaphoreSystem.Outcome} (stepped : SemaphoreSystem.step before action = .ok (after, outcome))
    (called : semaphoreCall before action = some (s, operation)) :
    performed s operation = .ok (after.sem, outcome.woken) := by
  cases action with
  | addPermits n =>
    cases called
    obtain ⟨⟨sem, woken⟩, added, stored⟩ := bind_ok stepped
    cases stored
    exact added
  | dropPermit p =>
    obtain ⟨count, held, same⟩ := Option.map_eq_some_iff.mp called
    cases same
    simp only [SemaphoreSystem.step, held] at stepped
    obtain ⟨⟨sem, woken⟩, added, stored⟩ := bind_ok stepped
    cases stored
    exact added
  | dropAcquire a =>
    cases called
    obtain ⟨⟨sem, woken⟩, dropped, stored⟩ := bind_ok stepped
    cases stored
    exact dropped
  | close =>
    cases called
    obtain ⟨effect, closed, stored⟩ := bind_ok stepped
    cases stored
    simp only [performed, closed, Except.map]
  | tryAcquireMany | acquireMany | poll | forgetPermit | removePermits => cases called

private theorem received_performed {q : BoundedQueue T} {counted : Bool}
    {effect : Effect (BoundedQueue T) (Except TryRecvError T)} (received : q.tryRecv counted = .ok effect)
    (called : (if q.items.isEmpty then none else some (q.extra.semaphore, Operation.addPermits 1)) = some (s, operation)) :
    performed s operation = .ok (effect.state.extra.semaphore, effect.woken) := by
  rcases tryRecv_ok received with ⟨_, _, _, _, semaphore, items, added, _, same⟩ | ⟨items, _⟩
  · simp only [items, List.isEmpty_cons, Bool.false_eq_true, if_false] at called
    cases called
    rw [same]
    exact added
  · simp only [items, List.isEmpty_nil, if_true] at called
    cases called

private theorem awaited_performed {waker : Waker} {effect : Effect Semaphore (Poll (Except AcquireError Unit))}
    {before : BoundedSystem.State T} {build : Build} (awaited : before.queue.extra.semaphore.awaitAcquire a waker = .ok effect)
    (called : channelCall build before (.pollFuture a waker) = some (s, operation)) :
    performed s operation = .ok (effect.state, effect.woken) := by
  obtain ⟨⟨polled, result⟩, looked, rest⟩ := bind_ok awaited
  simp only [channelCall, looked] at called
  cases result with
  | pending => cases called
  | ready result =>
    cases called
    obtain ⟨⟨semaphore, woken⟩, dropped, stored⟩ := bind_ok rest
    cases stored
    exact dropped

theorem channelCall_performed {build : Build} {before : BoundedSystem.State T} {action : BoundedSystem.Action T}
    {effect : Effect (BoundedQueue T) (BoundedSystem.Reply T)}
    (operated : BoundedSystem.operate build before action = .ok effect)
    (called : channelCall build before action = some (s, operation)) :
    ∃ woken, performed s operation = .ok (effect.state.extra.semaphore, woken) ∧ woken <+: effect.woken := by
  cases action with
  | split | intoSplit =>
    obtain ⟨counted, done, stored⟩ := bind_ok operated
    obtain ⟨cleared, mask, reset, _, rfl⟩ := setCounted_ok done
    obtain ⟨diff, semaphore, subtracted, added, same⟩ := reset_ok reset
    cases stored
    simp only [channelCall, BoundedQueue.maxCapacity, BoundedQueue.capacity, subtracted] at called
    cases called
    refine ⟨cleared.woken, ?_, List.prefix_refl _⟩
    simpa only [performed, Effect.map, same] using added
  | close | dropReceiver =>
    obtain ⟨closed, done, stored⟩ := bind_ok operated
    obtain ⟨_, closing, rfl⟩ := close_ok done
    cases stored
    cases called
    exact ⟨_, by simp only [performed, closing, Except.map, Effect.map], List.prefix_refl _⟩
  | tryRecv counted =>
    obtain ⟨received, done, stored⟩ := bind_ok operated
    cases stored
    exact ⟨_, received_performed done called, List.prefix_refl _⟩
  | pollRecv counted waker =>
    obtain ⟨polled, done, stored⟩ := bind_ok operated
    obtain ⟨received, tried, rfl⟩ := pollRecv_ok done
    cases stored
    refine ⟨received.woken, ?_, ?_⟩
    · rw [received_performed tried called]
      rcases received.value with ⟨_ | _⟩ | _ <;> rfl
    · rcases received.value with ⟨_ | _⟩ | _ <;> exact List.prefix_refl _
  | pollFuture a waker =>
    cases pollFuture_ok operated with
    | sent found awaited => exact ⟨_, awaited_performed awaited called, List.prefix_append _ _⟩
    | pending found awaited | unsent found awaited | reserved found awaited | unreserved found awaited
    | reservedOwned found awaited | unreservedOwned found awaited =>
      exact ⟨_, awaited_performed awaited called, List.prefix_refl _⟩
  | dropFuture a =>
    cases called
    cases dropFuture_cancelled operated with
    | borrowing found _ freed => exact ⟨_, freed, List.prefix_refl _⟩
    | owning found _ freed decreased =>
      refine ⟨_, ?_, List.prefix_append _ _⟩
      simpa only [performed, (decreaseSenderCount_rest decreased).2] using freed
  | dropPermit p =>
    cases called
    obtain ⟨dropped, done, stored⟩ := bind_ok operated
    obtain ⟨_, semaphore, added, same⟩ := dropPermit_ok done
    cases stored
    refine ⟨dropped.woken, ?_, List.prefix_refl _⟩
    simpa only [performed, Effect.map, same] using added
  | dropOwnedPermit p =>
    cases called
    obtain ⟨dropped, done, stored⟩ := bind_ok operated
    obtain ⟨returned, released, unreserved, decreased, rfl⟩ := dropOwnedPermit_ok done
    obtain ⟨_, semaphore, added, same⟩ := dropPermit_ok unreserved
    cases stored
    refine ⟨returned.woken, ?_, List.prefix_append _ _⟩
    simpa only [performed, Effect.map, (decreaseSenderCount_rest decreased).2, same] using added
  | intoDeque | forgetReceiver | trySend | tryReserve | tryReserveOwned | send | reserve | reserveOwned | forgetFuture
  | permitSend | forgetPermit | ownedPermitSend | forgetOwnedPermit | cloneSender | dropSender | forgetSender =>
    cases called

private theorem possible_of_performed (done : performed s operation = .ok (s', woken)) : possible s operation = true := by
  cases operation with
  | addPermits n => rfl
  | close => rfl
  | dropAcquire a =>
    obtain ⟨_, removed, _⟩ := bind_ok done
    obtain ⟨waiter, read, _⟩ := bind_ok removed
    exact Option.isSome_iff_exists.mpr ⟨waiter, live_of_deref read⟩

private theorem semaphoreCall_sound {before : SemaphoreSystem.State} {action : SemaphoreSystem.Action}
    (sound : Sound before.sem) (called : semaphoreCall before action = some (s, operation)) : Sound s := by
  cases action with
  | dropPermit p =>
    obtain ⟨_, _, same⟩ := Option.map_eq_some_iff.mp called
    cases same
    exact sound
  | addPermits | dropAcquire | close =>
    cases called
    exact sound
  | tryAcquireMany | acquireMany | poll | forgetPermit | removePermits => cases called

private theorem channelCall_sound {build : Build} {before : BoundedSystem.State T} {action : BoundedSystem.Action T}
    (valid : Valid before) (enabled : BoundedSystem.enabled before.clients action = true)
    (called : channelCall build before action = some (s, operation)) : Sound s := by
  have sound := valid.housed.sound
  cases action with
  | split | intoSplit =>
    obtain ⟨_, _, same⟩ := Option.map_eq_some_iff.mp called
    cases same
    exact sound
  | tryRecv | pollRecv =>
    simp only [channelCall] at called
    split at called
    next => cases called
    next =>
      cases called
      exact sound
  | pollFuture a waker =>
    obtain ⟨future, found⟩ := Option.isSome_iff_exists.mp enabled
    obtain ⟨ticket, held, _⟩ := SlotAccounting.held_of_demand (valid.housed.held a future found)
    obtain ⟨polled, looked, _, sound'⟩ := sound.pollFuture held waker
    simp only [channelCall, looked] at called
    split at called
    next same =>
      cases called
      obtain ⟨rfl, _⟩ := Prod.mk.inj (Except.ok.inj same)
      exact sound'
    next => cases called
  | close | dropReceiver | dropFuture | dropPermit | dropOwnedPermit =>
    cases called
    exact sound
  | intoDeque | forgetReceiver | trySend | tryReserve | tryReserveOwned | send | reserve | reserveOwned | forgetFuture
  | permitSend | forgetPermit | ownedPermitSend | forgetOwnedPermit | cloneSender | dropSender | forgetSender =>
    cases called

/-- No call of a client is disturbed by any waker. -/
def SafelyCalled (called : Option (Semaphore × Operation)) : Prop :=
  ∀ s operation, called = some (s, operation) → Safe s operation

def quietlyCalled (called : Option (Semaphore × Operation)) : Bool :=
  called.all fun (s, operation) => wakesNobody s.ledger operation

private theorem called_iff {called : Option (Semaphore × Operation)}
    (reachable : ∀ s operation, called = some (s, operation) → Sound s ∧ possible s operation = true) :
    SafelyCalled called ↔ quietlyCalled called = true := by
  cases called with
  | none => simp [SafelyCalled, quietlyCalled]
  | some call =>
    obtain ⟨s, operation⟩ := call
    obtain ⟨sound, live⟩ := reachable s operation rfl
    simp [SafelyCalled, quietlyCalled, ← safe_iff sound live]

theorem semaphore_safe_iff {start state : SemaphoreSystem.State}
    {history : History SemaphoreSystem.State SemaphoreSystem.Action SemaphoreSystem.Outcome}
    (run : SemaphoreSystem.system.Run start history state) : ∀ event ∈ history,
      (SafelyCalled (semaphoreCall event.before event.action) ↔
        quietlyCalled (semaphoreCall event.before event.action) = true) := by
  intro event member
  obtain ⟨past, reached⟩ := run.reaches member
  obtain ⟨before, _, stepped, _⟩ := reached.last
  refine called_iff fun s operation called => ?_
  exact ⟨semaphoreCall_sound (run_sound before) called, possible_of_performed (semaphoreCall_performed stepped called)⟩

theorem channel_safe_iff {build : Build} {start state : BoundedSystem.State T}
    {history : History (BoundedSystem.State T) (BoundedSystem.Action T) (BoundedSystem.Outcome T)}
    (run : (BoundedSystem.system T build).Run start history state) : ∀ event ∈ history,
      (SafelyCalled (channelCall build event.before event.action) ↔
        quietlyCalled (channelCall build event.before event.action) = true) := by
  intro event member
  obtain ⟨past, reached⟩ := run.reaches member
  obtain ⟨_, valid, able, effect, operated, _, _⟩ := run_step reached
  refine called_iff fun s operation called => ?_
  obtain ⟨_, done, _⟩ := channelCall_performed operated called
  exact ⟨channelCall_sound valid able called, possible_of_performed done⟩

/-- A call is safe from foreign wakers exactly when it wakes nobody, for it sets a waiter to
`Woken` and invokes its waker before the waiter leaves the queue. -/
theorem run_safe_iff (build : Build) :
    (∀ {start state : SemaphoreSystem.State}
        {history : History SemaphoreSystem.State SemaphoreSystem.Action SemaphoreSystem.Outcome},
      SemaphoreSystem.system.Run start history state → ∀ event ∈ history,
        (SafelyCalled (semaphoreCall event.before event.action) ↔
          quietlyCalled (semaphoreCall event.before event.action) = true)) ∧
    ∀ {T : Type} {start state : BoundedSystem.State T}
        {history : History (BoundedSystem.State T) (BoundedSystem.Action T) (BoundedSystem.Outcome T)},
      (BoundedSystem.system T build).Run start history state → ∀ event ∈ history,
        (SafelyCalled (channelCall build event.before event.action) ↔
          quietlyCalled (channelCall build event.before event.action) = true) :=
  ⟨semaphore_safe_iff, channel_safe_iff⟩

/-- A future collects a permit without being woken and is cancelled; a channel receives what it sent. -/
theorem run_safe_unwoken :
    (∃ history final, SemaphoreSystem.system.Run (.new 1) history final ∧ history.length = 6 ∧
      ∀ event ∈ history, SafelyCalled (semaphoreCall event.before event.action)) ∧
    ∃ queue history final, (BoundedSystem.system Nat .checked).Run (.new queue) history final ∧ history.length = 3 ∧
      ∀ event ∈ history, SafelyCalled (channelCall .checked event.before event.action) := by
  constructor
  · obtain ⟨history, final, _, run, length, quiet⟩ := SemaphoreSystem.system.exists_run (.new 1) ⟨1, rfl⟩
      [.tryAcquireMany 1, .acquireMany 2, .poll 0 7, .dropPermit 0, .dropAcquire 0, .close]
      (fun history _ => history.length = 6 ∧
        ∀ event ∈ history, quietlyCalled (semaphoreCall event.before event.action) = true) (by decide)
    exact ⟨history, final, run, length, fun event member =>
      ((run_safe_iff .checked).1 run event member).mpr (quiet event member)⟩
  · obtain ⟨history, final, _, run, length, quiet⟩ := (BoundedSystem.system Nat .checked).exists_run
      (.new (Queue.new .new ⟨.new 1, 1, 0⟩)) ⟨_, .inl ⟨1, by decide, rfl⟩, rfl⟩
      [.trySend .channel 5, .tryRecv false, .close false]
      (fun history _ => history.length = 3 ∧
        ∀ event ∈ history, quietlyCalled (channelCall .checked event.before event.action) = true) (by decide)
    exact ⟨_, history, final, run, length, fun event member =>
      ((run_safe_iff .checked).2 run event member).mpr (quiet event member)⟩

/-- A future waits for the only permit that is added. -/
theorem granted_not_safe :
    ∃ history final, SemaphoreSystem.system.play [] (.new 0) [.acquireMany 1, .poll 0 7, .addPermits 1] =
        some (history, final) ∧
      SemaphoreSystem.system.Run (.new 0) history final ∧
      ¬ ∀ event ∈ history, SafelyCalled (semaphoreCall event.before event.action) := by
  obtain ⟨history, final, played, run, loud⟩ := SemaphoreSystem.system.exists_run (.new 0) ⟨0, rfl⟩
    [.acquireMany 1, .poll 0 7, .addPermits 1]
    (fun history _ => ∃ event ∈ history, ¬ quietlyCalled (semaphoreCall event.before event.action) = true) (by decide)
  refine ⟨history, final, played, run, fun safe => ?_⟩
  obtain ⟨event, member, woken⟩ := loud
  exact woken ((semaphore_safe_iff run event member).mp (safe event member))

/-- Its waker panics. The future is then ready and dropped, but it stays linked. -/
example : stopped ((react notify 1 [.poll 0 7, .wakes (.dropAcquire 0), .wakes (.addPermits 1)]).run
    (world ((react (wakeByRef 1 1) 1 [.poll 0 7, .wakes (.addPermits 1)]).run
      (.new ((Semaphore.new 0).acquireMany 1) [⟨[], true⟩])))) = some (.fault .dangling) := by decide +kernel

/-- A future wants three permits and has collected one when the semaphore is closed. Its waker polls it. -/
example : (world ((react (wakeByRef 1 1) 1 [.poll 0 7, .wakes .close]).run
    (.new ((Semaphore.new 1).acquireMany 3) [⟨[.poll 0 7], false⟩]))).yields = [(0, 1)] := by decide +kernel

end AsyncUnsync.Proofs.ForeignWakers
