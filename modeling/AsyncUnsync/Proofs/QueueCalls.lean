import AsyncUnsync.Queue

/-! What each call on a queue does when it does not fault. Every lemma states the
whole next state, so that later proofs never unfold a call again. -/

namespace AsyncUnsync.Proofs.QueueCalls
open Memory

section
variable {T B : Type} {q q' : Queue T B} {elem : T} {counted : Bool}

private theorem tryShrinkQueue_eq (q : Queue T B) :
    ∃ capacity, q.tryShrinkQueue = { q with queue := ⟨q.items, capacity⟩, popCount := 0 } := by
  by_cases oversized : q.queue.capacity / 4 > q.queue.len + 32
  · exact ⟨_, by simp only [Queue.tryShrinkQueue, oversized, if_true]; rfl⟩
  · exact ⟨q.queue.capacity, by simp only [Queue.tryShrinkQueue, oversized, if_false]; rfl⟩

theorem popFront_some (popped : q.popFront = (q', some elem)) :
    ∃ rest capacity popCount, q.items = elem :: rest ∧ q' = { q with queue := ⟨rest, capacity⟩, popCount } := by
  unfold Queue.popFront Deque.popFront at popped
  rw [Queue.items_eq] at popped
  cases items : q.items with
  | nil => simp [items] at popped
  | cons first rest =>
    simp only [items, Prod.mk.injEq, Option.some.injEq] at popped
    obtain ⟨rfl, rfl⟩ := popped
    split
    · obtain ⟨capacity, shrunk⟩ := tryShrinkQueue_eq { q with queue := ⟨rest, q.queue.capacity⟩, popCount := q.popCount + 1 }
      exact ⟨rest, capacity, 0, rfl, shrunk⟩
    · exact ⟨_, _, _, rfl, rfl⟩

theorem popFront_none (popped : q.popFront = (q', none)) :
    q.items = [] ∧ ∃ capacity popCount, q' = { q with queue := ⟨[], capacity⟩, popCount } := by
  unfold Queue.popFront Deque.popFront at popped
  rw [Queue.items_eq] at popped
  cases items : q.items with
  | cons first rest => simp [items] at popped
  | nil =>
    simp only [items, Prod.mk.injEq, and_true] at popped
    subst popped
    refine ⟨rfl, ?_⟩
    rw [← items]
    split
    · obtain ⟨capacity, shrunk⟩ := tryShrinkQueue_eq q
      exact ⟨capacity, 0, shrunk⟩
    · exact ⟨q.queue.capacity, q.popCount, rfl⟩

theorem popFront_empty (empty : q.items = []) :
    ∃ q', q.popFront = (q', none) ∧ q'.mask = q.mask ∧ q'.extra = q.extra := by
  cases popped : q.popFront with
  | mk q' elem =>
    cases elem with
    | none =>
      obtain ⟨_, _, _, rfl⟩ := popFront_none popped
      exact ⟨_, rfl, rfl, rfl⟩
    | some elem =>
      obtain ⟨_, _, _, more, _⟩ := popFront_some popped
      cases empty.symm.trans more

theorem increaseSenderCount_ok (done : q.increaseSenderCount = .ok q') :
    ∃ mask, mask.bits = q.mask.bits + 2 ∧ q' = { q with mask } := by
  obtain ⟨mask, increased, stored⟩ := bind_ok done
  cases stored
  exact ⟨mask, Mask.increaseSenderCount_ok increased, rfl⟩

/-- Either the last sender is gone, and the receiver is woken, or only the count changes. -/
theorem decreaseSenderCount_ok {effect : Effect (Queue T B) Unit} (done : q.decreaseSenderCount = .ok effect) :
    2 ≤ q.mask.bits ∧
      (q.mask.bits < 4 ∧ effect = ⟨{ q with mask := ⟨1⟩, waker := none }, (), q.waker.toList⟩ ∨
        4 ≤ q.mask.bits ∧ effect = ⟨{ q with mask := ⟨q.mask.bits - 2⟩ }, (), []⟩) := by
  obtain ⟨⟨mask, last⟩, decreased, stored⟩ := bind_ok done
  obtain ⟨some, outcome⟩ := Mask.decreaseSenderCount_ok decreased
  refine ⟨some, ?_⟩
  obtain ⟨bits⟩ := mask
  rcases outcome with ⟨rfl, few, rfl⟩ | ⟨rfl, many, rfl⟩
  · cases stored
    exact .inl ⟨few, rfl⟩
  · cases stored
    exact .inr ⟨many, rfl⟩

theorem decreaseSenderCount_mask {effect : Effect (Queue T B) Unit} (done : q.decreaseSenderCount = .ok effect) :
    ∃ last, q.mask.decreaseSenderCount = .ok (effect.state.mask, last) := by
  obtain ⟨⟨mask, last⟩, decreased, stored⟩ := bind_ok done
  cases last with
  | true =>
    cases stored
    exact ⟨_, decreased⟩
  | false =>
    cases stored
    exact ⟨_, decreased⟩

theorem setCounted_mask [MaybeBoundedQueue B] {build : Build} {effect : Effect (Queue T B) Unit}
    (done : q.setCounted build = .ok effect) :
    ∃ cleared, q.reset build = .ok cleared ∧ cleared.state.mask.reset true = .ok effect.state.mask := by
  obtain ⟨cleared, reset, rest⟩ := bind_ok done
  obtain ⟨mask, counted, stored⟩ := bind_ok rest
  cases stored
  exact ⟨cleared, reset, counted⟩

theorem increaseSenderCount_mask (done : q.increaseSenderCount = .ok q') :
    q.mask.increaseSenderCount = .ok q'.mask := by
  obtain ⟨mask, increased, stored⟩ := bind_ok done
  cases stored
  exact increased

theorem decreaseSenderCount_rest {effect : Effect (Queue T B) Unit} (done : q.decreaseSenderCount = .ok effect) :
    effect.state.items = q.items ∧ effect.state.extra = q.extra := by
  obtain ⟨_, ⟨_, rfl⟩ | ⟨_, rfl⟩⟩ := decreaseSenderCount_ok done <;> exact ⟨rfl, rfl⟩

variable [MaybeBoundedQueue B]

theorem setCounted_ok {build : Build} {effect : Effect (Queue T B) Unit} (done : q.setCounted build = .ok effect) :
    ∃ cleared mask, q.reset build = .ok cleared ∧ mask.bits = cleared.state.mask.bits + 2 ∧
      effect = ⟨{ cleared.state with waker := none, mask }, (), cleared.woken⟩ := by
  obtain ⟨cleared, reset, rest⟩ := bind_ok done
  obtain ⟨mask, counted, stored⟩ := bind_ok rest
  cases stored
  exact ⟨cleared, mask, reset, Mask.reset_ok counted, rfl⟩

theorem pollRecv_ok {waker : Waker} {effect : Effect (Queue T B) (Poll (Option T))}
    (done : q.pollRecv counted waker = .ok effect) :
    ∃ received, q.tryRecv counted = .ok received ∧ effect =
      match received.value with
      | .ok elem => ⟨received.state, .ready (some elem), received.woken⟩
      | .error .disconnected => ⟨received.state, .ready none, received.woken⟩
      | .error .empty => ⟨{ received.state with waker := some waker }, .pending, received.woken⟩ := by
  obtain ⟨⟨state, value, woken⟩, received, stored⟩ := bind_ok done
  refine ⟨_, received, ?_⟩
  cases value with
  | ok elem => exact (Except.ok.inj stored).symm
  | error error => cases error <;> exact (Except.ok.inj stored).symm

/-- A poll returns nothing exactly when `try_recv` would report the end. -/
theorem pollRecv_none {waker : Waker} :
    (∃ effect, q.pollRecv counted waker = .ok effect ∧ effect.value = .ready none) ↔
      ∃ effect, q.tryRecv counted = .ok effect ∧ effect.value = .error .disconnected := by
  constructor
  · rintro ⟨effect, done, ends⟩
    obtain ⟨⟨state, value, woken⟩, tried, rfl⟩ := pollRecv_ok done
    refine ⟨_, tried, ?_⟩
    rcases value with (_ | _) | _
    · cases ends
    · rfl
    · cases ends
  · rintro ⟨⟨state, value, woken⟩, tried, rfl⟩
    exact ⟨⟨state, .ready none, woken⟩, by simp [Queue.pollRecv, tried], rfl⟩

end

section
variable {T : Type} {q : UnboundedQueue T} {counted : Bool}

theorem unbounded_reset_ok {build : Build} {effect : Effect (UnboundedQueue T) Unit} (done : q.reset build = .ok effect) :
    effect = ⟨q, (), []⟩ := (Except.ok.inj done).symm

theorem unbounded_close_ok {effect : Effect (UnboundedQueue T) Unit} (done : q.close counted = .ok effect) :
    effect = ⟨{ q with mask := q.mask.close counted }, (), []⟩ := (Except.ok.inj done).symm

theorem unbounded_tryRecv_ok {effect : Effect (UnboundedQueue T) (Except TryRecvError T)}
    (done : q.tryRecv counted = .ok effect) :
    (∃ elem rest capacity popCount, q.items = elem :: rest ∧
      effect = ⟨{ q with queue := ⟨rest, capacity⟩, popCount }, .ok elem, []⟩) ∨
    (q.items = [] ∧ ∃ capacity popCount,
      effect = ⟨{ q with queue := ⟨[], capacity⟩, popCount },
        .error (if q.isClosed counted then .disconnected else .empty), []⟩) := by
  simp only [Queue.tryRecv, MaybeBoundedQueue.tryRecv] at done
  split at done
  next popped =>
    cases done
    obtain ⟨rest, capacity, popCount, items, rfl⟩ := popFront_some popped
    exact .inl ⟨_, rest, capacity, popCount, items, rfl⟩
  next popped =>
    cases done
    obtain ⟨items, capacity, popCount, rfl⟩ := popFront_none popped
    exact .inr ⟨items, capacity, popCount, rfl⟩

theorem unbounded_tryRecv_empty (counted : Bool) (empty : q.items = []) :
    ∃ effect, q.tryRecv counted = .ok effect ∧
      effect.value = .error (if q.isClosed counted then .disconnected else .empty) := by
  obtain ⟨q', popped, mask, _⟩ := popFront_empty empty
  simp only [Queue.tryRecv, MaybeBoundedQueue.tryRecv, popped, Queue.isClosed, mask]
  exact ⟨_, rfl, rfl⟩

theorem unbounded_send_eq (q : UnboundedQueue T) (counted : Bool) (elem : T) :
    (q.isClosed counted = true ∧ UnboundedQueue.send counted q elem = ⟨q, .error ⟨elem⟩, []⟩) ∨
    (q.isClosed counted = false ∧
      UnboundedQueue.send counted q elem = ⟨{ q with queue := q.queue.pushBack elem }, .ok (), q.waker.toList⟩) := by
  unfold UnboundedQueue.send
  split
  next closed => exact .inl ⟨closed, rfl⟩
  next opened => exact .inr ⟨by simpa using opened, rfl⟩

end

section
variable {T : Type} {q : BoundedQueue T} {counted : Bool} {a : Addr} {waker : Waker} {elem : T}

theorem reset_ok {build : Build} {effect : Effect (BoundedQueue T) Unit} (done : q.reset build = .ok effect) :
    ∃ diff semaphore, build.sub q.extra.maxCapacity q.extra.semaphore.availablePermits = .ok diff ∧
      q.extra.semaphore.addPermits diff = .ok (semaphore, effect.woken) ∧
      effect.state = { q with extra.semaphore := semaphore } := by
  obtain ⟨diff, subtracted, rest⟩ := bind_ok done
  obtain ⟨⟨semaphore, woken⟩, added, stored⟩ := bind_ok rest
  cases stored
  exact ⟨diff, semaphore, subtracted, added, rfl⟩

theorem close_ok {effect : Effect (BoundedQueue T) Unit} (done : q.close counted = .ok effect) :
    ∃ closed, q.extra.semaphore.close = .ok closed ∧
      effect = ⟨{ q with mask := q.mask.close counted, extra.semaphore := closed.state }, (), closed.woken⟩ := by
  obtain ⟨closed, closing, stored⟩ := bind_ok done
  cases stored
  exact ⟨closed, closing, rfl⟩

theorem tryRecv_ok {effect : Effect (BoundedQueue T) (Except TryRecvError T)} (done : q.tryRecv counted = .ok effect) :
    (∃ elem rest capacity popCount semaphore, q.items = elem :: rest ∧
      q.extra.semaphore.addPermits 1 = .ok (semaphore, effect.woken) ∧ effect.value = .ok elem ∧
      effect.state = { q with queue := ⟨rest, capacity⟩, popCount, extra.semaphore := semaphore }) ∨
    (q.items = [] ∧ ∃ capacity popCount,
      effect = ⟨{ q with queue := ⟨[], capacity⟩, popCount },
        .error (if q.extra.reserved == 0 && q.isClosed counted then .disconnected else .empty), []⟩) := by
  simp only [Queue.tryRecv, MaybeBoundedQueue.tryRecv] at done
  split at done
  next popped =>
    obtain ⟨rest, capacity, popCount, items, rfl⟩ := popFront_some popped
    obtain ⟨⟨semaphore, woken⟩, added, stored⟩ := bind_ok done
    cases stored
    exact .inl ⟨_, rest, capacity, popCount, semaphore, items, added, rfl, rfl⟩
  next popped =>
    cases done
    obtain ⟨items, capacity, popCount, rfl⟩ := popFront_none popped
    exact .inr ⟨items, capacity, popCount, rfl⟩

theorem tryRecv_empty (counted : Bool) (empty : q.items = []) :
    ∃ effect, q.tryRecv counted = .ok effect ∧
      effect.value = .error (if q.extra.reserved == 0 && q.isClosed counted then .disconnected else .empty) := by
  obtain ⟨q', popped, mask, extra⟩ := popFront_empty empty
  simp only [Queue.tryRecv, MaybeBoundedQueue.tryRecv, popped, Queue.isClosed, mask, extra]
  exact ⟨_, rfl, rfl⟩

theorem trySend_eq (q : BoundedQueue T) (elem : T) :
    (∃ semaphore, q.extra.semaphore.tryAcquireMany 1 = .ok semaphore ∧ BoundedQueue.trySend q elem =
      ⟨{ q with queue := q.queue.pushBack elem, extra.semaphore := semaphore }, .ok (), q.waker.toList⟩) ∨
    (∃ error, q.extra.semaphore.tryAcquireMany 1 = .error error ∧
      BoundedQueue.trySend q elem = ⟨q, .error (.ofAcquire error elem), []⟩) := by
  unfold BoundedQueue.trySend
  split
  next semaphore acquired => exact .inl ⟨semaphore, acquired, rfl⟩
  next error refused => exact .inr ⟨error, refused, rfl⟩

theorem tryReserve_ok {effect : Effect (BoundedQueue T) (Except (TrySendError Unit) Unit)}
    (done : BoundedQueue.tryReserve q = .ok effect) :
    (∃ semaphore, q.extra.semaphore.tryAcquireMany 1 = .ok semaphore ∧ effect =
      ⟨{ q with extra.semaphore := semaphore, extra.reserved := q.extra.reserved + 1 }, .ok (), []⟩) ∨
    (∃ error, q.extra.semaphore.tryAcquireMany 1 = .error error ∧ effect = ⟨q, .error (.ofAcquire error ()), []⟩) := by
  unfold BoundedQueue.tryReserve at done
  split at done
  next semaphore acquired =>
    obtain ⟨reserved, added, stored⟩ := bind_ok done
    obtain ⟨_, rfl⟩ := checkedAdd_ok added
    cases stored
    exact .inl ⟨semaphore, acquired, rfl⟩
  next error refused =>
    cases done
    exact .inr ⟨error, refused, rfl⟩

theorem send_ok {effect : Effect (BoundedQueue T) (Poll (Except (SendError T) Unit))}
    (done : BoundedQueue.send q a waker elem = .ok effect) :
    ∃ awaited, q.extra.semaphore.awaitAcquire a waker = .ok awaited ∧ effect =
      match awaited.value with
      | .pending => ⟨{ q with extra.semaphore := awaited.state }, .pending, awaited.woken⟩
      | .ready (.error _) => ⟨{ q with extra.semaphore := awaited.state }, .ready (.error ⟨elem⟩), awaited.woken⟩
      | .ready (.ok ()) =>
        ⟨{ q with queue := q.queue.pushBack elem, extra.semaphore := awaited.state }, .ready (.ok ()),
          awaited.woken ++ q.waker.toList⟩ := by
  obtain ⟨⟨state, value, woken⟩, awaited, stored⟩ := bind_ok done
  refine ⟨_, awaited, ?_⟩
  cases value with
  | pending => exact (Except.ok.inj stored).symm
  | ready result => cases result <;> exact (Except.ok.inj stored).symm

theorem reserve_ok {effect : Effect (BoundedQueue T) (Poll (Except (SendError Unit) Unit))}
    (done : BoundedQueue.reserve q a waker = .ok effect) :
    ∃ awaited, q.extra.semaphore.awaitAcquire a waker = .ok awaited ∧ effect =
      match awaited.value with
      | .pending => ⟨{ q with extra.semaphore := awaited.state }, .pending, awaited.woken⟩
      | .ready (.error _) => ⟨{ q with extra.semaphore := awaited.state }, .ready (.error ⟨()⟩), awaited.woken⟩
      | .ready (.ok ()) =>
        ⟨{ q with extra.semaphore := awaited.state, extra.reserved := q.extra.reserved + 1 }, .ready (.ok ()),
          awaited.woken⟩ := by
  obtain ⟨⟨state, value, woken⟩, awaited, stored⟩ := bind_ok done
  refine ⟨_, awaited, ?_⟩
  cases value with
  | pending => exact (Except.ok.inj stored).symm
  | ready result =>
    cases result with
    | error error => exact (Except.ok.inj stored).symm
    | ok value =>
      obtain ⟨reserved, added, stored⟩ := bind_ok stored
      obtain ⟨_, rfl⟩ := checkedAdd_ok added
      exact (Except.ok.inj stored).symm

theorem dropAcquire_ok {effect : Effect (BoundedQueue T) Unit} (done : BoundedQueue.dropAcquire q a = .ok effect) :
    ∃ semaphore, q.extra.semaphore.dropFuture a = .ok (semaphore, effect.woken) ∧
      effect.state = { q with extra.semaphore := semaphore } := by
  obtain ⟨⟨semaphore, woken⟩, dropped, stored⟩ := bind_ok done
  cases stored
  exact ⟨semaphore, dropped, rfl⟩

theorem permitSend_ok {effect : Effect (BoundedQueue T) Unit} (done : BoundedQueue.permitSend q elem = .ok effect) :
    1 ≤ q.extra.reserved ∧ effect =
      ⟨{ q with queue := q.queue.pushBack elem, extra.reserved := q.extra.reserved - 1 }, (), q.waker.toList⟩ := by
  obtain ⟨⟨state, value, woken⟩, unreserved, stored⟩ := bind_ok done
  obtain ⟨reserved, subtracted, taken⟩ := bind_ok unreserved
  obtain ⟨le, rfl⟩ := checkedSub_ok subtracted
  cases taken
  cases stored
  exact ⟨le, by simp [BoundedQueue.unboundedSend, Queue.pushAndWake]⟩

theorem dropPermit_ok {effect : Effect (BoundedQueue T) Unit} (done : BoundedQueue.dropPermit q = .ok effect) :
    1 ≤ q.extra.reserved ∧ ∃ semaphore, q.extra.semaphore.addPermits 1 = .ok (semaphore, effect.woken) ∧
      effect.state = { q with extra.semaphore := semaphore, extra.reserved := q.extra.reserved - 1 } := by
  obtain ⟨reserved, subtracted, rest⟩ := bind_ok done
  obtain ⟨le, rfl⟩ := checkedSub_ok subtracted
  obtain ⟨⟨semaphore, woken⟩, added, stored⟩ := bind_ok rest
  cases stored
  exact ⟨le, semaphore, added, rfl⟩

theorem dropOwnedPermit_ok {effect : Effect (BoundedQueue T) Unit} (done : BoundedQueue.dropOwnedPermit q = .ok effect) :
    ∃ returned dropped, BoundedQueue.dropPermit q = .ok returned ∧ returned.state.decreaseSenderCount = .ok dropped ∧
      effect = ⟨dropped.state, (), returned.woken ++ dropped.woken⟩ := by
  obtain ⟨returned, unreserved, rest⟩ := bind_ok done
  obtain ⟨dropped, decreased, stored⟩ := bind_ok rest
  cases stored
  exact ⟨returned, dropped, unreserved, decreased, rfl⟩

theorem dropReserveOwned_ok {effect : Effect (BoundedQueue T) Unit}
    (done : BoundedQueue.dropReserveOwned q a = .ok effect) :
    ∃ cancelled dropped, BoundedQueue.dropAcquire q a = .ok cancelled ∧
      cancelled.state.decreaseSenderCount = .ok dropped ∧
      effect = ⟨dropped.state, (), cancelled.woken ++ dropped.woken⟩ := by
  obtain ⟨cancelled, cancelling, rest⟩ := bind_ok done
  obtain ⟨dropped, decreased, stored⟩ := bind_ok rest
  cases stored
  exact ⟨cancelled, dropped, cancelling, decreased, rfl⟩

end
end AsyncUnsync.Proofs.QueueCalls
