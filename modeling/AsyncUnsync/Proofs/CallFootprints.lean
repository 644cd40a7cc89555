import AsyncUnsync.Proofs.BoundedValid

/-! What every call of a bounded channel does to the flag of its semaphore, and to the
number of reservations. Only closing sets the flag, and every reservation has its permit. -/

namespace AsyncUnsync.Proofs.CallFootprints
open Memory BoundedSystem QueueCalls FuturePolls BoundedClients BoundedCensus BoundedValid
open LedgerSimulation LedgerTurns SlotAccounting

variable {T : Type}

/-- What a call does to the semaphore's flag and to the reservations, by its kind alone. -/
structure Footprint (s : State T) (action : Action T) (effect : Effect (BoundedQueue T) (Reply T)) : Prop where
  closed : effect.state.extra.semaphore.shared.closed =
    (s.queue.extra.semaphore.shared.closed || (move s.clients action).closes)
  reserved : losesPermit action = false → effect.state.extra.reserved + holds s.clients =
    s.queue.extra.reserved + holds (record s.clients effect.value action)

section Semaphore
variable {s s' : Semaphore} {n : Nat} {a : Addr} {woken : List Waker} {waker : Waker} {l : Ledger} {ticket : Ticket}

private theorem flag_eq (same : s'.ledger = l) : s'.shared.closed = l.closed := congrArg Ledger.closed same

theorem addPermits_flag (sound : Sound s) (done : s.addPermits n = .ok (s', woken)) :
    s'.shared.closed = s.shared.closed := by
  obtain ⟨_, same, _⟩ := addPermits_ok sound done
  rw [flag_eq same, addPermits_closed]
  rfl

theorem tryAcquireMany_flag (sound : Sound s) (done : s.tryAcquireMany n = .ok s') : s'.shared.closed = s.shared.closed := by
  obtain ⟨_, _, taken⟩ := tryAcquireMany_ok sound done
  exact (tryAcquire_tickets taken).2

theorem close_flag (sound : Sound s) {effect : Effect Semaphore Nat} (done : s.close = .ok effect) :
    effect.state.shared.closed = true := flag_eq (SlotAccounting.close_ok sound done).2.1

theorem dropFuture_flag (sound : Sound s) (held : s.ledger.tickets.get? a = some ticket)
    (done : s.dropFuture a = .ok (s', woken)) : s'.shared.closed = s.shared.closed := by
  obtain ⟨_, same, _⟩ := dropFuture_ok sound held done
  rw [flag_eq same, Ledger.drop, addPermits_closed]
  rfl

theorem awaitAcquire_flag (sound : Sound s) (held : s.ledger.tickets.get? a = some ticket)
    {effect : Effect Semaphore (Poll (Except AcquireError Unit))} (done : s.awaitAcquire a waker = .ok effect) :
    effect.state.shared.closed = s.shared.closed := by
  obtain ⟨_, ⟨_, _, polled⟩ | ⟨_, _, _, ⟨_, same⟩ | ⟨_, _, same⟩⟩ | ⟨_, _, same, _⟩⟩ := awaitAcquire_ok sound held done
  · have kept := poll_flag s.ledger a ticket waker
    rw [polled] at kept
    exact kept
  · exact flag_eq same
  · exact flag_eq same
  · rw [flag_eq same, Ledger.drop, addPermits_closed]
    rfl

end Semaphore

section Calls
variable {q : BoundedQueue T}

theorem setCounted_rest {build : Build} {effect : Effect (BoundedQueue T) Unit} (sound : Sound q.extra.semaphore)
    (done : q.setCounted build = .ok effect) :
    effect.state.extra.semaphore.shared.closed = q.extra.semaphore.shared.closed ∧
      effect.state.extra.reserved = q.extra.reserved := by
  obtain ⟨cleared, mask, reset, _, rfl⟩ := setCounted_ok done
  obtain ⟨diff, semaphore, _, added, same⟩ := reset_ok reset
  rw [same]
  exact ⟨addPermits_flag sound added, rfl⟩

theorem tryRecv_rest {counted : Bool} {effect : Effect (BoundedQueue T) (Except TryRecvError T)} (sound : Sound q.extra.semaphore)
    (done : q.tryRecv counted = .ok effect) :
    effect.state.extra.semaphore.shared.closed = q.extra.semaphore.shared.closed ∧
      effect.state.extra.reserved = q.extra.reserved := by
  rcases tryRecv_ok done with ⟨_, _, _, _, semaphore, _, added, _, same⟩ | ⟨_, _, _, rfl⟩
  · rw [same]
    exact ⟨addPermits_flag sound added, rfl⟩
  · exact ⟨rfl, rfl⟩

theorem pollRecv_rest {counted : Bool} {waker : Waker} {effect : Effect (BoundedQueue T) (Poll (Option T))}
    (sound : Sound q.extra.semaphore) (done : q.pollRecv counted waker = .ok effect) :
    effect.state.extra.semaphore.shared.closed = q.extra.semaphore.shared.closed ∧
      effect.state.extra.reserved = q.extra.reserved := by
  obtain ⟨received, tried, rfl⟩ := pollRecv_ok done
  have kept := tryRecv_rest sound tried
  split <;> exact kept

theorem tryReserve_rest {effect : Effect (BoundedQueue T) (Except (TrySendError Unit) Unit)} (sound : Sound q.extra.semaphore)
    (done : BoundedQueue.tryReserve q = .ok effect) :
    effect.state.extra.semaphore.shared.closed = q.extra.semaphore.shared.closed ∧
      effect.state.extra.reserved = q.extra.reserved + if effect.value = .ok () then 1 else 0 := by
  rcases tryReserve_ok done with ⟨semaphore, acquired, rfl⟩ | ⟨_, _, rfl⟩
  · exact ⟨tryAcquireMany_flag sound acquired, rfl⟩
  · exact ⟨rfl, rfl⟩

theorem dropPermit_rest {effect : Effect (BoundedQueue T) Unit} (sound : Sound q.extra.semaphore)
    (done : BoundedQueue.dropPermit q = .ok effect) :
    effect.state.extra.semaphore.shared.closed = q.extra.semaphore.shared.closed ∧
      effect.state.extra.reserved + 1 = q.extra.reserved := by
  obtain ⟨some, semaphore, added, same⟩ := dropPermit_ok done
  rw [same]
  exact ⟨addPermits_flag sound added, Nat.sub_add_cancel some⟩

end Calls

section Step
variable {build : Build} {s : State T} {action : Action T} {effect : Effect (BoundedQueue T) (Reply T)}

private theorem Footprint.same (closed : effect.state.extra.semaphore.shared.closed = s.queue.extra.semaphore.shared.closed)
    (reserved : effect.state.extra.reserved = s.queue.extra.reserved) (still : (move s.clients action).closes = false)
    (permits : holds (record s.clients effect.value action) = holds s.clients) : Footprint s action effect :=
  ⟨by rw [closed, still, Bool.or_false], fun _ => by rw [reserved, permits]⟩

theorem footprint (housed : Housed s.clients.futures s.queue.extra.semaphore) (able : enabled s.clients action = true)
    (operated : operate build s action = .ok effect) : Footprint s action effect := by
  have sound := housed.sound
  cases action with
  | split | intoSplit =>
    obtain ⟨split, done, stored⟩ := bind_ok operated
    obtain ⟨closed, reserved⟩ := setCounted_rest sound done
    cases stored
    exact .same closed reserved rfl rfl
  | intoDeque | forgetReceiver | forgetSender =>
    cases operated
    exact .same rfl rfl rfl rfl
  | close mode =>
    obtain ⟨closed, done, stored⟩ := bind_ok operated
    obtain ⟨_, closing, rfl⟩ := QueueCalls.close_ok done
    cases stored
    exact ⟨by simp [Effect.map, close_flag sound closing, move, Census.Move.closes], fun _ => rfl⟩
  | dropReceiver =>
    obtain ⟨closed, done, stored⟩ := bind_ok operated
    obtain ⟨_, closing, rfl⟩ := QueueCalls.close_ok done
    cases stored
    exact ⟨by simp [Effect.map, close_flag sound closing, move, Census.Move.closes], fun _ => rfl⟩
  | tryRecv mode =>
    obtain ⟨received, done, stored⟩ := bind_ok operated
    obtain ⟨closed, reserved⟩ := tryRecv_rest sound done
    cases stored
    exact .same closed reserved rfl rfl
  | pollRecv mode waker =>
    obtain ⟨polled, done, stored⟩ := bind_ok operated
    obtain ⟨closed, reserved⟩ := pollRecv_rest sound done
    cases stored
    exact .same closed reserved rfl rfl
  | trySend via elem =>
    cases operated
    rcases trySend_eq s.queue elem with ⟨semaphore, acquired, sent⟩ | ⟨_, _, sent⟩
    · exact .same (by simpa [Effect.map, sent] using tryAcquireMany_flag sound acquired) (by simp [Effect.map, sent]) rfl rfl
    · exact .same (by simp [Effect.map, sent]) (by simp [Effect.map, sent]) rfl rfl
  | tryReserve via =>
    obtain ⟨tried, done, stored⟩ := bind_ok operated
    obtain ⟨closed, reserved⟩ := tryReserve_rest sound done
    cases stored
    refine ⟨by simpa [Effect.map, move, Census.Move.closes] using closed, fun _ => ?_⟩
    simp only [Effect.map, reserved]
    rcases value : tried.value with error | _
    · simp [record, Except.map]
    · simp only [record, Except.map, holds, Arena.count_alloc, if_true]
      omega
  | tryReserveOwned id =>
    obtain ⟨tried, done, stored⟩ := bind_ok operated
    obtain ⟨closed, reserved⟩ := tryReserve_rest sound done
    cases stored
    refine ⟨by simpa [Effect.map, move, Census.Move.closes] using closed, fun _ => ?_⟩
    simp only [Effect.map, reserved]
    rcases value : tried.value with error | _
    · simp [record]
    · simp only [record, holds, Arena.count_alloc, if_true]
      omega
  | send via elem | reserve via | reserveOwned id =>
    cases operated
    exact .same rfl rfl rfl rfl
  | pollFuture a waker =>
    have flag : ∀ {future awaited}, s.clients.futures.get? a = some future →
        s.queue.extra.semaphore.awaitAcquire a waker = .ok awaited →
        awaited.state.shared.closed = s.queue.extra.semaphore.shared.closed := by
      intro future awaited found done
      obtain ⟨ticket, held, _⟩ := held_of_demand (housed.held a future found)
      exact awaitAcquire_flag sound held done
    cases pollFuture_ok operated with
    | pending found awaited | sent found awaited | unsent found awaited | unreserved found awaited
    | unreservedOwned found awaited => exact .same (flag found awaited) rfl rfl rfl
    | reserved found awaited | reservedOwned found awaited =>
      refine ⟨(flag found awaited).trans (Bool.or_false _).symm, fun _ => ?_⟩
      simp only [record, holds, Arena.count_alloc, if_true]
      omega
  | dropFuture a =>
    have still : (move s.clients (.dropFuture a)).closes = false := by
      simp only [move]
      split <;> rfl
    cases dropFuture_cancelled operated with
    | borrowing found _ freed =>
      obtain ⟨ticket, held, _⟩ := held_of_demand (housed.held a _ found)
      exact .same (dropFuture_flag sound held freed) rfl still rfl
    | owning found _ freed decreased =>
      obtain ⟨ticket, held, _⟩ := held_of_demand (housed.held a _ found)
      obtain ⟨_, extra⟩ := decreaseSenderCount_rest decreased
      exact .same (by rw [extra]; exact dropFuture_flag sound held freed) (by rw [extra]) still rfl
  | forgetFuture a =>
    cases operated
    exact .same rfl rfl (by simp only [move]; split <;> rfl) rfl
  | permitSend p elem | ownedPermitSend p elem =>
    have freed := Arena.count_free_live able
    obtain ⟨sent, done, stored⟩ := bind_ok operated
    obtain ⟨some, rfl⟩ := permitSend_ok done
    cases stored
    refine ⟨(Bool.or_false _).symm, fun _ => ?_⟩
    simp only [record, holds, Effect.map]
    omega
  | dropPermit p =>
    have freed := Arena.count_free_live able
    obtain ⟨dropped, done, stored⟩ := bind_ok operated
    obtain ⟨closed, reserved⟩ := dropPermit_rest sound done
    cases stored
    refine ⟨closed.trans (Bool.or_false _).symm, fun _ => ?_⟩
    simp only [record, holds, Effect.map]
    omega
  | dropOwnedPermit p =>
    have freed := Arena.count_free_live able
    obtain ⟨dropped, done, stored⟩ := bind_ok operated
    obtain ⟨returned, decreased, returning, decreasing, rfl⟩ := dropOwnedPermit_ok done
    obtain ⟨closed, reserved⟩ := dropPermit_rest sound returning
    rw [← (decreaseSenderCount_rest decreasing).2] at closed reserved
    cases stored
    refine ⟨closed.trans (Bool.or_false _).symm, fun _ => ?_⟩
    simp only [record, holds, Effect.map]
    omega
  | forgetPermit p | forgetOwnedPermit p =>
    cases operated
    exact ⟨by simp [move, Census.Move.closes], fun kept => by cases kept⟩
  | cloneSender id =>
    obtain ⟨queue, done, stored⟩ := bind_ok operated
    obtain ⟨_, _, rfl⟩ := increaseSenderCount_ok done
    cases stored
    exact .same rfl rfl rfl rfl
  | dropSender id =>
    obtain ⟨dropped, done, stored⟩ := bind_ok operated
    obtain ⟨_, extra⟩ := decreaseSenderCount_rest done
    cases stored
    exact .same (by simp [Effect.map, extra]) (by simp [Effect.map, extra]) rfl rfl

end Step

end AsyncUnsync.Proofs.CallFootprints
