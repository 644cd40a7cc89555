import AsyncUnsync.Proofs.BoundedValid

/-! What every call of the semaphore keeps is kept by every call of a bounded channel,
leaks included. So a future that was woken in an open channel has its slot. -/

namespace AsyncUnsync.Proofs.GrantedSlots
open Memory Transition BoundedSystem QueueCalls FuturePolls BoundedValid LedgerSimulation LedgerTurns SlotAccounting
variable {T : Type}

/-- A property of semaphores that none of their calls loses, if only some futures are polled. -/
structure Persists (polled : Addr → Prop) (holds : Semaphore → Prop) : Prop where
  addPermits : ∀ {s s' : Semaphore} {n : Nat} {woken : List Waker}, Sound s → s.addPermits n = .ok (s', woken) →
    holds s → holds s'
  close : ∀ {s : Semaphore} {effect : Effect Semaphore Nat}, Sound s → s.close = .ok effect → holds s → holds effect.state
  tryAcquireMany : ∀ {s s' : Semaphore} {n : Nat}, Sound s → s.tryAcquireMany n = .ok s' → holds s → holds s'
  acquireMany : ∀ {s : Semaphore} (n : Nat), Sound s → holds s → holds (s.acquireMany n)
  dropFuture : ∀ {s s' : Semaphore} {a : Addr} {ticket : Ticket} {woken : List Waker}, Sound s →
    s.ledger.tickets.get? a = some ticket → s.dropFuture a = .ok (s', woken) → holds s → holds s'
  awaitAcquire : ∀ {s : Semaphore} {a : Addr} {ticket : Ticket} {waker : Waker}
    {effect : Effect Semaphore (Poll (Except AcquireError Unit))}, polled a → Sound s →
    s.ledger.tickets.get? a = some ticket → s.awaitAcquire a waker = .ok effect → holds s → holds effect.state

/-- The queue loses neither the property nor the capacity that it was made with. -/
structure Keeps (holds : Semaphore → Prop) (q q' : BoundedQueue T) : Prop where
  semaphore : holds q.extra.semaphore → holds q'.extra.semaphore
  capacity : q'.extra.maxCapacity = q.extra.maxCapacity

variable {polled : Addr → Prop} {holds : Semaphore → Prop} {q q' : BoundedQueue T} {s : State T} {a : Addr} {waker : Waker}

section Calls

theorem Keeps.same (same : q'.extra = q.extra) : Keeps holds q q' := by
  refine ⟨fun kept => ?_, ?_⟩
  · rw [same]
    exact kept
  · rw [same]

theorem Keeps.trans {q'' : BoundedQueue T} (first : Keeps holds q q') (second : Keeps holds q' q'') : Keeps holds q q'' :=
  ⟨fun kept => second.semaphore (first.semaphore kept), second.capacity.trans first.capacity⟩

theorem Keeps.decrease {effect : Effect (BoundedQueue T) Unit} (done : q.decreaseSenderCount = .ok effect) :
    Keeps holds q effect.state := .same (decreaseSenderCount_rest done).2

theorem Persists.setCounted (persists : Persists polled holds) (sound : Sound q.extra.semaphore) {build : Build}
    {effect : Effect (BoundedQueue T) Unit} (done : q.setCounted build = .ok effect) : Keeps holds q effect.state := by
  obtain ⟨cleared, mask, reset, _, rfl⟩ := setCounted_ok done
  obtain ⟨diff, semaphore, _, added, same⟩ := reset_ok reset
  rw [same]
  exact ⟨persists.addPermits sound added, rfl⟩

theorem Persists.tryRecv (persists : Persists polled holds) (sound : Sound q.extra.semaphore) {counted : Bool}
    {effect : Effect (BoundedQueue T) (Except TryRecvError T)} (done : q.tryRecv counted = .ok effect) :
    Keeps holds q effect.state := by
  rcases tryRecv_ok done with ⟨_, _, _, _, semaphore, _, added, _, same⟩ | ⟨_, _, _, rfl⟩
  · rw [same]
    exact ⟨persists.addPermits sound added, rfl⟩
  · exact .same rfl

theorem Persists.pollRecv (persists : Persists polled holds) (sound : Sound q.extra.semaphore) {counted : Bool}
    {effect : Effect (BoundedQueue T) (Poll (Option T))} (done : q.pollRecv counted waker = .ok effect) :
    Keeps holds q effect.state := by
  obtain ⟨received, tried, rfl⟩ := pollRecv_ok done
  have kept := persists.tryRecv sound tried
  split
  · exact kept
  · exact kept
  · exact kept.trans (.same rfl)

theorem Persists.trySend (persists : Persists polled holds) (sound : Sound q.extra.semaphore) (elem : T) :
    Keeps holds q (BoundedQueue.trySend q elem).state := by
  rcases trySend_eq q elem with ⟨semaphore, acquired, same⟩ | ⟨_, _, same⟩
  · rw [same]
    exact ⟨persists.tryAcquireMany sound acquired, rfl⟩
  · rw [same]
    exact .same rfl

theorem Persists.tryReserve (persists : Persists polled holds) (sound : Sound q.extra.semaphore)
    {effect : Effect (BoundedQueue T) (Except (TrySendError Unit) Unit)} (done : BoundedQueue.tryReserve q = .ok effect) :
    Keeps holds q effect.state := by
  rcases tryReserve_ok done with ⟨semaphore, acquired, rfl⟩ | ⟨_, _, rfl⟩
  · exact ⟨persists.tryAcquireMany sound acquired, rfl⟩
  · exact .same rfl

theorem Persists.dropPermit (persists : Persists polled holds) (sound : Sound q.extra.semaphore)
    {effect : Effect (BoundedQueue T) Unit} (done : BoundedQueue.dropPermit q = .ok effect) :
    Keeps holds q effect.state := by
  obtain ⟨_, semaphore, added, same⟩ := dropPermit_ok done
  rw [same]
  exact ⟨persists.addPermits sound added, rfl⟩

theorem Persists.pollFuture (persists : Persists polled holds) (housed : Housed s.clients.futures s.queue.extra.semaphore)
    {effect : Effect (BoundedQueue T) (Reply T)} (allowed : polled a) (polling : Polled s a waker effect) :
    Keeps holds s.queue effect.state := by
  have awaited : ∀ {future : Suspended T} {awaited : Effect Semaphore (Poll (Except AcquireError Unit))},
      s.clients.futures.get? a = some future → s.queue.extra.semaphore.awaitAcquire a waker = .ok awaited →
      holds s.queue.extra.semaphore → holds awaited.state := by
    intro future awaited found done
    obtain ⟨ticket, held, _⟩ := held_of_demand (housed.held _ _ found)
    exact persists.awaitAcquire allowed housed.sound held done
  cases polling with
  | pending found done | sent found done | unsent found done | reserved found done | unreserved found done
  | reservedOwned found done | unreservedOwned found done => exact ⟨awaited found done, rfl⟩

theorem Persists.cancel (persists : Persists polled holds) (housed : Housed s.clients.futures s.queue.extra.semaphore)
    {effect : Effect (BoundedQueue T) (Reply T)} (cancelled : Cancelled s a effect) : Keeps holds s.queue effect.state := by
  have dropped : ∀ {future : Suspended T} {semaphore : Semaphore} {woken : List Waker},
      s.clients.futures.get? a = some future → s.queue.extra.semaphore.dropFuture a = .ok (semaphore, woken) →
      Keeps holds s.queue (settled s semaphore) := by
    intro future semaphore woken found freed
    obtain ⟨ticket, held, _⟩ := held_of_demand (housed.held _ _ found)
    exact ⟨persists.dropFuture housed.sound held freed, rfl⟩
  cases cancelled with
  | borrowing found _ freed => exact dropped found freed
  | owning found _ freed decreased => exact (dropped found freed).trans (.decrease decreased)

end Calls

/-- The step lemma: no call of the channel loses what no call of the semaphore loses. -/
theorem Persists.step {build : Build} {action : Action T} {effect : Effect (BoundedQueue T) (Reply T)}
    (persists : Persists polled holds) (housed : Housed s.clients.futures s.queue.extra.semaphore)
    (allowed : ∀ a waker, action = .pollFuture a waker → polled a) (operated : operate build s action = .ok effect) :
    Keeps holds s.queue effect.state := by
  have sound := housed.sound
  cases action with
  | split | intoSplit =>
    obtain ⟨counted, done, stored⟩ := bind_ok operated
    cases stored
    exact persists.setCounted sound done
  | intoDeque | forgetReceiver | forgetFuture | forgetPermit | forgetOwnedPermit | forgetSender =>
    cases operated
    exact .same rfl
  | close | dropReceiver =>
    obtain ⟨closed, done, stored⟩ := bind_ok operated
    obtain ⟨_, closing, rfl⟩ := QueueCalls.close_ok done
    cases stored
    exact ⟨persists.close sound closing, rfl⟩
  | tryRecv counted =>
    obtain ⟨received, done, stored⟩ := bind_ok operated
    cases stored
    exact persists.tryRecv sound done
  | pollRecv counted waker =>
    obtain ⟨polled, done, stored⟩ := bind_ok operated
    cases stored
    exact persists.pollRecv sound done
  | trySend via elem =>
    cases operated
    exact persists.trySend sound elem
  | tryReserve | tryReserveOwned =>
    obtain ⟨reserved, done, stored⟩ := bind_ok operated
    cases stored
    exact persists.tryReserve sound done
  | send | reserve | reserveOwned =>
    cases operated
    exact ⟨persists.acquireMany 1 sound, rfl⟩
  | pollFuture a waker => exact persists.pollFuture housed (allowed a waker rfl) (pollFuture_ok operated)
  | dropFuture a => exact persists.cancel housed (dropFuture_cancelled operated)
  | permitSend | ownedPermitSend =>
    obtain ⟨sent, done, stored⟩ := bind_ok operated
    obtain ⟨_, rfl⟩ := permitSend_ok done
    cases stored
    exact ⟨id, rfl⟩
  | dropPermit =>
    obtain ⟨dropped, done, stored⟩ := bind_ok operated
    cases stored
    exact persists.dropPermit sound done
  | dropOwnedPermit =>
    obtain ⟨dropped, done, stored⟩ := bind_ok operated
    obtain ⟨_, _, returning, decreasing, rfl⟩ := dropOwnedPermit_ok done
    cases stored
    exact (persists.dropPermit sound returning).trans (.decrease decreasing)
  | cloneSender =>
    obtain ⟨queue, done, stored⟩ := bind_ok operated
    obtain ⟨_, _, rfl⟩ := increaseSenderCount_ok done
    cases stored
    exact .same rfl
  | dropSender =>
    obtain ⟨dropped, done, stored⟩ := bind_ok operated
    cases stored
    exact .decrease done

/-- In an open semaphore, whoever was woken holds all it wants. -/
def Granting (s : Semaphore) : Prop := Full s.ledger

theorem persists_granting : Persists (fun _ => True) Granting where
  addPermits := by
    intro s s' n woken sound done full
    obtain ⟨_, same, _⟩ := addPermits_ok sound done
    rw [Granting, same]
    exact full.addPermits sound.valid n
  close := by
    intro s effect sound done _
    obtain ⟨_, same, _⟩ := SlotAccounting.close_ok sound done
    rw [Granting, same]
    exact .close _
  tryAcquireMany := by
    intro s s' n sound done full opened a ticket held woken
    obtain ⟨_, _, taken⟩ := tryAcquireMany_ok sound done
    obtain ⟨tickets, closed⟩ := tryAcquire_tickets taken
    rw [tickets] at held
    exact full (by rw [← closed, opened]) a ticket held woken
  acquireMany := by
    intro s n sound full
    obtain ⟨same, _⟩ := sound.acquireMany n
    rw [Granting, same]
    exact full.acquireMany n
  dropFuture := by
    intro s s' a ticket woken sound held done full
    obtain ⟨_, same, _⟩ := dropFuture_ok sound held done
    rw [Granting, same]
    exact full.drop sound.valid a ticket
  awaitAcquire := by
    intro s a ticket waker effect _ sound held done full
    obtain ⟨_, ⟨_, _, polled⟩ | ⟨_, _, _, ⟨_, same⟩ | ⟨_, _, same⟩⟩ | ⟨_, _, same, _⟩⟩ := awaitAcquire_ok sound held done
    · exact Full.pending full held polled
    · rw [Granting, same]
      exact Full.forget full a
    · rw [Granting, same]
      exact Full.forget full a
    · rw [Granting, same]
      exact Full.drop full sound.valid a ticket

/-- What a bounded channel has from its constructor on. -/
structure Granted (q : BoundedQueue T) : Prop where
  granting : Granting q.extra.semaphore
  bound : q.extra.maxCapacity ≤ usizeMax

theorem Granted.keeps (granted : Granted q) (kept : Keeps Granting q q') : Granted q' :=
  ⟨kept.semaphore granted.granting, by rw [kept.capacity]; exact granted.bound⟩

theorem granted_initial {build : Build} {s : State T} (initial : (system T build).Initial s) : Granted s.queue := by
  obtain ⟨_, constructed, rfl⟩ := initial
  obtain ⟨deque, permits, cap, rfl, total, bound⟩ := constructed_eq constructed
  exact ⟨(Stock.new (show permits ≤ usizeMax by omega)).full, bound⟩

end AsyncUnsync.Proofs.GrantedSlots
