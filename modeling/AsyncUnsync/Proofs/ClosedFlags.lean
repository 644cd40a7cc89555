import AsyncUnsync.Proofs.CallFootprints

/-! A bounded channel is closed in two places: the mask, which `is_closed` reads, and the
semaphore, which whoever sends runs into. They agree for everyone who can send. -/

namespace AsyncUnsync.Proofs.ClosedFlags
open Memory Transition BoundedSystem QueueCalls FuturePolls BoundedClients BoundedCensus BoundedValid CensusCounts
open CallFootprints LedgerSimulation SlotAccounting

variable {T : Type}

section Run
variable {build : Build} {start state : State T} {past history : History (State T) (Action T) (Outcome T)}
  {event : Event (State T) (Action T) (Outcome T)} {counted : Bool}

/-- No handle is leaked, nor a sender inside something else. -/
def Kept (event : Event (State T) (Action T) (Outcome T)) : Prop :=
  (move event.before.clients event.action).leaks = false

instance (event : Event (State T) (Action T) (Outcome T)) : Decidable (Kept event) := inferInstanceAs (Decidable (_ = _))

private theorem run_footprint (run : (system T build).Run start (event :: past) event.after) :
    event.after.queue.extra.semaphore.shared.closed =
      (event.before.queue.extra.semaphore.shared.closed || (move event.before.clients event.action).closes) ∧
    (losesPermit event.action = false → event.after.queue.extra.reserved + holds event.before.clients =
      event.before.queue.extra.reserved + holds event.after.clients) := by
  obtain ⟨_, valid, able, effect, operated, after, _⟩ := run_step run
  have print := footprint valid.housed able operated
  rw [after]
  exact ⟨print.closed, print.reserved⟩

/-- The semaphore is closed by those who close the channel, and by nobody else. -/
theorem run_closed (run : (system T build).Run start history state) :
    state.queue.extra.semaphore.shared.closed = true ↔
      ∃ event ∈ history, (move event.before.clients event.action).closes = true := by
  refine run.invariant (fun history state => state.queue.extra.semaphore.shared.closed = true ↔
    ∃ event ∈ history, (move event.before.clients event.action).closes = true) ?_ ?_
  · rintro ⟨queue, constructed, rfl⟩
    obtain ⟨_, _, _, rfl, _⟩ := constructed_eq constructed
    simp [State.new, Queue.new, Semaphore.new]
  · intro past before action outcome after reached closed enabled stepped
    rw [(run_footprint (.step reached enabled stepped)).1, Bool.or_eq_true, closed]
    simp [or_comm]

theorem run_reserved (run : (system T build).Run start history state)
    (kept : ∀ event ∈ history, losesPermit event.action = false) : state.queue.extra.reserved = holds state.clients := by
  revert kept
  refine run.invariant (fun history state => (∀ event ∈ history, losesPermit event.action = false) →
    state.queue.extra.reserved = holds state.clients) ?_ ?_
  · rintro ⟨queue, constructed, rfl⟩ _
    obtain ⟨_, _, _, rfl, _⟩ := constructed_eq constructed
    rfl
  · intro past before action outcome after reached earlier enabled stepped kept
    have reserved := earlier fun event member => kept event (List.mem_cons_of_mem _ member)
    have balance := (run_footprint (.step reached enabled stepped)).2 (kept _ (List.mem_cons_self ..))
    dsimp only at balance
    omega

theorem run_exact (run : (system T build).Run start history state) (kept : ∀ event ∈ history, Kept event) :
    Exact (∃ event ∈ history, (move event.before.clients event.action).closes = true)
      (∃ event ∈ history, splits event.action = true) (census state) := by
  have exact := CensusCounts.run_exact (run_census run) (by simpa [told, Event.image, Kept] using kept)
  simpa [told, Event.image, move_splits] using exact

/-- Somebody can send through the channel itself, or through a sender, wherever it is. -/
def sends (counted : Bool) (s : State T) : Bool :=
  if counted then s.clients.senderCount != 0 else s.clients.handles.unsplit

theorem alone_of_sends {s : State T} (coherent : Coherent s.clients) (live : sends counted s = true) :
    counted = false → s.clients.senderCount = 0 := by
  intro whole
  subst whole
  exact unsplit_senders coherent live

def countedBy (future : Suspended T) : Bool := future.via.all Via.counted

def failed : Reply T → Bool
  | .sent (.error _) | .reserved _ (.error _) | .reservedOwned (.error _) => true
  | _ => false

/-- What the two notions of closed mean to those who can send. -/
structure Agrees (build : Build) (s : State T) : Prop where
  /-- Whoever can send at once is refused exactly when it sees the channel closed. -/
  refuses : ∀ counted, sends counted s = true →
    (∀ elem, (BoundedQueue.trySend s.queue elem).value = .error (.closed elem) ↔ s.queue.isClosed counted = true) ∧
      ((∃ effect, BoundedQueue.tryReserve s.queue = .ok effect ∧ effect.value = .error (.closed ())) ↔
        s.queue.isClosed counted = true)
  /-- A future fails at its next poll exactly when its handle sees the channel closed, whatever it was granted. -/
  fails : ∀ a future, s.clients.futures.get? a = some future → sends (countedBy future) s = true ∧
    ∀ waker, (∃ effect, operate build s (.pollFuture a waker) = .ok effect ∧ failed effect.value = true) ↔
      s.queue.isClosed (countedBy future) = true
  /-- An open channel refuses only when it is full. -/
  full : ∀ counted, sends counted s = true → s.queue.isClosed counted = false → ∀ elem,
    ((BoundedQueue.trySend s.queue elem).value ≠ .ok () ↔ s.queue.capacity = 0) ∧
      ((BoundedQueue.trySend s.queue elem).value = .error (.full elem) ↔ s.queue.capacity = 0)

/-- Whoever can send sees the flag of the semaphore in the mask. -/
theorem run_agrees (run : (system T build).Run start history state) (kept : ∀ event ∈ history, Kept event)
    (live : sends counted state = true) :
    state.queue.isClosed counted = state.queue.extra.semaphore.shared.closed := by
  have exact := run_exact run kept
  have seen := exact.isClosed (alone_of_sends (run_valid run).coherent live)
  obtain ⟨_, ended, _, retired⟩ := exact
  rw [← run_closed run] at ended retired
  have closed : state.queue.isClosed counted = true ↔ state.queue.extra.semaphore.shared.closed = true := by
    refine seen.trans (ended.trans ⟨?_, .inl⟩)
    rintro (closed | ⟨split, none⟩)
    · exact closed
    · cases counted with
      | true => exact absurd none (by simpa [sends, census] using live)
      | false => exact retired (Handles.unsplit_iff.mp live).2.1 split
  exact Bool.eq_iff_iff.mpr closed

private theorem tryAcquireMany_closed {s : Semaphore} :
    s.tryAcquireMany 1 = .error .closed ↔ s.shared.closed = true := by
  cases closed : s.shared.closed with
  | true => simp [Semaphore.tryAcquireMany, Shared.tryAcquire, Shared.isClosed, closed]
  | false =>
    by_cases few : 1 > s.shared.permits <;>
      simp [Semaphore.tryAcquireMany, Shared.tryAcquire, Shared.isClosed, closed, few]

private theorem tryAcquireMany_full {s : Semaphore} (opened : s.shared.closed = false) :
    s.tryAcquireMany 1 = .error .noPermits ↔ s.availablePermits = 0 := by
  by_cases few : 1 > s.shared.permits
  · have none : s.availablePermits = 0 := Nat.lt_one_iff.mp few
    simp [Semaphore.tryAcquireMany, Shared.tryAcquire, Shared.isClosed, opened, few, none]
  · have some : s.availablePermits ≠ 0 := by
      simp only [Semaphore.availablePermits]
      omega
    simp [Semaphore.tryAcquireMany, Shared.tryAcquire, Shared.isClosed, opened, few, some]

private theorem trySend_refused (q : BoundedQueue T) (elem : T) (error : TryAcquireError) :
    (BoundedQueue.trySend q elem).value = .error (.ofAcquire error elem) ↔
      q.extra.semaphore.tryAcquireMany 1 = .error error := by
  rcases trySend_eq q elem with ⟨_, acquired, same⟩ | ⟨other, refused, same⟩
  · simp [same, acquired]
  · rw [same, refused]
    cases error <;> cases other <;> simp [TrySendError.ofAcquire]

private theorem tryReserve_refused {q : BoundedQueue T} :
    (∃ effect, BoundedQueue.tryReserve q = .ok effect ∧ effect.value = .error (.closed ())) ↔
      q.extra.semaphore.tryAcquireMany 1 = .error .closed := by
  constructor
  · rintro ⟨effect, done, refused⟩
    rcases tryReserve_ok done with ⟨_, _, rfl⟩ | ⟨error, same, rfl⟩
    · cases refused
    · cases error with
      | closed => exact same
      | noPermits => cases refused
  · intro closed
    exact ⟨⟨q, .error (.closed ()), []⟩, by simp [BoundedQueue.tryReserve, closed, TrySendError.ofAcquire], rfl⟩

private theorem pollFuture_failed {s : State T} {a : Addr} {future : Suspended T} (found : s.clients.futures.get? a = some future)
    (waker : Waker) : (∃ effect, operate build s (.pollFuture a waker) = .ok effect ∧ failed effect.value = true) ↔
      ∃ effect error, s.queue.extra.semaphore.awaitAcquire a waker = .ok effect ∧ effect.value = .ready (.error error) := by
  constructor
  · rintro ⟨effect, operated, fails⟩
    cases pollFuture_ok operated with
    | pending | sent | reserved | reservedOwned => cases fails
    | unsent _ awaited | unreserved _ awaited | unreservedOwned _ awaited => exact ⟨_, _, awaited, rfl⟩
  · rintro ⟨⟨semaphore, value, woken⟩, error, awaited, rfl⟩
    cases future <;> simp [operate, found, BoundedQueue.send, BoundedQueue.reserve, awaited, Effect.map, failed, Except.map]

theorem sends_of_usable {s : State T} {via : Via} (usable : s.clients.handles.usable via = true) :
    sends via.counted s = true := by
  cases via with
  | channel => exact usable
  | sender id =>
    have some := Handles.senderCount_pos usable
    simp only [sends, Via.counted, if_true, bne_iff_ne, ne_eq, Clients.senderCount]
    omega

theorem sends_of_future {s : State T} (coherent : Coherent s.clients) {a : Addr} {future : Suspended T}
    (found : s.clients.futures.get? a = some future) : sends (countedBy future) s = true := by
  cases borrows : future.via with
  | some via =>
    have usable := coherent.borrowed via (.inr ⟨a, future, found, borrows⟩)
    simpa [countedBy, borrows] using sends_of_usable usable
  | none =>
    have owned : future.owned = true := by simp [Suspended.owned, borrows]
    have some := Arena.count_pos found owned
    simp only [sends, countedBy, borrows, Option.all_none, if_true, bne_iff_ne, ne_eq, Clients.senderCount]
    omega

section Seen
variable (run : (system T build).Run start history state) (kept : ∀ event ∈ history, Kept event)
include run kept

theorem trySend_closed (live : sends counted state = true) (elem : T) :
    (BoundedQueue.trySend state.queue elem).value = .error (.closed elem) ↔ state.queue.isClosed counted = true := by
  rw [run_agrees run kept live, ← tryAcquireMany_closed]
  exact trySend_refused state.queue elem .closed

theorem tryReserve_closed (live : sends counted state = true) :
    (∃ effect, BoundedQueue.tryReserve state.queue = .ok effect ∧ effect.value = .error (.closed ())) ↔
      state.queue.isClosed counted = true := by
  rw [run_agrees run kept live, ← tryAcquireMany_closed]
  exact tryReserve_refused

theorem pollFuture_closed {a : Addr} {future : Suspended T} (found : state.clients.futures.get? a = some future)
    (waker : Waker) : (∃ effect, operate build state (.pollFuture a waker) = .ok effect ∧ failed effect.value = true) ↔
      state.queue.isClosed (countedBy future) = true := by
  have valid := run_valid run
  obtain ⟨ticket, held, _⟩ := held_of_demand (valid.housed.held a future found)
  rw [run_agrees run kept (sends_of_future valid.coherent found), pollFuture_failed found,
    awaitAcquire_fails valid.housed.sound held]

theorem trySend_full (live : sends counted state = true) (opened : state.queue.isClosed counted = false) (elem : T) :
    (BoundedQueue.trySend state.queue elem).value ≠ .ok () ↔ state.queue.capacity = 0 := by
  rw [run_agrees run kept live] at opened
  rw [BoundedQueue.capacity, ← tryAcquireMany_full opened]
  rcases trySend_eq state.queue elem with ⟨_, acquired, same⟩ | ⟨error, refusal, same⟩
  · simp [same, acquired]
  · cases error with
    | closed => cases opened.symm.trans (tryAcquireMany_closed.mp refusal)
    | noPermits => simp [same, refusal]

end Seen

/-- In every reachable state of a channel without leaked handles, the mask and the semaphore agree for everyone
who can send. -/
theorem run_closed_agrees (run : (system T build).Run start history state) (kept : ∀ event ∈ history, Kept event) :
    Agrees build state := by
  have valid := run_valid run
  refine ⟨?_, ?_, ?_⟩
  · intro counted live
    rw [run_agrees run kept live, ← tryAcquireMany_closed]
    exact ⟨fun elem => trySend_refused state.queue elem .closed, tryReserve_refused⟩
  · intro a future found
    have live := sends_of_future valid.coherent found
    obtain ⟨ticket, held, _⟩ := held_of_demand (valid.housed.held a future found)
    refine ⟨live, fun waker => ?_⟩
    rw [run_agrees run kept live, pollFuture_failed found, awaitAcquire_fails valid.housed.sound held]
  · intro counted live opened elem
    rw [run_agrees run kept live] at opened
    have refused := trySend_refused state.queue elem .noPermits
    rw [tryAcquireMany_full opened] at refused
    refine ⟨?_, refused⟩
    rw [BoundedQueue.capacity, ← tryAcquireMany_full opened]
    rcases trySend_eq state.queue elem with ⟨_, acquired, same⟩ | ⟨error, refusal, same⟩
    · simp [same, acquired]
    · cases error with
      | closed => cases opened.symm.trans (tryAcquireMany_closed.mp refusal)
      | noPermits => simp [same, refusal]

/-- The channel is closed after a blocked sender was granted its slot. -/
theorem run_closed_agrees_granted :
    ∃ history final, (system Nat .checked).play [] (.new (.fromIter 1 []))
        [.split, .trySend (.sender 0) 5, .send (.sender 0) 6, .pollFuture 0 7, .tryRecv true, .close true] = some (history, final) ∧
      Agrees .checked final := by
  obtain ⟨history, final, played, run, kept⟩ := (system Nat .checked).exists_run (.new (.fromIter 1 []))
    ⟨_, .inr (.inr ⟨1, by decide, [], by decide, rfl⟩), rfl⟩
    [.split, .trySend (.sender 0) 5, .send (.sender 0) 6, .pollFuture 0 7, .tryRecv true, .close true]
    (fun history _ => ∀ event ∈ history, Kept event) (by decide)
  exact ⟨history, final, played, run_closed_agrees run kept⟩

end Run

end AsyncUnsync.Proofs.ClosedFlags
