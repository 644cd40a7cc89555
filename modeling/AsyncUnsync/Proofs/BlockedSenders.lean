import AsyncUnsync.Proofs.CapacityConservation
import AsyncUnsync.Proofs.ClosedFlags

/-! Whoever waits for a slot of an open channel waits for somebody who gives one back.
A channel that was built without any slot lets nobody in, and nothing ever changes that. -/

namespace AsyncUnsync.Proofs.BlockedSenders
open Memory Transition BoundedSystem QueueCalls FuturePolls BoundedClients BoundedCensus BoundedValid
open SlotAccounting SlotBalance CapacityConservation ClosedFlags LedgerSimulation

variable {T : Type}

/-- Somebody can send, and sees the channel open. -/
def Opened (s : State T) : Prop := ∃ counted, sends counted s = true ∧ s.queue.isClosed counted = false

/-- The future has been granted its slot, but neither been polled since nor dropped. -/
def Granted (s : State T) (a : Addr) : Prop :=
  (s.clients.futures.get? a).isSome = true ∧ (s.queue.extra.semaphore.memory.get? a).any holdsSlot = true

structure Unblocked (s : State T) : Prop where
  /-- Behind every waiting future there is an element, a permit or another future with a slot. -/
  waits : Opened s → ∀ a ∈ s.queue.extra.semaphore.queue,
    0 < s.queue.len ∨ 0 < holds s.clients ∨ ∃ b, b ≠ a ∧ Granted s b
  /-- Nobody is refused while no slot is taken. -/
  accepts : Opened s → s.queue.len = 0 → s.queue.extra.reserved = 0 → (∀ a, ¬ Granted s a) →
    ∀ elem, (BoundedQueue.trySend s.queue elem).value = .ok ()

/-- Neither a handle, nor a permit, nor a future is leaked. -/
def Unleaked (event : Event (State T) (Action T) (Outcome T)) : Prop := Kept event ∧ leaks event.action = false

instance (event : Event (State T) (Action T) (Outcome T)) : Decidable (Unleaked event) :=
  inferInstanceAs (Decidable (_ ∧ _))

/-- Somewhere there is a slot: in the semaphore, under an element, or behind a permit. -/
def Slotted (q : BoundedQueue T) : Prop :=
  0 < PermitTotals.owned q.extra.semaphore.ledger + q.items.length + q.extra.reserved

section Semaphore
variable {s s' : Semaphore} {a : Addr} {n : Nat} {woken : List Waker} {waker : Waker} {ticket : Ticket}

private theorem added_pos (sound : Sound s) (single : Single s.ledger) (done : s.addPermits n = .ok (s', woken))
    (some : 0 < PermitTotals.owned s.ledger + n) : 0 < PermitTotals.owned s'.ledger := by
  obtain ⟨_, same, _⟩ := addPermits_ok sound done
  rw [same]
  exact addPermits_pos single sound.valid some

private theorem dropped_pos (sound : Sound s) (single : Single s.ledger) (held : s.ledger.tickets.get? a = some ticket)
    (done : s.dropFuture a = .ok (s', woken)) (some : 0 < PermitTotals.owned s.ledger) :
    0 < PermitTotals.owned s'.ledger := by
  obtain ⟨_, same, _⟩ := dropFuture_ok sound held done
  rw [same]
  exact drop_pos single sound.valid held some

private theorem awaited_pos (sound : Sound s) (single : Single s.ledger) (held : s.ledger.tickets.get? a = some ticket)
    {effect : Effect Semaphore (Poll (Except AcquireError Unit))} (done : s.awaitAcquire a waker = .ok effect)
    (stays : effect.value ≠ .ready (.ok ())) (some : 0 < PermitTotals.owned s.ledger) :
    0 < PermitTotals.owned effect.state.ledger := by
  obtain ⟨_, ⟨_, _, polled⟩ | ⟨ready, _⟩ | ⟨_, _, same, _⟩⟩ := awaitAcquire_ok sound held done
  · have kept := PermitTotals.poll_owned sound.valid held waker
    rw [polled] at kept
    rw [kept]
    exact some
  · exact absurd ready stays
  · rw [same]
    exact drop_pos single sound.valid held some

end Semaphore

section Calls
variable {q q' : BoundedQueue T} {a : Addr} {future : Suspended T} {ticket : Ticket}

private theorem slotted_of_element (some : 0 < q.items.length) : Slotted q := by
  simp only [Slotted]
  omega

private theorem slotted_of_reserved (some : 0 < q.extra.reserved) : Slotted q := by
  simp only [Slotted]
  omega

private theorem refilled {n : Nat} {woken : List Waker} (sound : Sound q.extra.semaphore)
    (single : Single q.extra.semaphore.ledger) (added : q.extra.semaphore.addPermits n = .ok (q'.extra.semaphore, woken))
    (some : 0 < PermitTotals.owned q.extra.semaphore.ledger + n + q'.items.length + q'.extra.reserved) : Slotted q' := by
  have more := added_pos sound single added
  simp only [Slotted]
  omega

private theorem cancelled (sound : Sound q.extra.semaphore) (single : Single q.extra.semaphore.ledger)
    (held : q.extra.semaphore.ledger.tickets.get? a = some ticket) {semaphore : Semaphore} {woken : List Waker}
    (freed : q.extra.semaphore.dropFuture a = .ok (semaphore, woken)) (slotted : Slotted q) :
    Slotted { q with extra.semaphore := semaphore } := by
  have some := dropped_pos sound single held freed
  simp only [Slotted, Queue.items_mk, Queue.items_eq] at slotted ⊢
  omega

private theorem setCounted_slotted {build : Build} {effect : Effect (BoundedQueue T) Unit} (sound : Sound q.extra.semaphore)
    (single : Single q.extra.semaphore.ledger) (done : q.setCounted build = .ok effect) (slotted : Slotted q) :
    Slotted effect.state := by
  obtain ⟨cleared, mask, reset, _, rfl⟩ := setCounted_ok done
  obtain ⟨diff, semaphore, _, added, same⟩ := reset_ok reset
  simp only [Slotted] at slotted
  simp only [same]
  apply refilled sound single added
  simp only [Queue.items_mk, Queue.items_eq]
  omega

private theorem close_slotted {counted : Bool} {effect : Effect (BoundedQueue T) Unit} (sound : Sound q.extra.semaphore)
    (done : q.close counted = .ok effect) (slotted : Slotted q) : Slotted effect.state := by
  obtain ⟨closed, closing, rfl⟩ := QueueCalls.close_ok done
  obtain ⟨_, same, _⟩ := SlotAccounting.close_ok sound closing
  simp only [Slotted, Queue.items_mk, Queue.items_eq, same, PermitTotals.close_owned sound.valid] at slotted ⊢
  exact slotted

private theorem tryRecv_slotted {counted : Bool} {effect : Effect (BoundedQueue T) (Except TryRecvError T)}
    (sound : Sound q.extra.semaphore) (single : Single q.extra.semaphore.ledger) (done : q.tryRecv counted = .ok effect)
    (slotted : Slotted q) : Slotted effect.state := by
  rcases tryRecv_ok done with ⟨_, rest, _, _, semaphore, _, added, _, same⟩ | ⟨items, _, _, rfl⟩
  · rw [same]
    exact refilled sound single added (by omega)
  · simpa only [Slotted, items, Queue.items_mk] using slotted

private theorem pollRecv_slotted {counted : Bool} {waker : Waker} {effect : Effect (BoundedQueue T) (Poll (Option T))}
    (sound : Sound q.extra.semaphore) (single : Single q.extra.semaphore.ledger)
    (done : q.pollRecv counted waker = .ok effect) (slotted : Slotted q) : Slotted effect.state := by
  obtain ⟨received, tried, rfl⟩ := pollRecv_ok done
  have kept := tryRecv_slotted sound single tried slotted
  split <;> exact kept

private theorem trySend_slotted (elem : T) (slotted : Slotted q) : Slotted (BoundedQueue.trySend q elem).state := by
  rcases trySend_eq q elem with ⟨_, _, same⟩ | ⟨_, _, same⟩
  · rw [same]
    exact slotted_of_element (by simp)
  · rw [same]
    exact slotted

private theorem tryReserve_slotted {effect : Effect (BoundedQueue T) (Except (TrySendError Unit) Unit)}
    (done : BoundedQueue.tryReserve q = .ok effect) (slotted : Slotted q) : Slotted effect.state := by
  rcases tryReserve_ok done with ⟨_, _, rfl⟩ | ⟨_, _, rfl⟩
  · exact slotted_of_reserved (Nat.succ_pos _)
  · exact slotted

private theorem dropPermit_slotted {effect : Effect (BoundedQueue T) Unit} (sound : Sound q.extra.semaphore)
    (single : Single q.extra.semaphore.ledger) (done : BoundedQueue.dropPermit q = .ok effect) : Slotted effect.state := by
  obtain ⟨_, semaphore, added, same⟩ := dropPermit_ok done
  rw [same]
  exact refilled sound single added (by omega)

end Calls

section Step
variable {build : Build} {s : State T} {action : Action T} {effect : Effect (BoundedQueue T) (Reply T)}

private theorem pollFuture_slotted {a : Addr} {waker : Waker} (housed : Housed s.clients.futures s.queue.extra.semaphore)
    (polled : Polled s a waker effect) (slotted : Slotted s.queue) : Slotted effect.state := by
  have kept : ∀ {future semaphore value woken}, s.clients.futures.get? a = some future →
      s.queue.extra.semaphore.awaitAcquire a waker = .ok ⟨semaphore, value, woken⟩ → value ≠ .ready (.ok ()) →
      Slotted (settled s semaphore) := by
    intro future semaphore value woken found awaited stays
    obtain ⟨ticket, held, _⟩ := held_of_demand (housed.held a future found)
    have some := awaited_pos housed.sound housed.single held awaited stays
    simp only [Slotted, settled, Queue.items_mk, Queue.items_eq] at some slotted ⊢
    omega
  cases polled with
  | pending found awaited | unsent found awaited | unreserved found awaited | unreservedOwned found awaited =>
    exact kept found awaited (by simp)
  | sent found awaited => exact slotted_of_element (by simp)
  | reserved found awaited | reservedOwned found awaited => exact slotted_of_reserved (Nat.succ_pos _)

/-- The step lemma: every call moves slots about, and none takes the last one away. -/
theorem slotted_step (housed : Housed s.clients.futures s.queue.extra.semaphore) (slotted : Slotted s.queue)
    (whole : action ≠ .intoDeque) (operated : operate build s action = .ok effect) : Slotted effect.state := by
  have sound := housed.sound
  have single := housed.single
  cases action with
  | split | intoSplit =>
    obtain ⟨counted, done, stored⟩ := bind_ok operated
    cases stored
    exact setCounted_slotted sound single done slotted
  | intoDeque => exact absurd rfl whole
  | close | dropReceiver =>
    obtain ⟨closed, done, stored⟩ := bind_ok operated
    cases stored
    exact close_slotted sound done slotted
  | tryRecv counted =>
    obtain ⟨received, done, stored⟩ := bind_ok operated
    cases stored
    exact tryRecv_slotted sound single done slotted
  | pollRecv counted waker =>
    obtain ⟨polled, done, stored⟩ := bind_ok operated
    cases stored
    exact pollRecv_slotted sound single done slotted
  | trySend via elem =>
    cases operated
    exact trySend_slotted elem slotted
  | tryReserve | tryReserveOwned =>
    obtain ⟨reserved, done, stored⟩ := bind_ok operated
    cases stored
    exact tryReserve_slotted done slotted
  | send | reserve | reserveOwned =>
    cases operated
    obtain ⟨same, _⟩ := sound.acquireMany 1
    simpa [Slotted, BoundedQueue.acquire, same, PermitTotals.owned, Ledger.acquireMany] using slotted
  | pollFuture a waker => exact pollFuture_slotted housed (pollFuture_ok operated) slotted
  | dropFuture a =>
    cases dropFuture_cancelled operated with
    | borrowing found _ freed =>
      obtain ⟨ticket, held, _⟩ := held_of_demand (housed.held a _ found)
      exact cancelled sound single held freed slotted
    | owning found _ freed decreased =>
      obtain ⟨ticket, held, _⟩ := held_of_demand (housed.held a _ found)
      obtain ⟨items, extra⟩ := decreaseSenderCount_rest decreased
      simpa only [Slotted, items, extra] using cancelled sound single held freed slotted
  | permitSend p elem | ownedPermitSend p elem =>
    obtain ⟨sent, done, stored⟩ := bind_ok operated
    obtain ⟨_, rfl⟩ := permitSend_ok done
    cases stored
    exact slotted_of_element (by simp [Effect.map])
  | dropPermit p =>
    obtain ⟨dropped, done, stored⟩ := bind_ok operated
    cases stored
    exact dropPermit_slotted sound single done
  | dropOwnedPermit p =>
    obtain ⟨dropped, done, stored⟩ := bind_ok operated
    obtain ⟨returned, decreased, returning, decreasing, rfl⟩ := dropOwnedPermit_ok done
    obtain ⟨items, extra⟩ := decreaseSenderCount_rest decreasing
    cases stored
    simpa only [Slotted, Effect.map, items, extra] using dropPermit_slotted sound single returning
  | cloneSender id =>
    obtain ⟨queue, done, stored⟩ := bind_ok operated
    obtain ⟨_, _, rfl⟩ := increaseSenderCount_ok done
    cases stored
    exact slotted
  | dropSender id =>
    obtain ⟨dropped, done, stored⟩ := bind_ok operated
    obtain ⟨items, extra⟩ := decreaseSenderCount_rest done
    cases stored
    simpa only [Slotted, Effect.map, items, extra] using slotted
  | forgetReceiver | forgetFuture | forgetPermit | forgetOwnedPermit | forgetSender =>
    cases operated
    exact slotted

end Step

section Run
variable {build : Build} {start final s : State T} {history : History (State T) (Action T) (Outcome T)}

private theorem constructed_slotted {queue : BoundedQueue T} (constructed : Constructed queue)
    (some : queue ≠ .fromIter 0 []) : Slotted queue := by
  have slots : 0 < queue.maxCapacity := by
    rcases constructed with ⟨capacity, _, built⟩ | ⟨capacity, _, _, built⟩ | ⟨capacity, _, iter, _, rfl⟩
    · unfold BoundedQueue.new at built
      split at built
      next positive =>
        cases built
        exact positive
      next => cases built
    · unfold BoundedQueue.withCapacity at built
      split at built
      next positive =>
        cases built
        exact positive
      next => cases built
    · by_contra none
      simp only [BoundedQueue.maxCapacity, BoundedQueue.fromIter, Queue.new, Deque.fromIter, Deque.len] at none
      obtain rfl : capacity = 0 := by omega
      obtain rfl : iter = [] := List.eq_nil_of_length_eq_zero (by omega)
      exact some rfl
  obtain ⟨deque, permits, cap, rfl, total, _⟩ := constructed_eq constructed
  have pool : PermitTotals.owned (Semaphore.new permits).ledger = permits := (Stock.new (by omega)).owned
  simp only [Slotted, Queue.new, Queue.items_mk, pool]
  simp only [BoundedQueue.maxCapacity, Queue.new] at slots
  omega

private theorem consumed_unsendable (consumed : Consumed s.clients) (counted : Bool) : sends counted s = false := by
  cases counted with
  | false => exact unsplit_consumed consumed.channel
  | true =>
    have owning : s.clients.futures.count Suspended.owned = 0 := by
      apply Arena.sum_eq_zero
      intro a future found
      cases (Arena.dead_of_count consumed.futures a).symm.trans found
    simp [sends, Clients.senderCount, consumed.senders, consumed.ownedPermits, owning]

theorem run_slotted (run : (system T build).Run start history final) (some : start.queue ≠ .fromIter 0 []) :
    Slotted final.queue ∨ Consumed final.clients := by
  refine run.invariant (fun _ state => Slotted state.queue ∨ Consumed state.clients) ?_ ?_
  · rintro ⟨queue, constructed, rfl⟩
    exact .inl (constructed_slotted constructed some)
  · intro past before action outcome after reached kept able stepped
    have valid := run_valid reached
    obtain ⟨effect, operated, rfl, rfl⟩ := step_ok stepped
    rcases kept with slotted | consumed
    · by_cases whole : action = .intoDeque
      · subst whole
        exact .inr (.intoDeque valid.coherent able effect.value)
      · exact .inl (slotted_step valid.housed slotted whole operated)
    · cases (consumed.inert action).symm.trans able

theorem run_hosted (run : (system T build).Run start history final)
    (unleaked : ∀ event ∈ history, losesFuture event.action = false) :
    Hosted (final.clients.futures.map fun _ => 1) final.queue.extra.semaphore := by
  revert unleaked
  refine run.invariant (fun history state => (∀ event ∈ history, losesFuture event.action = false) →
    Hosted (state.clients.futures.map fun _ => 1) state.queue.extra.semaphore) ?_ ?_
  · intro initial _
    exact (tally_initial initial).balanced.slots.choose_spec.1.toHosted
  · intro past before action outcome after reached earlier able stepped unleaked
    have hosted := earlier fun event member => unleaked event (List.mem_cons_of_mem _ member)
    obtain ⟨effect, operated, rfl, rfl⟩ := step_ok stepped
    exact (turnover_step (run_valid reached).housed operated).exact (unleaked _ (List.mem_cons_self ..)) hosted

private theorem granted_pos : 0 < granted s ↔ ∃ a, Granted s a := by
  simp only [granted, List.length_pos_iff_exists_mem, List.mem_filter, List.mem_range, Bool.and_eq_true, Granted]
  constructor
  · rintro ⟨a, _, holder⟩
    exact ⟨a, holder⟩
  · rintro ⟨a, found, holder⟩
    obtain ⟨future, held⟩ := Option.isSome_iff_exists.mp found
    exact ⟨a, Arena.lt_size held, found, holder⟩

private theorem waiting_ungranted (sound : Sound s.queue.extra.semaphore) {a : Addr}
    (queued : a ∈ s.queue.extra.semaphore.queue) : ¬ Granted s a := by
  rintro ⟨_, holder⟩
  obtain ⟨ticket, _, held, state, _⟩ := sound.valid.queued queued
  simp only [Semaphore.ledger, Arena.get?_map, Option.map_eq_some_iff] at held
  obtain ⟨waiter, live, rfl⟩ := held
  have waits : waiter.state = .waiting := state
  simp [live, holdsSlot, waits] at holder

theorem run_unblocked (run : (system T build).Run start history final) (unleaked : ∀ event ∈ history, Unleaked event)
    (some : start.queue ≠ .fromIter 0 []) : Unblocked final := by
  have valid := run_valid run
  have sound := valid.housed.sound
  have kept : ∀ event ∈ history, losesFuture event.action = false ∧ losesPermit event.action = false :=
    fun event member => loses_nothing (unleaked event member).2
  have reserved := run_reserved run fun event member => (kept event member).2
  have grants := granted_eq (run_hosted run fun event member => (kept event member).1)
  have slots := slots_eq sound.valid valid.housed.single
  have slotted : Opened final → Slotted final.queue := by
    rintro ⟨counted, live, _⟩
    rcases run_slotted run some with slotted | consumed
    · exact slotted
    · cases live.symm.trans (consumed_unsendable consumed counted)
  constructor
  · intro opened a queued
    have present := slotted opened
    have none : final.queue.extra.semaphore.availablePermits = 0 := sound.valid.idle (List.ne_nil_of_mem queued)
    by_cases held : 0 < granted final
    · obtain ⟨b, holder⟩ := granted_pos.mp held
      refine .inr (.inr ⟨b, ?_, holder⟩)
      rintro rfl
      exact waiting_ungranted sound queued holder
    · simp only [Slotted] at present
      simp only [Queue.len, Deque.len, Queue.items_eq]
      omega
  · intro opened empty unreserved nobody elem
    have present := slotted opened
    have ungranted : granted final = 0 := by
      by_contra held
      obtain ⟨b, holder⟩ := granted_pos.mp (Nat.pos_of_ne_zero held)
      exact nobody b holder
    obtain ⟨counted, live, unclosed⟩ := opened
    have full := trySend_full run (fun event member => (unleaked event member).1) live unclosed elem
    by_contra refused
    have none : final.queue.extra.semaphore.availablePermits = 0 := full.mp refused
    simp only [Slotted] at present
    simp only [Queue.len, Deque.len, Queue.items_eq] at empty
    omega

/-- A channel without slots suspends its first sender, and nobody will ever wake it. -/
private theorem slotless_blocks (T : Type) (build : Build) :
    ∃ history final, (system T build).Run (.new (.fromIter 0 [])) history final ∧
      (∀ event ∈ history, Unleaked event) ∧ ¬ Unblocked final := by
  obtain ⟨history, final, _, run, unleaked, live, unclosed, queued, taken, lone⟩ := (system T build).exists_run
    (.new (.fromIter 0 [])) ⟨_, .inr (.inr ⟨0, Nat.zero_le _, [], Nat.zero_le _, rfl⟩), rfl⟩
    [.reserve .channel, .pollFuture 0 0]
    (fun history final => (∀ event ∈ history, Unleaked event) ∧ sends false final = true ∧
      final.queue.isClosed false = false ∧ final.queue.extra.semaphore.queue = [0] ∧
      final.queue.len + holds final.clients = 0 ∧ final.clients.futures.size = 1) rfl
  refine ⟨history, final, run, unleaked, fun unblocked => ?_⟩
  rcases unblocked.waits ⟨false, live, unclosed⟩ 0 (by simp [queued]) with some | some | ⟨b, other, found, _⟩
  · omega
  · omega
  · obtain ⟨future, held⟩ := Option.isSome_iff_exists.mp found
    have inside := Arena.lt_size held
    rw [lone] at inside
    exact other (Nat.lt_one_iff.mp inside)

/-- The channels on which no sender is ever blocked for good are those with a slot. -/
theorem run_unblocked_iff (initial : (system T build).Initial start) :
    (∀ history final, (system T build).Run start history final → (∀ event ∈ history, Unleaked event) → Unblocked final) ↔
      start.queue ≠ .fromIter 0 [] := by
  constructor
  · intro unblocked slotless
    obtain ⟨queue, _, rfl⟩ := initial
    cases slotless
    obtain ⟨history, final, run, unleaked, blocked⟩ := slotless_blocks T build
    exact blocked (unblocked history final run unleaked)
  · intro some history final run unleaked
    exact run_unblocked run unleaked some

/-- A sender waits for the only slot, which is taken by an element. -/
theorem run_unblocked_filled :
    ∃ history final, (system Nat .checked).play [] (.new (.fromIter 0 [5])) [.send .channel 6, .pollFuture 0 7] =
      some (history, final) ∧ final.queue.extra.semaphore.queue = [0] ∧ Unblocked final := by
  have initial : (system Nat .checked).Initial (.new (.fromIter 0 [5])) :=
    ⟨_, .inr (.inr ⟨0, by decide, [5], by decide, rfl⟩), rfl⟩
  obtain ⟨history, final, played, run, unleaked, waits⟩ := (system Nat .checked).exists_run _ initial
    [.send .channel 6, .pollFuture 0 7]
    (fun history final => (∀ event ∈ history, Unleaked event) ∧ final.queue.extra.semaphore.queue = [0]) (by decide)
  exact ⟨history, final, played, waits, (run_unblocked_iff initial).mpr (by decide) history final run unleaked⟩

theorem slotless_not_unblocked :
    ¬ ∀ start history final, (system Nat .checked).Run start history final → (∀ event ∈ history, Unleaked event) →
      Unblocked final := by
  intro unblocked
  obtain ⟨history, final, run, unleaked, blocked⟩ := slotless_blocks Nat .checked
  exact blocked (unblocked _ history final run unleaked)

end Run

end AsyncUnsync.Proofs.BlockedSenders
