import AsyncUnsync.Proofs.CallFootprints

/-! The slots of a bounded channel: free, granted, reserved, or taken by an element.
As long as nothing is leaked they add up to the capacity, except that a split
forgets the elements that are queued. -/

namespace AsyncUnsync.Proofs.SlotBalance
open Memory Transition BoundedSystem QueueCalls FuturePolls BoundedClients BoundedCensus BoundedValid SlotAccounting
open CallFootprints
variable {T : Type}

/-- The slots of the semaphore, the queued elements and the reservations add up to `cap`. -/
structure Balanced (d : Arena Nat) (cap : Nat) (q : BoundedQueue T) : Prop where
  slots : ∃ slots, Stock d slots q.extra.semaphore ∧ slots + q.items.length + q.extra.reserved = cap
  capacity : q.extra.maxCapacity = cap
  bound : cap ≤ usizeMax

/-- Every reservation belongs to a permit, and every live request to a future. -/
structure Tally (cap : Nat) (s : State T) : Prop where
  balanced : Balanced (s.clients.futures.map fun _ => 1) cap s.queue
  reserved : s.queue.extra.reserved =
    s.clients.permits.count (fun _ => true) + s.clients.ownedPermits.count fun _ => true

/-- A permit or a future is leaked, with the slot that it holds or waits for. -/
def leaks : Action T → Bool
  | .forgetFuture _ | .forgetPermit _ | .forgetOwnedPermit _ => true
  | _ => false

theorem loses_nothing {action : Action T} (kept : leaks action = false) :
    losesFuture action = false ∧ losesPermit action = false := by
  cases action <;> first | exact ⟨rfl, rfl⟩ | cases kept

section Calls
variable {q : BoundedQueue T} {d : Arena Nat} {cap : Nat} {a : Addr}

theorem Balanced.within (balanced : Balanced d cap q) : q.len ≤ q.maxCapacity ∧ q.capacity ≤ q.maxCapacity := by
  obtain ⟨⟨slots, stock, total⟩, capacity, _⟩ := balanced
  have owned := stock.owned
  have pool : q.capacity = q.extra.semaphore.ledger.permits := rfl
  simp only [PermitTotals.owned] at owned
  simp only [BoundedQueue.maxCapacity, Queue.len, Deque.len, Queue.items_eq]
  omega

theorem close_balanced {counted : Bool} {effect : Effect (BoundedQueue T) Unit} (balanced : Balanced d cap q)
    (done : q.close counted = .ok effect) : Balanced d cap effect.state := by
  obtain ⟨⟨slots, stock, total⟩, capacity, bound⟩ := balanced
  obtain ⟨_, closing, rfl⟩ := close_ok done
  exact ⟨⟨slots, stock.close closing, total⟩, capacity, bound⟩

theorem tryRecv_balanced {counted : Bool} {effect : Effect (BoundedQueue T) (Except TryRecvError T)}
    (balanced : Balanced d cap q) (done : q.tryRecv counted = .ok effect) : Balanced d cap effect.state := by
  obtain ⟨⟨slots, stock, total⟩, capacity, bound⟩ := balanced
  rcases tryRecv_ok done with ⟨_, rest, _, _, _, items, added, _, same⟩ | ⟨items, _, _, rfl⟩
  · rw [items, List.length_cons] at total
    rw [same]
    refine ⟨⟨slots + 1, stock.addPermits added (by omega), ?_⟩, capacity, bound⟩
    simp only [Queue.items_mk]
    omega
  · exact ⟨⟨slots, stock, by simpa [items] using total⟩, capacity, bound⟩

theorem pollRecv_balanced {counted : Bool} {waker : Waker} {effect : Effect (BoundedQueue T) (Poll (Option T))}
    (balanced : Balanced d cap q) (done : q.pollRecv counted waker = .ok effect) : Balanced d cap effect.state := by
  obtain ⟨received, tried, rfl⟩ := pollRecv_ok done
  obtain ⟨slots, capacity, bound⟩ := tryRecv_balanced balanced tried
  split <;> exact ⟨slots, capacity, bound⟩

theorem trySend_balanced (balanced : Balanced d cap q) (elem : T) :
    Balanced d cap (BoundedQueue.trySend q elem).state := by
  obtain ⟨⟨slots, stock, total⟩, capacity, bound⟩ := balanced
  rcases trySend_eq q elem with ⟨_, acquired, same⟩ | ⟨_, _, same⟩
  · obtain ⟨some, less⟩ := stock.tryAcquireMany acquired
    rw [same]
    refine ⟨⟨slots - 1, less, ?_⟩, capacity, bound⟩
    simp only [Queue.items_mk, Deque.items_pushBack, Queue.items_eq, List.length_append, List.length_singleton]
    omega
  · rw [same]
    exact ⟨⟨slots, stock, total⟩, capacity, bound⟩

theorem reserve_balanced {semaphore : Semaphore} {slots : Nat} (total : slots + q.items.length + q.extra.reserved = cap)
    (capacity : q.extra.maxCapacity = cap) (bound : cap ≤ usizeMax) (some : 1 ≤ slots)
    (less : Stock d (slots - 1) semaphore) :
    Balanced d cap { q with extra.semaphore := semaphore, extra.reserved := q.extra.reserved + 1 } := by
  refine ⟨⟨slots - 1, less, ?_⟩, capacity, bound⟩
  simp only [Queue.items_mk, Queue.items_eq]
  omega

theorem permitSend_balanced {effect : Effect (BoundedQueue T) Unit} {elem : T} (balanced : Balanced d cap q)
    (done : BoundedQueue.permitSend q elem = .ok effect) : Balanced d cap effect.state := by
  obtain ⟨⟨slots, stock, total⟩, capacity, bound⟩ := balanced
  obtain ⟨some, rfl⟩ := permitSend_ok done
  refine ⟨⟨slots, stock, ?_⟩, capacity, bound⟩
  simp only [Queue.items_mk, Deque.items_pushBack, Queue.items_eq, List.length_append, List.length_singleton]
  omega

theorem dropPermit_balanced {effect : Effect (BoundedQueue T) Unit} (balanced : Balanced d cap q)
    (done : BoundedQueue.dropPermit q = .ok effect) : Balanced d cap effect.state := by
  obtain ⟨⟨slots, stock, total⟩, capacity, bound⟩ := balanced
  obtain ⟨some, _, added, same⟩ := dropPermit_ok done
  rw [same]
  refine ⟨⟨slots + 1, stock.addPermits added (by omega), ?_⟩, capacity, bound⟩
  simp only [Queue.items_mk, Queue.items_eq]
  omega

theorem cancelled_balanced {semaphore : Semaphore} {woken : List Waker} (balanced : Balanced d cap q)
    (demand : d.get? a = some 1) (freed : q.extra.semaphore.dropFuture a = .ok (semaphore, woken)) :
    Balanced (d.free a) cap { q with extra.semaphore := semaphore } := by
  obtain ⟨⟨slots, stock, total⟩, capacity, bound⟩ := balanced
  exact ⟨⟨slots, stock.dropFuture demand freed, total⟩, capacity, bound⟩

theorem decrease_balanced {effect : Effect (BoundedQueue T) Unit} (balanced : Balanced d cap q)
    (done : q.decreaseSenderCount = .ok effect) : Balanced d cap effect.state := by
  obtain ⟨items, extra⟩ := decreaseSenderCount_rest done
  obtain ⟨slots, capacity, bound⟩ := balanced
  rw [← items, ← extra] at slots
  exact ⟨slots, by rw [extra, capacity], bound⟩

theorem available_of_idle {s : Semaphore} {slots : Nat} (stock : Stock d slots s) (idle : ∀ a, d.get? a = none) :
    s.availablePermits = slots := by
  have nothing : s.ledger.tickets.sum Ticket.permits = 0 := by
    apply Arena.sum_eq_zero
    intro a ticket held
    have demand := demand_of_held held
    rw [stock.demands, idle a] at demand
    cases demand
  have pool : s.availablePermits = s.ledger.permits := rfl
  have owned := stock.owned
  rw [PermitTotals.owned, nothing] at owned
  omega

/-- A split makes every slot available, also those that are taken by elements. -/
theorem setCounted_refills {build : Build} {effect : Effect (BoundedQueue T) Unit} (balanced : Balanced d cap q)
    (idle : ∀ a, d.get? a = none) (unreserved : q.extra.reserved = 0) (done : q.setCounted build = .ok effect) :
    q.capacity + q.len = cap ∧ effect.state.capacity = cap ∧ effect.state.items = q.items ∧
      effect.state.extra.maxCapacity = cap ∧ (q.items = [] → Balanced d cap effect.state) := by
  obtain ⟨⟨slots, stock, total⟩, capacity, bound⟩ := balanced
  have before := available_of_idle stock idle
  obtain ⟨cleared, mask, reset, _, rfl⟩ := setCounted_ok done
  obtain ⟨diff, semaphore, subtracted, added, same⟩ := reset_ok reset
  rw [capacity, before, Build.sub_of_le build (by omega)] at subtracted
  cases subtracted
  have more := stock.addPermits added (by omega)
  have after := available_of_idle more idle
  refine ⟨?_, ?_, ?_, ?_, fun empty => ⟨⟨slots + (cap - slots), ?_, ?_⟩, ?_, bound⟩⟩
  · simp only [BoundedQueue.capacity, before, Queue.len, Deque.len, Queue.items_eq]
    omega
  · simp only [BoundedQueue.capacity, same, after]
    omega
  · simp [same]
  · simp only [same, capacity]
  · simpa only [same] using more
  · simp only [same, Queue.items_mk, Queue.items_eq, empty, unreserved, List.length_nil]
    omega
  · simp only [same, capacity]

end Calls

section Step
variable {build : Build} {cap : Nat} {s : State T} {action : Action T} {effect : Effect (BoundedQueue T) (Reply T)}
  {d : Arena Nat}

theorem Tally.alone (tally : Tally cap s) (coherent : Coherent s.clients) (exclusive : s.clients.exclusive = true) :
    (∀ a, (s.clients.futures.map fun _ => 1).get? a = none) ∧ s.queue.extra.reserved = 0 := by
  simp only [Clients.exclusive, Bool.and_eq_true, beq_iff_eq] at exclusive
  obtain ⟨⟨unsplit, permits⟩, futures⟩ := exclusive
  obtain ⟨owned, _⟩ := coherent.owned (Handles.unsplit_iff.mp unsplit).1
  refine ⟨fun a => ?_, by rw [tally.reserved, permits, owned]⟩
  simp [Arena.dead_of_count futures a]

private theorem demand_of_future {a : Addr} {future : Suspended T} (found : s.clients.futures.get? a = some future) :
    (s.clients.futures.map fun _ => 1).get? a = some 1 := by
  simp [found]

private theorem tryReserve_balanced {reserved : Effect (BoundedQueue T) (Except (TrySendError Unit) Unit)}
    (balanced : Balanced d cap s.queue) (done : BoundedQueue.tryReserve s.queue = .ok reserved) :
    Balanced d cap reserved.state := by
  obtain ⟨⟨slots, stock, total⟩, capacity, bound⟩ := balanced
  rcases tryReserve_ok done with ⟨_, acquired, rfl⟩ | ⟨_, _, rfl⟩
  · obtain ⟨some, less⟩ := stock.tryAcquireMany acquired
    exact reserve_balanced total capacity bound some less
  · exact ⟨⟨slots, stock, total⟩, capacity, bound⟩

private theorem pollFuture_balanced {a : Addr} {waker : Waker}
    (balanced : Balanced (s.clients.futures.map fun _ => 1) cap s.queue) (polled : Polled s a waker effect) :
    Balanced ((record s.clients effect.value (.pollFuture a waker)).futures.map fun _ => 1) cap effect.state := by
  obtain ⟨⟨slots, stock, total⟩, capacity, bound⟩ := balanced
  cases polled with
  | pending found awaited => exact ⟨⟨slots, stock.awaitAcquire (demand_of_future found) awaited, total⟩, capacity, bound⟩
  | sent found awaited =>
    obtain ⟨some, less⟩ := stock.awaitAcquire (demand_of_future found) awaited
    refine ⟨⟨slots - 1, by simpa [record] using less, ?_⟩, capacity, bound⟩
    simp only [Queue.items_mk, Deque.items_pushBack, Queue.items_eq, List.length_append, List.length_singleton]
    omega
  | unsent found awaited | unreserved found awaited | unreservedOwned found awaited =>
    have left := stock.awaitAcquire (demand_of_future found) awaited
    exact ⟨⟨slots, by simpa [record] using left, total⟩, capacity, bound⟩
  | reserved found awaited | reservedOwned found awaited =>
    obtain ⟨some, less⟩ := stock.awaitAcquire (demand_of_future found) awaited
    simpa [record] using reserve_balanced total capacity bound some less

private theorem balanced_step (tally : Tally cap s) (coherent : Coherent s.clients) (able : enabled s.clients action = true)
    (kept : leaks action = false) (whole : action ≠ .intoDeque) (empty : splits action = true → s.queue.items = [])
    (operated : operate build s action = .ok effect) :
    Balanced ((record s.clients effect.value action).futures.map fun _ => 1) cap effect.state := by
  have balanced := tally.balanced
  cases action with
  | split | intoSplit =>
    obtain ⟨idle, unreserved⟩ := tally.alone coherent able
    obtain ⟨split, done, stored⟩ := bind_ok operated
    obtain ⟨_, _, _, _, refilled⟩ := setCounted_refills balanced idle unreserved done
    cases stored
    exact refilled (empty rfl)
  | intoDeque => exact absurd rfl whole
  | forgetFuture | forgetPermit | forgetOwnedPermit => cases kept
  | forgetReceiver | forgetSender =>
    cases operated
    exact balanced
  | close | dropReceiver =>
    obtain ⟨closed, done, stored⟩ := bind_ok operated
    cases stored
    exact close_balanced balanced done
  | tryRecv counted =>
    obtain ⟨received, done, stored⟩ := bind_ok operated
    cases stored
    exact tryRecv_balanced balanced done
  | pollRecv counted waker =>
    obtain ⟨polled, done, stored⟩ := bind_ok operated
    cases stored
    exact pollRecv_balanced balanced done
  | trySend via elem =>
    cases operated
    exact trySend_balanced balanced elem
  | tryReserve via | tryReserveOwned id =>
    obtain ⟨tried, done, stored⟩ := bind_ok operated
    have after := tryReserve_balanced balanced done
    cases stored
    simp only [record]
    split <;> exact after
  | send | reserve | reserveOwned =>
    cases operated
    obtain ⟨⟨slots, stock, total⟩, capacity, bound⟩ := balanced
    exact ⟨⟨slots, by simpa [record, BoundedQueue.acquire] using stock.acquireMany, total⟩, capacity, bound⟩
  | pollFuture a waker => exact pollFuture_balanced balanced (pollFuture_ok operated)
  | dropFuture a =>
    cases dropFuture_cancelled operated with
    | borrowing found _ freed => simpa [record] using cancelled_balanced balanced (demand_of_future found) freed
    | owning found _ freed decreased =>
      have after := decrease_balanced (cancelled_balanced balanced (demand_of_future found) freed) decreased
      simpa [record] using after
  | permitSend p elem | ownedPermitSend p elem =>
    obtain ⟨sent, done, stored⟩ := bind_ok operated
    cases stored
    exact permitSend_balanced balanced done
  | dropPermit p =>
    obtain ⟨dropped, done, stored⟩ := bind_ok operated
    cases stored
    exact dropPermit_balanced balanced done
  | dropOwnedPermit p =>
    obtain ⟨dropped, done, stored⟩ := bind_ok operated
    obtain ⟨_, _, returning, decreasing, rfl⟩ := dropOwnedPermit_ok done
    cases stored
    have after := decrease_balanced (dropPermit_balanced balanced returning) decreasing
    exact ⟨after.slots, after.capacity, after.bound⟩
  | cloneSender id =>
    obtain ⟨queue, done, stored⟩ := bind_ok operated
    obtain ⟨_, _, rfl⟩ := increaseSenderCount_ok done
    cases stored
    exact ⟨balanced.slots, balanced.capacity, balanced.bound⟩
  | dropSender id =>
    obtain ⟨dropped, done, stored⟩ := bind_ok operated
    cases stored
    exact decrease_balanced balanced done

/-- The step lemma: only leaks and splits of a filled channel disturb the balance. -/
theorem tally_step (tally : Tally cap s) (valid : Valid s) (able : enabled s.clients action = true)
    (kept : leaks action = false) (whole : action ≠ .intoDeque) (empty : splits action = true → s.queue.items = [])
    (operated : operate build s action = .ok effect) :
    Tally cap ⟨effect.state, record s.clients effect.value action⟩ := by
  refine ⟨balanced_step tally valid.coherent able kept whole empty operated, ?_⟩
  have moved := (footprint valid.housed able operated).reserved (loses_nothing kept).2
  have reserved := tally.reserved
  simp only [holds] at moved
  dsimp only
  omega

end Step

section Consumed
variable {c : Clients T}

/-- The channel was turned into its elements, and nothing of it is left. -/
structure Consumed (c : Clients T) : Prop where
  channel : c.handles.channel = false
  receiver : c.handles.receiver = false
  senders : c.handles.senderCount = 0
  permits : c.permits.count (fun _ => true) = 0
  ownedPermits : c.ownedPermits.count (fun _ => true) = 0
  futures : c.futures.count (fun _ => true) = 0

private theorem not_live {α : Type} {arena : Arena α} (none : arena.count (fun _ => true) = 0) (a : Addr) :
    (arena.get? a).isSome = false := by
  rw [Arena.dead_of_count none a]
  rfl

theorem Consumed.intoDeque (coherent : Coherent c) (exclusive : c.exclusive = true) (reply : Reply T) :
    Consumed (record c reply .intoDeque) := by
  simp only [Clients.exclusive, Bool.and_eq_true, beq_iff_eq] at exclusive
  obtain ⟨⟨unsplit, permits⟩, futures⟩ := exclusive
  obtain ⟨channel, receiver, senders⟩ := Handles.unsplit_iff.mp unsplit
  exact ⟨rfl, receiver, senders, permits, (coherent.owned channel).1, futures⟩

theorem Consumed.inert (consumed : Consumed c) (action : Action T) : enabled c action = false := by
  have shared : c.handles.unsplit = false := unsplit_consumed consumed.channel
  have unusable : ∀ via, c.handles.usable via = false := by
    intro via
    cases via with
    | channel => exact shared
    | sender id => exact not_live consumed.senders id
  cases action with
  | split | intoSplit | intoDeque => simp [enabled, Clients.exclusive, shared]
  | close counted | tryRecv counted | pollRecv counted =>
    cases counted
    · exact shared
    · exact consumed.receiver
  | dropReceiver | forgetReceiver => exact consumed.receiver
  | trySend | tryReserve | send | reserve => exact unusable _
  | cloneSender id => exact unusable (.sender id)
  | tryReserveOwned | reserveOwned | dropSender | forgetSender => simp [enabled, unusable]
  | pollFuture | dropFuture | forgetFuture => exact not_live consumed.futures _
  | permitSend | dropPermit | forgetPermit => exact not_live consumed.permits _
  | ownedPermitSend | dropOwnedPermit | forgetOwnedPermit => exact not_live consumed.ownedPermits _

end Consumed

section Run
variable {build : Build} {start state : State T} {history : History (State T) (Action T) (Outcome T)}

theorem tally_initial (initial : (system T build).Initial start) : Tally start.queue.extra.maxCapacity start := by
  obtain ⟨_, constructed, rfl⟩ := initial
  obtain ⟨deque, permits, cap, rfl, total, bound⟩ := constructed_eq constructed
  exact ⟨⟨⟨permits, .new (by omega), total⟩, rfl, bound⟩, rfl⟩

/-- Nothing is leaked, and only empty channels are split. -/
def Careful (event : Event (State T) (Action T) (Outcome T)) : Prop :=
  leaks event.action = false ∧ (splits event.action = true → event.before.queue.items = [])

/-- The run lemma. -/
theorem run_tally (run : (system T build).Run start history state) (careful : ∀ event ∈ history, Careful event) :
    Tally start.queue.extra.maxCapacity state ∨
      (∃ event ∈ history, event.action = .intoDeque) ∧ Consumed state.clients := by
  revert careful
  refine run.invariant (fun history state => (∀ event ∈ history, Careful event) →
    Tally start.queue.extra.maxCapacity state ∨
      (∃ event ∈ history, event.action = .intoDeque) ∧ Consumed state.clients) ?_ ?_
  · exact fun initial _ => .inl (tally_initial initial)
  · intro past before action outcome after run earlier able stepped careful
    obtain ⟨kept, empty⟩ := careful _ (List.mem_cons_self ..)
    have valid := run_valid run
    obtain ⟨effect, operated, rfl, rfl⟩ := step_ok stepped
    rcases earlier fun event member => careful event (List.mem_cons_of_mem _ member) with tally | ⟨_, consumed⟩
    · by_cases whole : action = .intoDeque
      · subst whole
        exact .inr ⟨⟨_, List.mem_cons_self .., rfl⟩, .intoDeque valid.coherent able effect.value⟩
      · exact .inl (tally_step tally valid able kept whole empty operated)
    · cases (consumed.inert action).symm.trans able

end Run
end AsyncUnsync.Proofs.SlotBalance
