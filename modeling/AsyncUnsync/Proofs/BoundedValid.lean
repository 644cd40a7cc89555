import AsyncUnsync.Proofs.BoundedCensus
import AsyncUnsync.Proofs.SlotAccounting

/-! What holds in every state of every run of a bounded channel, leaks included. -/

namespace AsyncUnsync.Proofs.BoundedValid
open Memory Transition BoundedSystem QueueCalls FuturePolls BoundedClients BoundedCensus CensusCounts LedgerSimulation
open SlotAccounting
variable {T : Type}

/-- The semaphore is sound, and every suspended future has its `Acquire` in it. -/
structure Housed (futures : Arena (Suspended T)) (s : Semaphore) : Prop where
  sound : Sound s
  size : (demands s.ledger).size = futures.size
  held : ∀ a future, futures.get? a = some future → (demands s.ledger).get? a = some 1
  single : Single s.ledger

structure Valid (s : State T) : Prop where
  coherent : Coherent s.clients
  housed : Housed s.clients.futures s.queue.extra.semaphore
  counted : 2 * s.clients.senderCount ≤ s.queue.mask.bits

section Housed
variable {futures : Arena (Suspended T)} {s s' : Semaphore} {a : Addr}

theorem Housed.hosted (housed : Housed futures s) : Hosted (demands s.ledger) s := ⟨housed.sound, rfl⟩

theorem Housed.keep (housed : Housed futures s) (hosted : Hosted (demands s.ledger) s') : Housed futures s' :=
  ⟨hosted.sound, by rw [hosted.demands, housed.size], by rw [hosted.demands]; exact housed.held,
    by rw [Single, hosted.demands]; exact housed.single⟩

theorem Housed.alloc (housed : Housed futures s) (future : Suspended T)
    (hosted : Hosted ((demands s.ledger).alloc 1) s') : Housed (futures.alloc future) s' := by
  refine ⟨hosted.sound, ?_, ?_, ?_⟩
  · rw [hosted.demands, Arena.size_alloc, Arena.size_alloc, housed.size]
  · intro b held found
    rw [hosted.demands]
    rw [Arena.get?_alloc] at found ⊢
    rw [housed.size]
    split at found
    next new => rw [if_pos new]
    next old => rw [if_neg old, housed.held b held found]
  · rw [Single, hosted.demands]
    intro b wants demand
    rcases Arena.of_alloc demand with ⟨_, rfl⟩ | before
    · rfl
    · exact housed.single b wants before

theorem Housed.free (housed : Housed futures s) (hosted : Hosted ((demands s.ledger).free a) s') :
    Housed (futures.free a) s' := by
  refine ⟨hosted.sound, ?_, ?_, ?_⟩
  · rw [hosted.demands, Arena.size_free, Arena.size_free, housed.size]
  · intro b held found
    rw [hosted.demands]
    rw [Arena.get?_free] at found ⊢
    split at found
    next => cases found
    next other => rw [if_neg other, housed.held b held found]
  · rw [Single, hosted.demands]
    intro b wants demand
    exact housed.single b wants (Arena.of_free demand).2

theorem Housed.leak (housed : Housed futures s) (a : Addr) : Housed (futures.free a) s := by
  refine ⟨housed.sound, by rw [Arena.size_free, housed.size], ?_, housed.single⟩
  intro b held found
  exact housed.held b held (Arena.of_free found).2

/-- What a call can do to the suspended futures and to the requests behind them. -/
inductive Turnover (futures : Arena (Suspended T)) (s : Semaphore) (leaked : Bool) :
    Arena (Suspended T) → Semaphore → Prop where
  | keep {s' : Semaphore} (hosted : Hosted (demands s.ledger) s') : Turnover futures s leaked futures s'
  | alloc {s' : Semaphore} (future : Suspended T) (hosted : Hosted ((demands s.ledger).alloc 1) s') :
      Turnover futures s leaked (futures.alloc future) s'
  | free {s' : Semaphore} (a : Addr) (hosted : Hosted ((demands s.ledger).free a) s') :
      Turnover futures s leaked (futures.free a) s'
  | leak (a : Addr) (lost : leaked = true) : Turnover futures s leaked (futures.free a) s

variable {leaked : Bool} {futures' : Arena (Suspended T)}

theorem Housed.turnover (housed : Housed futures s) (turnover : Turnover futures s leaked futures' s') :
    Housed futures' s' := by
  cases turnover with
  | keep hosted => exact housed.keep hosted
  | alloc future hosted => exact housed.alloc future hosted
  | free a hosted => exact housed.free hosted
  | leak a lost => exact housed.leak a

theorem Turnover.exact (turnover : Turnover futures s leaked futures' s') (unleaked : leaked = false)
    (hosted : Hosted (futures.map fun _ => 1) s) : Hosted (futures'.map fun _ => 1) s' := by
  have same := hosted.demands
  cases turnover with
  | keep kept => rwa [same] at kept
  | alloc future kept => simpa [same] using kept
  | free a kept => simpa [same] using kept
  | leak a lost => cases unleaked.symm.trans lost

end Housed

section Calls
variable {q : BoundedQueue T} {d : Arena Nat} {a : Addr}

theorem setCounted_hosted {build : Build} {effect : Effect (BoundedQueue T) Unit} (hosted : Hosted d q.extra.semaphore)
    (done : q.setCounted build = .ok effect) : Hosted d effect.state.extra.semaphore := by
  obtain ⟨cleared, mask, reset, _, rfl⟩ := setCounted_ok done
  obtain ⟨diff, semaphore, _, added, same⟩ := reset_ok reset
  simpa only [same] using hosted.addPermits added

theorem tryRecv_hosted {counted : Bool} {effect : Effect (BoundedQueue T) (Except TryRecvError T)}
    (hosted : Hosted d q.extra.semaphore) (done : q.tryRecv counted = .ok effect) :
    Hosted d effect.state.extra.semaphore := by
  rcases tryRecv_ok done with ⟨_, _, _, _, semaphore, _, added, _, same⟩ | ⟨_, _, _, rfl⟩
  · simpa only [same] using hosted.addPermits added
  · exact hosted

theorem pollRecv_hosted {counted : Bool} {waker : Waker} {effect : Effect (BoundedQueue T) (Poll (Option T))}
    (hosted : Hosted d q.extra.semaphore) (done : q.pollRecv counted waker = .ok effect) :
    Hosted d effect.state.extra.semaphore := by
  obtain ⟨received, tried, rfl⟩ := pollRecv_ok done
  have kept := tryRecv_hosted hosted tried
  split <;> exact kept

theorem tryReserve_hosted {effect : Effect (BoundedQueue T) (Except (TrySendError Unit) Unit)}
    (hosted : Hosted d q.extra.semaphore) (done : BoundedQueue.tryReserve q = .ok effect) :
    Hosted d effect.state.extra.semaphore := by
  rcases tryReserve_ok done with ⟨semaphore, acquired, rfl⟩ | ⟨_, _, rfl⟩
  · exact hosted.tryAcquireMany acquired
  · exact hosted

theorem trySend_hosted (hosted : Hosted d q.extra.semaphore) (elem : T) :
    Hosted d (BoundedQueue.trySend q elem).state.extra.semaphore := by
  rcases trySend_eq q elem with ⟨semaphore, acquired, same⟩ | ⟨_, _, same⟩
  · simpa only [same] using hosted.tryAcquireMany acquired
  · simpa only [same] using hosted

theorem dropPermit_hosted {effect : Effect (BoundedQueue T) Unit} (hosted : Hosted d q.extra.semaphore)
    (done : BoundedQueue.dropPermit q = .ok effect) : Hosted d effect.state.extra.semaphore := by
  obtain ⟨_, semaphore, added, same⟩ := dropPermit_ok done
  simpa only [same] using hosted.addPermits added

theorem dropOwnedPermit_hosted {effect : Effect (BoundedQueue T) Unit} (hosted : Hosted d q.extra.semaphore)
    (done : BoundedQueue.dropOwnedPermit q = .ok effect) : Hosted d effect.state.extra.semaphore := by
  obtain ⟨returned, dropped, unreserved, decreased, rfl⟩ := dropOwnedPermit_ok done
  have kept := dropPermit_hosted hosted unreserved
  simpa only [(decreaseSenderCount_rest decreased).2] using kept

end Calls

section Step
variable {build : Build} {s : State T} {action : Action T} {effect : Effect (BoundedQueue T) (Reply T)}

def losesFuture : Action T → Bool
  | .forgetFuture _ => true
  | _ => false

theorem turnover_step (housed : Housed s.clients.futures s.queue.extra.semaphore)
    (operated : operate build s action = .ok effect) :
    Turnover s.clients.futures s.queue.extra.semaphore (losesFuture action)
      (record s.clients effect.value action).futures effect.state.extra.semaphore := by
  cases action with
  | split | intoSplit =>
    obtain ⟨counted, done, stored⟩ := bind_ok operated
    cases stored
    exact .keep (setCounted_hosted housed.hosted done)
  | intoDeque | forgetReceiver | forgetPermit | forgetOwnedPermit | forgetSender =>
    cases operated
    exact .keep housed.hosted
  | close | dropReceiver =>
    obtain ⟨closed, done, stored⟩ := bind_ok operated
    obtain ⟨_, closing, rfl⟩ := close_ok done
    cases stored
    exact .keep (housed.hosted.close closing)
  | tryRecv counted =>
    obtain ⟨received, done, stored⟩ := bind_ok operated
    cases stored
    exact .keep (tryRecv_hosted housed.hosted done)
  | pollRecv counted waker =>
    obtain ⟨polled, done, stored⟩ := bind_ok operated
    cases stored
    exact .keep (pollRecv_hosted housed.hosted done)
  | trySend via elem =>
    cases operated
    exact .keep (trySend_hosted housed.hosted elem)
  | tryReserve via =>
    obtain ⟨reserved, done, stored⟩ := bind_ok operated
    cases stored
    simp only [record]
    split <;> exact .keep (tryReserve_hosted housed.hosted done)
  | tryReserveOwned id =>
    obtain ⟨reserved, done, stored⟩ := bind_ok operated
    cases stored
    simp only [record]
    split <;> exact .keep (tryReserve_hosted housed.hosted done)
  | send | reserve | reserveOwned =>
    cases operated
    exact .alloc _ (housed.hosted.acquireMany 1)
  | pollFuture a waker =>
    cases pollFuture_ok operated with
    | pending found awaited => exact .keep (housed.hosted.awaitAcquire (housed.held _ _ found) awaited)
    | sent found awaited => exact .free _ (housed.hosted.awaitAcquire (housed.held _ _ found) awaited)
    | unsent found awaited => exact .free _ (housed.hosted.awaitAcquire (housed.held _ _ found) awaited)
    | reserved found awaited => exact .free _ (housed.hosted.awaitAcquire (housed.held _ _ found) awaited)
    | unreserved found awaited => exact .free _ (housed.hosted.awaitAcquire (housed.held _ _ found) awaited)
    | reservedOwned found awaited => exact .free _ (housed.hosted.awaitAcquire (housed.held _ _ found) awaited)
    | unreservedOwned found awaited => exact .free _ (housed.hosted.awaitAcquire (housed.held _ _ found) awaited)
  | dropFuture a =>
    cases dropFuture_cancelled operated with
    | borrowing found _ freed => exact .free _ (housed.hosted.dropFuture (housed.held _ _ found) freed)
    | owning found _ freed decreased =>
      apply Turnover.free
      simpa only [(decreaseSenderCount_rest decreased).2] using housed.hosted.dropFuture (housed.held _ _ found) freed
  | forgetFuture a =>
    cases operated
    exact .leak a rfl
  | permitSend | ownedPermitSend =>
    obtain ⟨sent, done, stored⟩ := bind_ok operated
    obtain ⟨_, rfl⟩ := permitSend_ok done
    cases stored
    exact .keep housed.hosted
  | dropPermit =>
    obtain ⟨dropped, done, stored⟩ := bind_ok operated
    cases stored
    exact .keep (dropPermit_hosted housed.hosted done)
  | dropOwnedPermit =>
    obtain ⟨dropped, done, stored⟩ := bind_ok operated
    cases stored
    exact .keep (dropOwnedPermit_hosted housed.hosted done)
  | cloneSender =>
    obtain ⟨queue, done, stored⟩ := bind_ok operated
    obtain ⟨_, _, rfl⟩ := increaseSenderCount_ok done
    cases stored
    exact .keep housed.hosted
  | dropSender =>
    obtain ⟨dropped, done, stored⟩ := bind_ok operated
    cases stored
    apply Turnover.keep
    simpa only [Effect.map, (decreaseSenderCount_rest done).2] using housed.hosted

def splits : Action T → Bool
  | .split | .intoSplit => true
  | _ => false

theorem move_splits (c : Clients T) (action : Action T) : (move c action).splits = splits action := by
  cases action with
  | dropFuture a | forgetFuture a =>
    simp only [move]
    split <;> rfl
  | _ => rfl

/-- The mask counts at least the senders that are left, and only a split makes the first sender. -/
theorem senders_step (coherent : Coherent s.clients) (counted : 2 * s.clients.senderCount ≤ s.queue.mask.bits)
    (able : enabled s.clients action = true) (operated : operate build s action = .ok effect) :
    2 * (record s.clients effect.value action).senderCount ≤ effect.state.mask.bits ∧
      (splits action = false → s.clients.senderCount = 0 → (record s.clients effect.value action).senderCount = 0) := by
  have possible := move_enabled coherent able
  have moved := census_step able operated
  refine ⟨step_covers (c := census s) counted possible moved, ?_⟩
  rw [← move_splits s.clients]
  exact step_senders possible moved

end Step

section Run
variable {build : Build}

/-- A new channel has a slot for every element that is not queued yet. -/
theorem constructed_eq {queue : BoundedQueue T} (constructed : Constructed queue) :
    ∃ deque permits cap, queue = Queue.new deque ⟨.new permits, cap, 0⟩ ∧ permits + deque.items.length = cap ∧
      cap ≤ usizeMax := by
  rcases constructed with ⟨capacity, bound, built⟩ | ⟨capacity, bound, _, built⟩ | ⟨capacity, bound, iter, length, rfl⟩
  · unfold BoundedQueue.new at built
    split at built
    · cases built
      exact ⟨_, _, _, rfl, rfl, bound⟩
    · cases built
  · unfold BoundedQueue.withCapacity at built
    split at built
    · cases built
      exact ⟨_, _, _, rfl, rfl, bound⟩
    · cases built
  · refine ⟨_, _, _, rfl, ?_, ?_⟩
    · simp only [Deque.fromIter, Deque.len]
      omega
    · simp only [Deque.fromIter, Deque.len]
      omega

theorem valid_initial {s : State T} (initial : (system T build).Initial s) : Valid s := by
  obtain ⟨_, constructed, rfl⟩ := initial
  obtain ⟨deque, permits, cap, rfl, total, bound⟩ := constructed_eq constructed
  have stock : Stock .empty permits (.new permits) := .new (by omega)
  refine ⟨.new, ⟨stock.sound, ?_, ?_, stock.singles⟩, Nat.zero_le _⟩
  · exact congrArg Arena.size stock.demands
  · intro a future found
    cases found

theorem valid_step {s : State T} {action : Action T} {effect : Effect (BoundedQueue T) (Reply T)} (valid : Valid s)
    (able : enabled s.clients action = true) (operated : operate build s action = .ok effect) :
    Valid ⟨effect.state, record s.clients effect.value action⟩ :=
  ⟨coherent_step valid.coherent able operated, valid.housed.turnover (turnover_step valid.housed operated),
    (senders_step valid.coherent valid.counted able operated).1⟩

theorem run_valid {start state : State T} {history : History (State T) (Action T) (Outcome T)}
    (run : (system T build).Run start history state) : Valid state := by
  apply run.invariant (fun _ state => Valid state) valid_initial
  intro past before action outcome after _ valid able stepped
  obtain ⟨effect, operated, rfl, rfl⟩ := step_ok stepped
  exact valid_step valid able operated

theorem run_step {start state : State T} {past : History (State T) (Action T) (Outcome T)}
    {event : Event (State T) (Action T) (Outcome T)} (run : (system T build).Run start (event :: past) state) :
    (system T build).Run start past event.before ∧ Valid event.before ∧
      enabled event.before.clients event.action = true ∧
      ∃ effect, operate build event.before event.action = .ok effect ∧
        event.after = ⟨effect.state, record event.before.clients effect.value event.action⟩ ∧
        event.outcome = ⟨effect.value, effect.woken⟩ := by
  obtain ⟨before, able, stepped, _⟩ := run.last
  exact ⟨before, run_valid before, able, step_ok stepped⟩

/-- Those who count see a run of the census. -/
theorem run_census {start state : State T} {history : History (State T) (Action T) (Outcome T)}
    (run : (system T build).Run start history state) :
    Census.system.Run (census start) (history.map told) (census state) := by
  apply run.image
  · rintro ⟨queue, constructed, rfl⟩
    obtain ⟨_, _, _, rfl, _⟩ := constructed_eq constructed
    rfl
  · intro past event reached
    obtain ⟨_, valid, able, effect, operated, after, _⟩ := run_step reached
    refine ⟨move_enabled valid.coherent able, ?_⟩
    rw [after]
    simp only [Census.system, census_step able operated, Except.map]

end Run
end AsyncUnsync.Proofs.BoundedValid
