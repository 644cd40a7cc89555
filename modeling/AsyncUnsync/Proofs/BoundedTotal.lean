import AsyncUnsync.Proofs.SlotBalance

/-! No call of a bounded channel faults, as long as nothing was leaked and only empty
channels were split. Only a new sender may be one too many for the mask. -/

namespace AsyncUnsync.Proofs.BoundedTotal
open Memory BoundedSystem QueueCalls BoundedClients BoundedValid LedgerSimulation SlotAccounting SlotBalance
variable {T : Type} {q : BoundedQueue T} {d : Arena Nat} {cap : Nat} {a : Addr} {waker : Waker}

section Calls

theorem decreaseSenderCount_total {B : Type} {q : Queue T B} (some : 2 ≤ q.mask.bits) :
    ∃ effect, q.decreaseSenderCount = .ok effect := by
  simp only [Queue.decreaseSenderCount, Mask.decreaseSenderCount, checkedSub_of_le some, ok_bind]
  split <;> exact ⟨_, rfl⟩

theorem increaseSenderCount_total {B : Type} {q : Queue T B} (room : q.mask.bits + 2 ≤ usizeMax) :
    ∃ q', q.increaseSenderCount = .ok q' := by
  simp only [Queue.increaseSenderCount, Mask.increaseSenderCount, checkedAdd_of_le room, ok_bind]
  exact ⟨_, rfl⟩

theorem setCounted_total (build : Build) (sound : Sound q.extra.semaphore) (within : q.capacity ≤ q.maxCapacity)
    (room : q.mask.bits + 2 ≤ usizeMax) : ∃ effect, q.setCounted build = .ok effect := by
  obtain ⟨s', woken, added⟩ := addPermits_total sound (q.maxCapacity - q.capacity)
  simp only [BoundedQueue.maxCapacity, BoundedQueue.capacity] at within added
  simp only [Queue.setCounted, Queue.reset, MaybeBoundedQueue.reset, Build.sub_of_le build within, added, ok_bind,
    Mask.reset, if_true, checkedAdd_of_le room]
  exact ⟨_, rfl⟩

theorem close_total (sound : Sound q.extra.semaphore) (counted : Bool) : ∃ effect, q.close counted = .ok effect := by
  obtain ⟨_, closed, _⟩ := sound.close
  simp only [Queue.close, MaybeBoundedQueue.close, closed, ok_bind]
  exact ⟨_, rfl⟩

theorem tryRecv_total (sound : Sound q.extra.semaphore) (counted : Bool) : ∃ effect, q.tryRecv counted = .ok effect := by
  simp only [Queue.tryRecv, MaybeBoundedQueue.tryRecv]
  split
  next popped =>
    obtain ⟨_, _, _, _, rfl⟩ := popFront_some popped
    obtain ⟨_, _, added⟩ := addPermits_total sound 1
    simp only [added, ok_bind]
    exact ⟨_, rfl⟩
  next => exact ⟨_, rfl⟩

theorem pollRecv_total (sound : Sound q.extra.semaphore) (counted : Bool) (waker : Waker) :
    ∃ effect, q.pollRecv counted waker = .ok effect := by
  obtain ⟨received, tried⟩ := tryRecv_total sound counted
  simp only [Queue.pollRecv, tried, ok_bind]
  split <;> exact ⟨_, rfl⟩

theorem reserved_total (balanced : Balanced d cap q) {slots : Nat} (total : slots + q.items.length + q.extra.reserved = cap)
    (some : 1 ≤ slots) : checkedAdd q.extra.reserved 1 = .ok (q.extra.reserved + 1) := by
  have bound := balanced.bound
  apply checkedAdd_of_le
  omega

theorem tryReserve_total (balanced : Balanced d cap q) : ∃ effect, BoundedQueue.tryReserve q = .ok effect := by
  obtain ⟨slots, stock, total⟩ := balanced.slots
  unfold BoundedQueue.tryReserve
  split
  next acquired =>
    have some := (stock.tryAcquireMany acquired).1
    simp only [reserved_total balanced total some, ok_bind]
    exact ⟨_, rfl⟩
  next => exact ⟨_, rfl⟩

theorem send_total (balanced : Balanced d cap q) (demand : d.get? a = some 1) (waker : Waker) (elem : T) :
    ∃ effect, BoundedQueue.send q a waker elem = .ok effect := by
  obtain ⟨slots, stock, _⟩ := balanced.slots
  obtain ⟨ticket, held, _⟩ := stock.held demand
  obtain ⟨awaited, done⟩ := awaitAcquire_total stock.sound held waker
  simp only [BoundedQueue.send, done, ok_bind]
  split <;> exact ⟨_, rfl⟩

theorem reserve_total (balanced : Balanced d cap q) (demand : d.get? a = some 1) (waker : Waker) :
    ∃ effect, BoundedQueue.reserve q a waker = .ok effect := by
  obtain ⟨slots, stock, total⟩ := balanced.slots
  obtain ⟨ticket, held, _⟩ := stock.held demand
  obtain ⟨awaited, done⟩ := awaitAcquire_total stock.sound held waker
  have outcome := stock.awaitAcquire demand done
  simp only [BoundedQueue.reserve, done, ok_bind]
  split
  · exact ⟨_, rfl⟩
  · exact ⟨_, rfl⟩
  next ready =>
    rw [ready] at outcome
    simp only [reserved_total balanced total outcome.1, ok_bind]
    exact ⟨_, rfl⟩

theorem dropAcquire_total (balanced : Balanced d cap q) (demand : d.get? a = some 1) :
    ∃ effect, BoundedQueue.dropAcquire q a = .ok effect := by
  obtain ⟨slots, stock, _⟩ := balanced.slots
  obtain ⟨ticket, held, _⟩ := stock.held demand
  obtain ⟨_, dropped, _⟩ := stock.sound.dropFuture held
  simp only [BoundedQueue.dropAcquire, dropped, ok_bind]
  exact ⟨_, rfl⟩

theorem drop_total {future : Suspended T} (balanced : Balanced d cap q) (demand : d.get? a = some 1)
    (counted : future.owned = true → 2 ≤ q.mask.bits) : ∃ effect, future.drop q a = .ok effect := by
  obtain ⟨cancelled, cancelling⟩ := dropAcquire_total balanced demand
  unfold Suspended.drop
  split
  next owned =>
    obtain ⟨_, _, same⟩ := dropAcquire_ok cancelling
    obtain ⟨_, decreased⟩ := decreaseSenderCount_total (q := cancelled.state) (by simpa [same] using counted owned)
    simp only [BoundedQueue.dropReserveOwned, cancelling, decreased, ok_bind]
    exact ⟨_, rfl⟩
  next => exact ⟨cancelled, cancelling⟩

theorem permitSend_total (some : 1 ≤ q.extra.reserved) (elem : T) :
    ∃ effect, BoundedQueue.permitSend q elem = .ok effect := by
  simp only [BoundedQueue.permitSend, BoundedQueue.unboundedSend, Queue.pushAndWake, BoundedQueue.unreserve,
    checkedSub_of_le some, ok_bind, if_true]
  exact ⟨_, rfl⟩

theorem dropPermit_total (sound : Sound q.extra.semaphore) (some : 1 ≤ q.extra.reserved) :
    ∃ effect, BoundedQueue.dropPermit q = .ok effect := by
  obtain ⟨_, _, added⟩ := addPermits_total sound 1
  simp only [BoundedQueue.dropPermit, BoundedQueue.unreserve, checkedSub_of_le some, added, ok_bind]
  exact ⟨_, rfl⟩

theorem dropOwnedPermit_total (sound : Sound q.extra.semaphore) (some : 1 ≤ q.extra.reserved)
    (counted : 2 ≤ q.mask.bits) : ∃ effect, BoundedQueue.dropOwnedPermit q = .ok effect := by
  obtain ⟨returned, returning⟩ := dropPermit_total sound some
  obtain ⟨_, _, _, same⟩ := dropPermit_ok returning
  obtain ⟨_, decreased⟩ := decreaseSenderCount_total (q := returned.state) (by simpa [same] using counted)
  rw [BoundedQueue.dropPermit] at returning
  simp only [BoundedQueue.dropOwnedPermit, returning, decreased, ok_bind]
  exact ⟨_, rfl⟩

end Calls

/-- A call that makes a sender, which the mask must be able to count. -/
def addsSender : Action T → Bool
  | .split | .intoSplit | .cloneSender _ => true
  | _ => false

private theorem map_ok {σ β γ : Type} {first : Except Fault (Effect σ β)} (done : ∃ effect, first = .ok effect) (f : β → γ) :
    ∃ effect, (do let effect ← first; Except.ok (effect.map f)) = .ok effect := by
  obtain ⟨effect, rfl⟩ := done
  exact ⟨_, rfl⟩

/-- Every call that a client can make succeeds, if the mask can count one more sender. -/
theorem operate_total {s : State T} {action : Action T} (build : Build) (tally : Tally cap s) (valid : Valid s)
    (able : enabled s.clients action = true) (room : addsSender action = true → s.queue.mask.bits + 2 ≤ usizeMax) :
    ∃ effect, operate build s action = .ok effect := by
  have balanced := tally.balanced
  have sound := valid.housed.sound
  have counted := valid.counted
  have reserved := tally.reserved
  simp only [Clients.senderCount] at counted
  cases action with
  | split | intoSplit => exact map_ok (setCounted_total build sound balanced.within.2 (room rfl)) _
  | intoDeque | forgetReceiver | forgetFuture | forgetPermit | forgetOwnedPermit | forgetSender => exact ⟨_, rfl⟩
  | trySend | send | reserve | reserveOwned => exact ⟨_, rfl⟩
  | close mode => exact map_ok (close_total sound mode) _
  | dropReceiver => exact map_ok (close_total sound true) _
  | tryRecv mode => exact map_ok (tryRecv_total sound mode) _
  | pollRecv mode waker => exact map_ok (pollRecv_total sound mode waker) _
  | tryReserve | tryReserveOwned => exact map_ok (tryReserve_total balanced) _
  | pollFuture a waker =>
    obtain ⟨future, found⟩ := Option.isSome_iff_exists.mp able
    have demand : (s.clients.futures.map fun _ => 1).get? a = some 1 := by simp [found]
    simp only [operate, found]
    cases future with
    | send via elem => exact map_ok (send_total balanced demand waker elem) _
    | reserve via => exact map_ok (reserve_total balanced demand waker) _
    | reserveOwned => exact map_ok (reserve_total balanced demand waker) _
  | dropFuture a =>
    obtain ⟨future, found⟩ := Option.isSome_iff_exists.mp able
    have demand : (s.clients.futures.map fun _ => 1).get? a = some 1 := by simp [found]
    simp only [operate, found]
    apply map_ok
    apply drop_total balanced demand
    intro owned
    have some := Arena.count_pos found owned
    omega
  | permitSend p elem =>
    have some := Arena.count_pos_live able
    exact map_ok (permitSend_total (by omega) elem) _
  | ownedPermitSend p elem =>
    have some := Arena.count_pos_live able
    exact map_ok (permitSend_total (by omega) elem) _
  | dropPermit p =>
    have some := Arena.count_pos_live able
    exact map_ok (dropPermit_total sound (by omega)) _
  | dropOwnedPermit p =>
    have some := Arena.count_pos_live able
    exact map_ok (dropOwnedPermit_total sound (by omega) (by omega)) _
  | cloneSender id =>
    obtain ⟨_, increased⟩ := increaseSenderCount_total (room rfl)
    simp only [operate, increased, ok_bind]
    exact ⟨_, rfl⟩
  | dropSender id =>
    simp only [enabled, Bool.and_eq_true] at able
    have some := Handles.senderCount_pos able.1
    exact map_ok (decreaseSenderCount_total (by omega)) _

end AsyncUnsync.Proofs.BoundedTotal
