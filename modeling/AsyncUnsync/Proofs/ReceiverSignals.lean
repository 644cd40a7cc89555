import AsyncUnsync.Proofs.BoundedValid

/-! Which calls of the senders end the wait of a receiver, and whom they wake. -/

namespace AsyncUnsync.Proofs.ReceiverSignals
open Memory BoundedSystem QueueCalls FuturePolls BoundedClients BoundedValid LedgerSimulation SlotAccounting
variable {T : Type}

/-- `try_recv` finds the channel empty, but not disconnected. -/
def Quiet (counted : Bool) (q : BoundedQueue T) : Prop :=
  q.items = [] ∧ (q.extra.reserved = 0 → q.isClosed counted = false)

def receiverSide : Action T → Bool
  | .split | .intoSplit | .intoDeque | .close _ | .tryRecv _ | .pollRecv _ _ | .dropReceiver | .forgetReceiver => true
  | _ => false

/-- The wakers of the blocked senders, the first in the queue first. -/
def blockedWakers (s : Semaphore) : List Waker := s.queue.filterMap fun a => (s.memory.get? a).bind Waiter.waker

/-- An unused permit is dropped, whose slot was the last reservation of a closed and empty channel.
The sender of an owned permit is not the last one. -/
def Resolves (counted : Bool) (s : State T) (action : Action T) : Prop :=
  s.queue.items = [] ∧ s.queue.extra.reserved = 1 ∧ s.queue.isClosed counted = true ∧
    match action with
    | .dropPermit _ => True
    | .dropOwnedPermit _ => 4 ≤ s.queue.mask.bits
    | _ => False

instance (counted : Bool) (s : State T) (action : Action T) : Decidable (Resolves counted s action) := by
  unfold Resolves
  cases action <;> infer_instance

variable {q q' : BoundedQueue T} {counted : Bool} {build : Build} {s : State T} {action : Action T}
  {effect : Effect (BoundedQueue T) (Reply T)}

theorem quiet_of_same (items : q'.items = q.items) (mask : q'.mask = q.mask) (reserved : q'.extra.reserved = 0 → q.extra.reserved = 0)
    (quiet : Quiet counted q) : Quiet counted q' := by
  refine ⟨items.trans quiet.1, fun unreserved => ?_⟩
  rw [Queue.isClosed, mask]
  exact quiet.2 (reserved unreserved)

theorem tryRecv_quiet : (q.tryRecv counted).map Effect.value = .ok (.error .empty) ↔ Quiet counted q := by
  constructor
  · intro empty
    cases done : q.tryRecv counted with
    | error fault => simp [done, Except.map] at empty
    | ok effect =>
      rw [done] at empty
      rcases tryRecv_ok done with ⟨_, _, _, _, _, _, _, value, _⟩ | ⟨items, _, _, rfl⟩
      · simp [Except.map, value] at empty
      · refine ⟨items, fun unreserved => ?_⟩
        simpa [Except.map, unreserved] using empty
  · intro ⟨items, opened⟩
    obtain ⟨effect, done, value⟩ := tryRecv_empty counted items
    have closed : ¬ (q.extra.reserved = 0 ∧ q.isClosed counted = true) := by
      intro ⟨unreserved, closed⟩
      cases (opened unreserved).symm.trans closed
    rw [done]
    simpa [Except.map, value] using closed

section Wakers

theorem blockedWakers_eq (s : Semaphore) : blockedWakers s = s.ledger.wakers s.ledger.queue := by
  unfold blockedWakers Ledger.wakers
  apply List.filterMap_congr
  intro a _
  simp only [Semaphore.ledger, Arena.get?_map]
  cases s.memory.get? a <;> rfl

theorem addPermits_wakers {s s' : Semaphore} {woken : List Waker} (sound : Sound s) (single : Single s.ledger)
    (done : s.addPermits 1 = .ok (s', woken)) : woken = (blockedWakers s).take 1 := by
  obtain ⟨_, _, rfl⟩ := addPermits_ok sound done
  have valid := sound.valid
  simp only [Ledger.addPermits, blockedWakers_eq]
  cases shape : s.ledger.queue with
  | nil => simp [Ledger.handout, shape, Ledger.wakers]
  | cons a rest =>
    have inside : a ∈ s.ledger.queue := by simp [shape]
    obtain ⟨ticket, waker, held, _, waits, short⟩ := valid.queued inside
    have one := single a _ (demand_of_held held)
    have need : s.ledger.need a = 1 := by
      rw [Ledger.need_eq held]
      omega
    have others : Serving.serve s.ledger.need rest 0 = ⟨[], rest, 0⟩ :=
      Serving.serve_zero fun b member => valid.need_pos (by simp [shape, member])
    have served : (s.ledger.handout 1).served = [a] := by
      rw [Ledger.handout, shape, Serving.serve_cons_enough (by omega), need]
      simp [others]
    simp [served, Ledger.wakers, held, waits]

theorem close_wakers {s : Semaphore} {effect : Effect Semaphore Nat} (sound : Sound s) (done : s.close = .ok effect) :
    effect.woken = blockedWakers s := by
  rw [(close_ok sound done).2.2, blockedWakers_eq]
  rfl

end Wakers

/-- What a call of a sender means to a receiver that waits. -/
structure Signal (counted : Bool) (s : State T) (action : Action T) (effect : Effect (BoundedQueue T) (Reply T)) : Prop where
  waker : effect.state.waker = s.queue.waker ∨
    effect.state.waker = none ∧ effect.state.mask.bits = 1 ∧ 0 < s.clients.senderCount
  wakes : Quiet counted s.queue → ¬ Quiet counted effect.state →
    (∀ waker, s.queue.waker = some waker → waker ∈ effect.woken) ∨
      Resolves counted s action ∧ effect.woken = (blockedWakers s.queue.extra.semaphore).take 1

theorem Signal.silent (waker : effect.state.waker = s.queue.waker) (items : effect.state.items = s.queue.items)
    (mask : effect.state.mask = s.queue.mask)
    (reserved : effect.state.extra.reserved = 0 → s.queue.extra.reserved = 0) : Signal counted s action effect :=
  ⟨.inl waker, fun quiet ends => absurd (quiet_of_same items mask reserved quiet) ends⟩

theorem Signal.loud (waker : effect.state.waker = s.queue.waker)
    (wakes : ∀ waker, s.queue.waker = some waker → waker ∈ effect.woken) : Signal counted s action effect :=
  ⟨.inl waker, fun _ _ => .inl wakes⟩

private theorem mem_toList {waker : Waker} (registered : q.waker = some waker) : waker ∈ q.waker.toList := by
  simp [registered]

private theorem decrease_signal {effect : Effect (BoundedQueue T) Unit} {reply : Reply T} (woken : List Waker)
    (waker : q.waker = s.queue.waker) (items : q.items = s.queue.items) (mask : q.mask = s.queue.mask)
    (reserved : q.extra.reserved = s.queue.extra.reserved) (some : 0 < s.clients.senderCount)
    (done : q.decreaseSenderCount = .ok effect) :
    Signal counted s action ⟨effect.state, reply, woken ++ effect.woken⟩ := by
  obtain ⟨_, ⟨_, rfl⟩ | ⟨many, rfl⟩⟩ := decreaseSenderCount_ok done
  · refine ⟨.inr ⟨rfl, rfl, some⟩, fun _ _ => .inl fun w registered => ?_⟩
    exact List.mem_append_right _ (mem_toList (waker.trans registered))
  · refine ⟨.inl waker, fun quiet ends => absurd ⟨items.trans quiet.1, fun unreserved => ?_⟩ ends⟩
    rw [Queue.isClosed, Mask.isClosed_sub many, mask]
    exact quiet.2 (reserved ▸ unreserved)

/-- Every call of a sender either leaves the receiver its wait, or wakes it, or resolves the last reservation. -/
theorem sender_signal (counted : Bool) (valid : Valid s) (side : receiverSide action = false)
    (able : enabled s.clients action = true) (operated : operate build s action = .ok effect) :
    Signal counted s action effect := by
  cases action with
  | split | intoSplit | intoDeque | close | tryRecv | pollRecv | dropReceiver | forgetReceiver => cases side
  | trySend via elem =>
    cases operated
    rcases trySend_eq s.queue elem with ⟨_, _, same⟩ | ⟨_, _, same⟩
    · rw [same]
      exact .loud rfl fun waker registered => mem_toList registered
    · rw [same]
      exact .silent rfl rfl rfl id
  | tryReserve via =>
    obtain ⟨reserved, done, stored⟩ := bind_ok operated
    cases stored
    rcases tryReserve_ok done with ⟨_, _, rfl⟩ | ⟨_, _, rfl⟩
    · exact .silent rfl rfl rfl (by simp [Effect.map])
    · exact .silent rfl rfl rfl id
  | tryReserveOwned id =>
    obtain ⟨reserved, done, stored⟩ := bind_ok operated
    cases stored
    rcases tryReserve_ok done with ⟨_, _, rfl⟩ | ⟨_, _, rfl⟩
    · exact .silent rfl rfl rfl (by simp [Effect.map])
    · exact .silent rfl rfl rfl fun unreserved => unreserved
  | send | reserve | reserveOwned | forgetFuture | forgetPermit | forgetOwnedPermit | forgetSender =>
    cases operated
    exact .silent rfl rfl rfl fun unreserved => unreserved
  | pollFuture a waker =>
    cases pollFuture_ok operated with
    | sent => exact .loud rfl fun waker registered => List.mem_append_right _ (mem_toList registered)
    | pending | unsent | unreserved | unreservedOwned => exact .silent rfl rfl rfl id
    | reserved | reservedOwned => exact .silent rfl rfl rfl (by simp)
  | dropFuture a =>
    cases dropFuture_cancelled operated with
    | borrowing found _ freed => exact .silent rfl rfl rfl id
    | @owning _ semaphore _ _ found owns _ decreased =>
      have some := Arena.count_pos found owns
      exact decrease_signal (q := settled s semaphore) _ rfl rfl rfl rfl (by simp only [Clients.senderCount]; omega) decreased
  | permitSend | ownedPermitSend =>
    obtain ⟨sent, done, stored⟩ := bind_ok operated
    obtain ⟨_, rfl⟩ := permitSend_ok done
    cases stored
    exact .loud rfl fun waker registered => mem_toList registered
  | dropPermit p =>
    obtain ⟨dropped, done, stored⟩ := bind_ok operated
    obtain ⟨some, semaphore, added, same⟩ := dropPermit_ok done
    cases stored
    have woken := addPermits_wakers valid.housed.sound valid.housed.single added
    refine ⟨.inl (by simp [Effect.map, same]), fun quiet ends => .inr ⟨?_, woken⟩⟩
    by_contra unresolved
    refine ends ⟨by simp [Effect.map, same, quiet.1], fun unreserved => ?_⟩
    simp only [Effect.map, same] at unreserved ⊢
    have one : s.queue.extra.reserved = 1 := by omega
    simpa [Resolves, quiet.1, one, Queue.isClosed] using unresolved
  | dropOwnedPermit p =>
    have owner := Arena.count_pos_live able
    obtain ⟨dropped, done, stored⟩ := bind_ok operated
    obtain ⟨returned, _, returning, decreased, rfl⟩ := dropOwnedPermit_ok done
    obtain ⟨some, semaphore, added, same⟩ := dropPermit_ok returning
    cases stored
    have woken := addPermits_wakers valid.housed.sound valid.housed.single added
    obtain ⟨_, ⟨_, rfl⟩ | ⟨many, rfl⟩⟩ := decreaseSenderCount_ok decreased
    · refine ⟨.inr ⟨rfl, rfl, by simp only [Clients.senderCount]; omega⟩, fun _ _ => .inl fun waker registered => ?_⟩
      exact List.mem_append_right _ (mem_toList (by rw [same]; exact registered))
    · refine ⟨.inl (by simp [Effect.map, same]), fun quiet ends => .inr ⟨?_, by simp [Effect.map, woken]⟩⟩
      by_contra unresolved
      refine ends ⟨by simp [Effect.map, same, quiet.1], fun unreserved => ?_⟩
      simp only [Effect.map, same] at unreserved many ⊢
      have one : s.queue.extra.reserved = 1 := by omega
      rw [Queue.isClosed, Mask.isClosed_sub many]
      simpa [Resolves, quiet.1, one, Queue.isClosed, many] using unresolved
  | cloneSender id =>
    obtain ⟨queue, done, stored⟩ := bind_ok operated
    obtain ⟨mask, more, rfl⟩ := increaseSenderCount_ok done
    cases stored
    refine ⟨.inl rfl, fun quiet ends => absurd ⟨quiet.1, fun unreserved => ?_⟩ ends⟩
    exact Mask.isClosed_add more (quiet.2 unreserved)
  | dropSender id =>
    simp only [enabled, Bool.and_eq_true] at able
    have some := Handles.senderCount_pos able.1
    obtain ⟨dropped, done, stored⟩ := bind_ok operated
    cases stored
    exact decrease_signal [] rfl rfl rfl rfl (by simp only [Clients.senderCount]; omega) done

theorem resolves_signal (valid : Valid s) (resolves : Resolves counted s action)
    (operated : operate build s action = .ok effect) :
    Quiet counted s.queue ∧ ¬ Quiet counted effect.state ∧
      effect.woken = (blockedWakers s.queue.extra.semaphore).take 1 := by
  obtain ⟨items, one, closed, released⟩ := resolves
  refine ⟨⟨items, by omega⟩, ?_⟩
  cases action with
  | dropPermit p =>
    obtain ⟨dropped, done, stored⟩ := bind_ok operated
    obtain ⟨_, semaphore, added, same⟩ := dropPermit_ok done
    cases stored
    refine ⟨fun quiet => ?_, addPermits_wakers valid.housed.sound valid.housed.single added⟩
    have opened := quiet.2 (by simp [Effect.map, same, one])
    simp only [Effect.map, same, Queue.isClosed] at opened closed
    cases opened.symm.trans closed
  | dropOwnedPermit p =>
    obtain ⟨dropped, done, stored⟩ := bind_ok operated
    obtain ⟨returned, _, returning, decreased, rfl⟩ := dropOwnedPermit_ok done
    obtain ⟨some, semaphore, added, same⟩ := dropPermit_ok returning
    cases stored
    have woken := addPermits_wakers valid.housed.sound valid.housed.single added
    have mask : returned.state.mask = s.queue.mask := by simp [same]
    obtain ⟨_, ⟨few, _⟩ | ⟨many, rfl⟩⟩ := decreaseSenderCount_ok decreased
    · rw [mask] at few
      exact absurd released (by simp only; omega)
    · refine ⟨fun quiet => ?_, by simp [Effect.map, woken]⟩
      have opened := quiet.2 (by simp [Effect.map, same, one])
      simp only [Effect.map, Queue.isClosed, mask] at opened closed many
      rw [Mask.isClosed_sub many, closed] at opened
      cases opened
  | _ => cases released

end AsyncUnsync.Proofs.ReceiverSignals
