import AsyncUnsync.Proofs.BoundedClients
import AsyncUnsync.Proofs.CensusCounts

/-! What every call of a bounded channel means to those who count: the senders that
are alive, and the slots that are reserved. -/

namespace AsyncUnsync.Proofs.BoundedCensus
open Memory Transition BoundedSystem QueueCalls FuturePolls BoundedClients
variable {T : Type}

/-- The future of `reserve_owned` owns a sender. -/
def owner (c : Clients T) (a : Addr) : Bool := (c.futures.get? a).any Suspended.owned

def census (s : State T) : Census := ⟨s.queue.mask, s.clients.senderCount, s.clients.handles.receiver⟩

/-- Who comes and who goes with a call. -/
def move (c : Clients T) : Action T → Census.Move
  | .split | .intoSplit => .split
  | .close counted => .close counted
  | .dropReceiver => .retire
  | .forgetReceiver => .abandon
  | .cloneSender _ => .join
  | .dropSender _ | .dropOwnedPermit _ => .leave
  | .forgetSender _ | .forgetOwnedPermit _ => .lose
  | .dropFuture a => if owner c a then .leave else .stay
  | .forgetFuture a => if owner c a then .lose else .stay
  | _ => .stay

/-- A step of the channel, as the census sees it. -/
def told : Event (State T) (Action T) (Outcome T) → Event Census Census.Move Unit :=
  Event.image census (fun event => move event.before.clients event.action) fun _ => ()

/-- The slots that permits hold. -/
def holds (c : Clients T) : Nat := c.permits.count (fun _ => true) + c.ownedPermits.count fun _ => true

def losesPermit : Action T → Bool
  | .forgetPermit _ | .forgetOwnedPermit _ => true
  | _ => false

section Step
variable {build : Build} {s : State T} {action : Action T} {effect : Effect (BoundedQueue T) (Reply T)}

theorem owner_of_found {c : Clients T} {a : Addr} {future : Suspended T} (found : c.futures.get? a = some future) :
    owner c a = future.owned := by
  simp [owner, found]

theorem move_enabled (coherent : Coherent s.clients) (able : enabled s.clients action = true) :
    (census s).enabled (move s.clients action) = true := by
  have alone : s.clients.handles.unsplit = true → s.clients.handles.receiver = false ∧ s.clients.senderCount = 0 :=
    fun unsplit => ⟨(Handles.unsplit_iff.mp unsplit).2.1, unsplit_senders coherent unsplit⟩
  have present : ∀ id, s.clients.handles.usable (.sender id) = true → s.clients.senderCount ≠ 0 := by
    intro id live
    have some := Handles.senderCount_pos live
    simp only [Clients.senderCount]
    omega
  have permit : ∀ p, (s.clients.ownedPermits.get? p).isSome = true → s.clients.senderCount ≠ 0 := by
    intro p live
    have some := Arena.count_pos_live live
    simp only [Clients.senderCount]
    omega
  have future : ∀ a, owner s.clients a = true → s.clients.senderCount ≠ 0 := by
    intro a owns
    obtain ⟨future, found, owned⟩ := (Option.any_eq_true ..).mp owns
    have some := Arena.count_pos found owned
    simp only [Clients.senderCount]
    omega
  cases action with
  | split | intoSplit =>
    obtain ⟨receiver, senders⟩ := alone (exclusive_alone able).1
    simp [move, census, Census.enabled, receiver, senders]
  | close counted =>
    cases counted with
    | true => exact able
    | false =>
      obtain ⟨receiver, senders⟩ := alone able
      simp [move, census, Census.enabled, receiver, senders]
  | dropReceiver | forgetReceiver => exact able
  | cloneSender id => simpa [move, census, Census.enabled] using present id able
  | dropSender id | forgetSender id =>
    simp only [enabled, Bool.and_eq_true] at able
    simpa [move, census, Census.enabled] using present id able.1
  | dropOwnedPermit p | forgetOwnedPermit p => simpa [move, census, Census.enabled] using permit p able
  | dropFuture a | forgetFuture a =>
    simp only [move]
    split
    next owns => simpa [census, Census.enabled] using future a owns
    next => rfl
  | _ => rfl

private theorem stays (mask : effect.state.mask = s.queue.mask)
    (senders : (record s.clients effect.value action).senderCount = s.clients.senderCount)
    (receiver : (record s.clients effect.value action).handles.receiver = s.clients.handles.receiver) :
    (census s).step .stay = .ok (census ⟨effect.state, record s.clients effect.value action⟩) := by
  simp only [Census.step, census, mask, senders, receiver]

private theorem leaves {q : BoundedQueue T} {dropped : Effect (BoundedQueue T) Unit} (same : q.mask = s.queue.mask)
    (done : q.decreaseSenderCount = .ok dropped) (stored : effect.state = dropped.state)
    (senders : (record s.clients effect.value action).senderCount + 1 = s.clients.senderCount)
    (receiver : (record s.clients effect.value action).handles.receiver = s.clients.handles.receiver) :
    (census s).step .leave = .ok (census ⟨effect.state, record s.clients effect.value action⟩) := by
  obtain ⟨last, decreased⟩ := decreaseSenderCount_mask done
  rw [same] at decreased
  have count : s.clients.senderCount - 1 = (record s.clients effect.value action).senderCount := by omega
  simp only [Census.step, census, decreased, ok_bind, stored, receiver, count]

private theorem loses (mask : effect.state.mask = s.queue.mask)
    (senders : (record s.clients effect.value action).senderCount + 1 = s.clients.senderCount)
    (receiver : (record s.clients effect.value action).handles.receiver = s.clients.handles.receiver) :
    (census s).step .lose = .ok (census ⟨effect.state, record s.clients effect.value action⟩) := by
  have count : s.clients.senderCount - 1 = (record s.clients effect.value action).senderCount := by omega
  simp only [Census.step, census, mask, receiver, count]

private theorem pollFuture_census {a : Addr} {waker : Waker} (polled : Polled s a waker effect) :
    (census s).step (move s.clients (.pollFuture a waker)) =
      .ok (census ⟨effect.state, record s.clients effect.value (.pollFuture a waker)⟩) := by
  have freed : ∀ future, s.clients.futures.get? a = some future →
      (s.clients.futures.free a).count Suspended.owned + (if future.owned then 1 else 0) =
        s.clients.futures.count Suspended.owned := fun future found => Arena.count_free found Suspended.owned
  cases polled with
  | pending => exact stays rfl rfl rfl
  | sent found | unsent found | reserved found | unreserved found =>
    have freed := freed _ found
    simp only [Suspended.owned, Suspended.via, Option.isNone_some, Bool.false_eq_true, if_false] at freed
    refine stays rfl ?_ rfl
    simp only [record, Clients.senderCount]
    omega
  | reservedOwned found =>
    have freed := freed _ found
    simp only [Suspended.owned, Suspended.via, Option.isNone_none, if_true] at freed
    refine stays rfl ?_ rfl
    simp only [record, Clients.senderCount, Arena.count_alloc, if_true]
    omega
  | unreservedOwned found =>
    have freed := freed _ found
    simp only [Suspended.owned, Suspended.via, Option.isNone_none, if_true] at freed
    refine stays rfl ?_ rfl
    simp only [record, Clients.senderCount, Handles.senderCount_addSender]
    omega

private theorem dropFuture_census {a : Addr} (cancelled : Cancelled s a effect) :
    (census s).step (move s.clients (.dropFuture a)) =
      .ok (census ⟨effect.state, record s.clients effect.value (.dropFuture a)⟩) := by
  cases cancelled with
  | borrowing found borrows =>
    have freed := Arena.count_free found Suspended.owned
    rw [borrows, if_neg Bool.false_ne_true] at freed
    rw [move, owner_of_found found, borrows, if_neg Bool.false_ne_true]
    refine stays rfl ?_ rfl
    simp only [record, Clients.senderCount]
    omega
  | @owning _ semaphore _ _ found owns _ decreased =>
    have freed := Arena.count_free found Suspended.owned
    rw [owns, if_pos rfl] at freed
    rw [move, owner_of_found found, owns, if_pos rfl]
    refine leaves (q := settled s semaphore) rfl decreased rfl ?_ rfl
    simp only [record, Clients.senderCount]
    omega

private theorem forgetFuture_census {a : Addr} (able : enabled s.clients (.forgetFuture a) = true)
    (operated : operate build s (.forgetFuture a) = .ok effect) :
    (census s).step (move s.clients (.forgetFuture a)) =
      .ok (census ⟨effect.state, record s.clients effect.value (.forgetFuture a)⟩) := by
  obtain ⟨future, found⟩ := Option.isSome_iff_exists.mp able
  have freed := Arena.count_free found Suspended.owned
  cases operated
  rw [move, owner_of_found found]
  split at freed
  next owned =>
    rw [if_pos owned]
    refine loses rfl ?_ rfl
    simp only [record, Clients.senderCount]
    omega
  next borrowing =>
    rw [if_neg borrowing]
    refine stays rfl ?_ rfl
    simp only [record, Clients.senderCount]
    omega

/-- The step lemma: every call is a move of the census. -/
theorem census_step (able : enabled s.clients action = true) (operated : operate build s action = .ok effect) :
    (census s).step (move s.clients action) = .ok (census ⟨effect.state, record s.clients effect.value action⟩) := by
  cases action with
  | split | intoSplit =>
    obtain ⟨split, done, stored⟩ := bind_ok operated
    obtain ⟨cleared, reset, counted⟩ := setCounted_mask done
    obtain ⟨_, _, _, _, same⟩ := reset_ok reset
    rw [same] at counted
    cases stored
    have count : s.clients.senderCount + 1 =
        (record s.clients (.sender s.clients.handles.senders.size) .split).senderCount := by
      simp only [record, Clients.senderCount, Handles.senderCount_split]
      omega
    simp only [move, Census.step, census, counted, ok_bind, count]
    rfl
  | intoDeque | forgetPermit =>
    cases operated
    exact stays rfl rfl rfl
  | forgetReceiver =>
    cases operated
    rfl
  | close mode =>
    obtain ⟨closed, done, stored⟩ := bind_ok operated
    obtain ⟨_, closing, rfl⟩ := close_ok done
    cases stored
    rfl
  | dropReceiver =>
    obtain ⟨closed, done, stored⟩ := bind_ok operated
    obtain ⟨_, closing, rfl⟩ := close_ok done
    cases stored
    rfl
  | tryRecv mode =>
    obtain ⟨received, done, stored⟩ := bind_ok operated
    cases stored
    rcases tryRecv_ok done with ⟨_, _, _, _, _, _, _, _, same⟩ | ⟨_, _, _, rfl⟩
    · exact stays (by simp [Effect.map, same]) rfl rfl
    · exact stays rfl rfl rfl
  | pollRecv mode waker =>
    obtain ⟨polled, done, stored⟩ := bind_ok operated
    obtain ⟨received, tried, rfl⟩ := pollRecv_ok done
    cases stored
    rcases tryRecv_ok tried with ⟨_, _, _, _, _, _, _, value, same⟩ | ⟨_, _, _, rfl⟩
    · exact stays (by simp [Effect.map, value, same]) rfl rfl
    · exact stays (by simp only [Effect.map]; split <;> rfl) rfl rfl
  | trySend via elem =>
    cases operated
    rcases trySend_eq s.queue elem with ⟨_, _, same⟩ | ⟨_, _, same⟩ <;> exact stays (by simp [Effect.map, same]) rfl rfl
  | tryReserve via =>
    obtain ⟨reserved, done, stored⟩ := bind_ok operated
    cases stored
    rcases tryReserve_ok done with ⟨_, _, rfl⟩ | ⟨_, _, rfl⟩ <;> exact stays rfl rfl rfl
  | tryReserveOwned id =>
    simp only [enabled, Bool.and_eq_true] at able
    have removed := Handles.senderCount_removeSender able.1.2
    obtain ⟨reserved, done, stored⟩ := bind_ok operated
    cases stored
    rcases tryReserve_ok done with ⟨_, _, rfl⟩ | ⟨_, _, rfl⟩
    · refine stays rfl ?_ rfl
      simp only [record, Effect.map, Clients.senderCount, Arena.count_alloc, if_true]
      omega
    · exact stays rfl rfl rfl
  | send via elem | reserve via =>
    cases operated
    exact stays rfl (by simp [record, Clients.senderCount, Suspended.owned, Suspended.via]) rfl
  | reserveOwned id =>
    simp only [enabled, Bool.and_eq_true] at able
    have removed := Handles.senderCount_removeSender able.1.2
    cases operated
    refine stays rfl ?_ rfl
    simp only [record, Clients.senderCount, Arena.count_alloc, Suspended.owned, Suspended.via, Option.isNone_none, if_true]
    omega
  | pollFuture a waker => exact pollFuture_census (pollFuture_ok operated)
  | dropFuture a => exact dropFuture_census (dropFuture_cancelled operated)
  | forgetFuture a => exact forgetFuture_census able operated
  | permitSend p elem =>
    obtain ⟨sent, done, stored⟩ := bind_ok operated
    obtain ⟨_, rfl⟩ := permitSend_ok done
    cases stored
    exact stays rfl rfl rfl
  | ownedPermitSend p elem =>
    have freed := Arena.count_free_live able
    obtain ⟨sent, done, stored⟩ := bind_ok operated
    obtain ⟨_, rfl⟩ := permitSend_ok done
    cases stored
    refine stays rfl ?_ rfl
    simp only [record, Clients.senderCount, Handles.senderCount_addSender]
    omega
  | dropPermit p =>
    obtain ⟨dropped, done, stored⟩ := bind_ok operated
    obtain ⟨_, _, _, same⟩ := dropPermit_ok done
    cases stored
    exact stays (by simp [Effect.map, same]) rfl rfl
  | dropOwnedPermit p =>
    have freed := Arena.count_free_live able
    obtain ⟨dropped, done, stored⟩ := bind_ok operated
    obtain ⟨_, _, returned, decreased, rfl⟩ := dropOwnedPermit_ok done
    obtain ⟨_, _, _, same⟩ := dropPermit_ok returned
    cases stored
    refine leaves (by rw [same]) decreased rfl ?_ rfl
    simp only [record, Clients.senderCount]
    omega
  | forgetOwnedPermit p =>
    have freed := Arena.count_free_live able
    cases operated
    refine loses rfl ?_ rfl
    simp only [record, Clients.senderCount]
    omega
  | cloneSender id =>
    obtain ⟨queue, done, stored⟩ := bind_ok operated
    have increased := increaseSenderCount_mask done
    cases stored
    have count : s.clients.senderCount + 1 =
        (record s.clients (.sender s.clients.handles.senders.size) (.cloneSender id)).senderCount := by
      simp only [record, Clients.senderCount, Handles.senderCount_addSender]
      omega
    simp only [move, Census.step, census, increased, ok_bind, count]
    rfl
  | dropSender id =>
    simp only [enabled, Bool.and_eq_true] at able
    have removed := Handles.senderCount_removeSender able.1
    obtain ⟨dropped, done, stored⟩ := bind_ok operated
    cases stored
    refine leaves rfl done rfl ?_ rfl
    simp only [record, Clients.senderCount]
    omega
  | forgetSender id =>
    simp only [enabled, Bool.and_eq_true] at able
    have removed := Handles.senderCount_removeSender able.1
    cases operated
    refine loses rfl ?_ rfl
    simp only [record, Clients.senderCount]
    omega

end Step
end AsyncUnsync.Proofs.BoundedCensus
