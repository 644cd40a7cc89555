import AsyncUnsync.BoundedSystem
import AsyncUnsync.Proofs.QueueCalls

/-! Everything that polling or dropping a suspended future can do. -/

namespace AsyncUnsync.Proofs.FuturePolls
open Memory BoundedSystem QueueCalls
variable {T : Type} {s : State T} {a : Addr} {waker : Waker}

/-- The queue after the await. -/
abbrev settled (s : State T) (semaphore : Semaphore) : BoundedQueue T := { s.queue with extra.semaphore := semaphore }

inductive Polled (s : State T) (a : Addr) (waker : Waker) : Effect (BoundedQueue T) (Reply T) → Prop where
  | pending {future : Suspended T} {semaphore : Semaphore} {woken : List Waker}
      (found : s.clients.futures.get? a = some future)
      (awaited : s.queue.extra.semaphore.awaitAcquire a waker = .ok ⟨semaphore, .pending, woken⟩) :
      Polled s a waker ⟨settled s semaphore, .pending, woken⟩
  | sent {via : Via} {elem : T} {semaphore : Semaphore} {woken : List Waker}
      (found : s.clients.futures.get? a = some (.send via elem))
      (awaited : s.queue.extra.semaphore.awaitAcquire a waker = .ok ⟨semaphore, .ready (.ok ()), woken⟩) :
      Polled s a waker ⟨{ settled s semaphore with queue := s.queue.queue.pushBack elem }, .sent (.ok ()),
        woken ++ s.queue.waker.toList⟩
  | unsent {via : Via} {elem : T} {semaphore : Semaphore} {error : AcquireError} {woken : List Waker}
      (found : s.clients.futures.get? a = some (.send via elem))
      (awaited : s.queue.extra.semaphore.awaitAcquire a waker = .ok ⟨semaphore, .ready (.error error), woken⟩) :
      Polled s a waker ⟨settled s semaphore, .sent (.error ⟨elem⟩), woken⟩
  | reserved {via : Via} {semaphore : Semaphore} {woken : List Waker}
      (found : s.clients.futures.get? a = some (.reserve via))
      (awaited : s.queue.extra.semaphore.awaitAcquire a waker = .ok ⟨semaphore, .ready (.ok ()), woken⟩) :
      Polled s a waker ⟨{ settled s semaphore with extra.reserved := s.queue.extra.reserved + 1 },
        .reserved via (.ok s.clients.permits.size), woken⟩
  | unreserved {via : Via} {semaphore : Semaphore} {error : AcquireError} {woken : List Waker}
      (found : s.clients.futures.get? a = some (.reserve via))
      (awaited : s.queue.extra.semaphore.awaitAcquire a waker = .ok ⟨semaphore, .ready (.error error), woken⟩) :
      Polled s a waker ⟨settled s semaphore, .reserved via (.error ⟨()⟩), woken⟩
  | reservedOwned {semaphore : Semaphore} {woken : List Waker}
      (found : s.clients.futures.get? a = some .reserveOwned)
      (awaited : s.queue.extra.semaphore.awaitAcquire a waker = .ok ⟨semaphore, .ready (.ok ()), woken⟩) :
      Polled s a waker ⟨{ settled s semaphore with extra.reserved := s.queue.extra.reserved + 1 },
        .reservedOwned (.ok s.clients.ownedPermits.size), woken⟩
  | unreservedOwned {semaphore : Semaphore} {error : AcquireError} {woken : List Waker}
      (found : s.clients.futures.get? a = some .reserveOwned)
      (awaited : s.queue.extra.semaphore.awaitAcquire a waker = .ok ⟨semaphore, .ready (.error error), woken⟩) :
      Polled s a waker ⟨settled s semaphore, .reservedOwned (.error ⟨s.clients.handles.senders.size⟩), woken⟩

theorem pollFuture_ok {build : Build} {effect : Effect (BoundedQueue T) (Reply T)}
    (operated : operate build s (.pollFuture a waker) = .ok effect) : Polled s a waker effect := by
  simp only [operate] at operated
  split at operated
  next => cases operated
  next via elem found =>
    obtain ⟨sent, done, stored⟩ := bind_ok operated
    obtain ⟨⟨semaphore, value, woken⟩, awaited, rfl⟩ := send_ok done
    cases stored
    rcases value with ⟨⟨⟩ | ⟨⟩⟩ | _
    · exact .unsent found awaited
    · exact .sent found awaited
    · exact .pending found awaited
  next via found =>
    obtain ⟨reserved, done, stored⟩ := bind_ok operated
    obtain ⟨⟨semaphore, value, woken⟩, awaited, rfl⟩ := reserve_ok done
    cases stored
    rcases value with ⟨⟨⟩ | ⟨⟩⟩ | _
    · exact .unreserved found awaited
    · exact .reserved found awaited
    · exact .pending found awaited
  next found =>
    obtain ⟨reserved, done, stored⟩ := bind_ok operated
    obtain ⟨⟨semaphore, value, woken⟩, awaited, rfl⟩ := reserve_ok done
    cases stored
    rcases value with ⟨⟨⟩ | ⟨⟩⟩ | _
    · exact .unreservedOwned found awaited
    · exact .reservedOwned found awaited
    · exact .pending found awaited

inductive Cancelled (s : State T) (a : Addr) : Effect (BoundedQueue T) (Reply T) → Prop where
  | borrowing {future : Suspended T} {semaphore : Semaphore} {woken : List Waker}
      (found : s.clients.futures.get? a = some future) (borrows : future.owned = false)
      (freed : s.queue.extra.semaphore.dropFuture a = .ok (semaphore, woken)) :
      Cancelled s a ⟨settled s semaphore, .done, woken⟩
  | owning {future : Suspended T} {semaphore : Semaphore} {woken : List Waker} {dropped : Effect (BoundedQueue T) Unit}
      (found : s.clients.futures.get? a = some future) (owns : future.owned = true)
      (freed : s.queue.extra.semaphore.dropFuture a = .ok (semaphore, woken))
      (decreased : (settled s semaphore).decreaseSenderCount = .ok dropped) :
      Cancelled s a ⟨dropped.state, .done, woken ++ dropped.woken⟩

theorem dropFuture_cancelled {build : Build} {effect : Effect (BoundedQueue T) (Reply T)}
    (operated : operate build s (.dropFuture a) = .ok effect) : Cancelled s a effect := by
  simp only [operate] at operated
  split at operated
  next => cases operated
  next future found =>
    obtain ⟨cancelled, done, stored⟩ := bind_ok operated
    cases stored
    unfold Suspended.drop at done
    split at done
    next owns =>
      obtain ⟨_, dropped, cancelling, decreased, rfl⟩ := dropReserveOwned_ok done
      obtain ⟨semaphore, freed, same⟩ := dropAcquire_ok cancelling
      rw [same] at decreased
      exact .owning found owns freed decreased
    next borrows =>
      obtain ⟨semaphore, freed, same⟩ := dropAcquire_ok done
      simp only [Effect.map, same]
      exact .borrowing found (by simpa using borrows) freed

end AsyncUnsync.Proofs.FuturePolls
