import AsyncUnsync.Library.Refinement
import AsyncUnsync.MailboxSystem
import AsyncUnsync.Proofs.GrantedSlots
import AsyncUnsync.Proofs.SlotRefinement

/-! A bounded channel cannot be told apart from a mailbox, by whatever calls: each call
does to the queue what it does to its view, answers alike, and faults alike. -/

namespace AsyncUnsync.Proofs.MailboxRefinement
open Memory Transition BoundedSystem QueueCalls SlotAccounting SlotRefinement BoundedValid GrantedSlots MailboxSystem
variable {T : Type}

/-- An effect on the queue, seen as an effect on the mailbox. -/
def seen {β : Type} (effect : Effect (BoundedQueue T) β) : Effect (Mailbox T) β :=
  ⟨BoundedQueue.mailbox effect.state, effect.value, effect.woken⟩

abbrev Agrees {β : Type} : Except Fault (Effect (BoundedQueue T) β) → Except Fault (Effect (Mailbox T) β) → Prop :=
  Both fun effect effect' => effect' = seen effect

variable {q : BoundedQueue T} {s : State T} {a : Addr} {ticket : Ticket} {waker : Waker} {elem : T} {counted : Bool}
  {build : Build}

theorem Agrees.map {β γ : Type} {call : Except Fault (Effect (BoundedQueue T) β)}
    {call' : Except Fault (Effect (Mailbox T) β)} (agrees : Agrees call call') (f : β → γ) :
    Agrees (call >>= fun effect => .ok (effect.map f)) (call' >>= fun effect => .ok (effect.map f)) := by
  apply agrees.bind
  rintro effect _ rfl
  exact .ok rfl

section Calls

theorem give_seen (fit : Fit q.extra.semaphore) (n : Nat) :
    ∃ semaphore, q.extra.semaphore.addPermits n = .ok (semaphore, ((BoundedQueue.mailbox q).give n).woken) ∧
      BoundedQueue.mailbox { q with extra.semaphore := semaphore } = ((BoundedQueue.mailbox q).give n).state := by
  obtain ⟨semaphore, added, same⟩ := fit.addPermits n
  exact ⟨semaphore, added, by simp [BoundedQueue.mailbox, Mailbox.give, same]⟩

theorem increaseSenderCount_agrees (q : BoundedQueue T) :
    Both (fun q' m' => m' = BoundedQueue.mailbox q') q.increaseSenderCount (BoundedQueue.mailbox q).increaseSenderCount := by
  simp only [Queue.increaseSenderCount, Mailbox.increaseSenderCount, BoundedQueue.mailbox]
  cases q.mask.increaseSenderCount with
  | ok mask => exact .ok rfl
  | error fault => exact .error fault

theorem decreaseSenderCount_agrees (q : BoundedQueue T) :
    Agrees q.decreaseSenderCount (BoundedQueue.mailbox q).decreaseSenderCount := by
  simp only [Queue.decreaseSenderCount, Mailbox.decreaseSenderCount, BoundedQueue.mailbox]
  cases q.mask.decreaseSenderCount with
  | error fault => exact .error fault
  | ok result =>
    obtain ⟨mask, _ | _⟩ := result
    · exact .ok rfl
    · exact .ok rfl

theorem setCounted_agrees (fit : Fit q.extra.semaphore) : Agrees (q.setCounted build) ((BoundedQueue.mailbox q).split build) := by
  simp only [Queue.setCounted, Queue.reset, MaybeBoundedQueue.reset, Mailbox.split]
  have free : (BoundedQueue.mailbox q).slots.free = q.extra.semaphore.availablePermits := rfl
  have most : (BoundedQueue.mailbox q).maxCapacity = q.extra.maxCapacity := rfl
  rw [free, most]
  cases build.sub q.extra.maxCapacity q.extra.semaphore.availablePermits with
  | error fault => exact .error fault
  | ok missing =>
    obtain ⟨semaphore, added, same⟩ := give_seen fit missing
    simp only [ok_bind, added]
    have mask : (BoundedQueue.mailbox q).mask = q.mask := rfl
    rw [mask]
    cases q.mask.reset true with
    | error fault => exact .error fault
    | ok mask =>
      simp only [ok_bind, ← same]
      exact .ok rfl

theorem close_agrees (fit : Fit q.extra.semaphore) :
    Agrees (q.close counted) (.ok ((BoundedQueue.mailbox q).close counted)) := by
  obtain ⟨semaphore, notified, closed, same⟩ := fit.close
  simp only [Queue.close, MaybeBoundedQueue.close, closed, ok_bind, Mailbox.close]
  apply Both.ok
  simp only [seen, BoundedQueue.mailbox, same]
  rfl

theorem tryRecv_agrees (counted : Bool) (fit : Fit q.extra.semaphore) :
    Agrees (q.tryRecv counted) (.ok ((BoundedQueue.mailbox q).tryRecv counted)) := by
  simp only [Queue.tryRecv, MaybeBoundedQueue.tryRecv]
  cases popped : q.popFront with
  | mk q' first =>
    cases first with
    | none =>
      obtain ⟨empty, capacity, popCount, rfl⟩ := popFront_none popped
      apply Both.ok
      simp only [Mailbox.tryRecv, BoundedQueue.mailbox, empty]
      rfl
    | some elem =>
      obtain ⟨rest, capacity, popCount, items, rfl⟩ := popFront_some popped
      obtain ⟨semaphore, added, same⟩ := fit.addPermits 1
      simp only [added, ok_bind]
      apply Both.ok
      simp only [Mailbox.tryRecv, BoundedQueue.mailbox, items, seen, same]
      rfl

theorem pollRecv_agrees (fit : Fit q.extra.semaphore) :
    Agrees (q.pollRecv counted waker) (.ok ((BoundedQueue.mailbox q).pollRecv counted waker)) := by
  have tried := tryRecv_agrees counted fit
  simp only [Queue.pollRecv, Mailbox.pollRecv]
  cases received : q.tryRecv counted with
  | error => rw [received] at tried; cases tried
  | ok effect =>
    rw [received] at tried
    obtain ⟨same⟩ := tried
    rw [same]
    obtain ⟨state, (_ | _) | _, woken⟩ := effect
    all_goals exact .ok rfl

theorem trySend_seen (fit : Fit q.extra.semaphore) (elem : T) :
    (BoundedQueue.mailbox q).trySend elem = seen (BoundedQueue.trySend q elem) := by
  have taken := fit.tryAcquireMany
  simp only [BoundedQueue.trySend, Mailbox.trySend]
  have slots : (BoundedQueue.mailbox q).slots = q.extra.semaphore.ledger.slots := rfl
  rw [slots]
  cases found : q.extra.semaphore.ledger.slots.take with
  | ok left =>
    rw [found] at taken
    obtain ⟨semaphore, acquired, same⟩ := taken
    simp only [acquired, seen, BoundedQueue.mailbox, Queue.pushAndWake, same]
    rfl
  | error error =>
    rw [found] at taken
    simp only [taken]
    rfl

theorem tryReserve_agrees (fit : Fit q.extra.semaphore) :
    Agrees (BoundedQueue.tryReserve q) (BoundedQueue.mailbox q).tryReserve := by
  have taken := fit.tryAcquireMany
  simp only [BoundedQueue.tryReserve, Mailbox.tryReserve]
  have slots : (BoundedQueue.mailbox q).slots = q.extra.semaphore.ledger.slots := rfl
  rw [slots]
  cases found : q.extra.semaphore.ledger.slots.take with
  | ok left =>
    rw [found] at taken
    obtain ⟨semaphore, acquired, same⟩ := taken
    simp only [acquired, Mailbox.reserveSlot]
    have reserved : (BoundedQueue.mailbox q).reserved = q.extra.reserved := rfl
    rw [reserved]
    cases checkedAdd q.extra.reserved 1 with
    | error fault => exact .error fault
    | ok reserved =>
      apply Both.ok
      simp only [seen, BoundedQueue.mailbox, same]
      rfl
  | error error =>
    rw [found] at taken
    simp only [taken]
    exact .ok rfl

theorem acquire_seen (fit : Fit q.extra.semaphore) :
    (BoundedQueue.mailbox q).request = BoundedQueue.mailbox (BoundedQueue.acquire q) := by
  simp only [Mailbox.request, BoundedQueue.mailbox, BoundedQueue.acquire, fit.acquireMany]
  rfl

theorem send_agrees (fit : Fit q.extra.semaphore) (held : q.extra.semaphore.ledger.tickets.get? a = some ticket) :
    Agrees (BoundedQueue.send q a waker elem) (.ok ((BoundedQueue.mailbox q).send a waker elem)) := by
  obtain ⟨semaphore, awaited, same⟩ := fit.awaitAcquire held waker
  simp only [BoundedQueue.send, Mailbox.send, awaited, ok_bind]
  have slots : (BoundedQueue.mailbox q).slots = q.extra.semaphore.ledger.slots := rfl
  rw [slots]
  revert same
  generalize q.extra.semaphore.ledger.slots.poll a waker = polled
  obtain ⟨left, (_ | _) | _, woken⟩ := polled
  all_goals
    rintro rfl
    exact .ok rfl

theorem reserve_agrees (fit : Fit q.extra.semaphore) (held : q.extra.semaphore.ledger.tickets.get? a = some ticket) :
    Agrees (BoundedQueue.reserve q a waker) ((BoundedQueue.mailbox q).reserve a waker) := by
  obtain ⟨semaphore, awaited, same⟩ := fit.awaitAcquire held waker
  simp only [BoundedQueue.reserve, Mailbox.reserve, awaited, ok_bind]
  have slots : (BoundedQueue.mailbox q).slots = q.extra.semaphore.ledger.slots := rfl
  rw [slots]
  revert same
  generalize q.extra.semaphore.ledger.slots.poll a waker = polled
  obtain ⟨left, (_ | _) | _, woken⟩ := polled
  · rintro rfl
    exact .ok rfl
  · rintro rfl
    simp only [Mailbox.reserveSlot]
    have reserved : (BoundedQueue.mailbox q).reserved = q.extra.reserved := rfl
    rw [reserved]
    cases checkedAdd q.extra.reserved 1 with
    | error fault => exact .error fault
    | ok reserved => exact .ok rfl
  · rintro rfl
    exact .ok rfl

theorem dropAcquire_agrees (fit : Fit q.extra.semaphore) (held : q.extra.semaphore.ledger.tickets.get? a = some ticket) :
    Agrees (BoundedQueue.dropAcquire q a) (.ok ((BoundedQueue.mailbox q).withdraw a)) := by
  obtain ⟨semaphore, dropped, same⟩ := fit.dropFuture held
  simp only [BoundedQueue.dropAcquire, dropped, ok_bind, Mailbox.withdraw]
  apply Both.ok
  simp only [seen, BoundedQueue.mailbox, same]
  rfl

theorem dropReserveOwned_agrees (fit : Fit q.extra.semaphore)
    (held : q.extra.semaphore.ledger.tickets.get? a = some ticket) :
    Agrees (BoundedQueue.dropReserveOwned q a) ((BoundedQueue.mailbox q).withdrawOwned a) := by
  have cancelled := dropAcquire_agrees fit held
  simp only [BoundedQueue.dropReserveOwned, Mailbox.withdrawOwned]
  generalize BoundedQueue.dropAcquire q a = dropped at cancelled
  obtain ⟨same⟩ := cancelled
  rw [same]
  apply (decreaseSenderCount_agrees _).bind
  rintro effect _ rfl
  exact .ok rfl

theorem permitSend_agrees (q : BoundedQueue T) (elem : T) :
    Agrees (BoundedQueue.permitSend q elem) ((BoundedQueue.mailbox q).permitSend elem) := by
  simp only [BoundedQueue.permitSend, BoundedQueue.unboundedSend, Queue.pushAndWake, BoundedQueue.unreserve, Mailbox.permitSend]
  have reserved : (BoundedQueue.mailbox q).reserved = q.extra.reserved := rfl
  rw [reserved]
  cases checkedSub q.extra.reserved 1 with
  | error fault => exact .error fault
  | ok reserved =>
    apply Both.ok
    simp only [seen, List.append_nil]
    rfl

theorem dropPermit_agrees (fit : Fit q.extra.semaphore) :
    Agrees (BoundedQueue.dropPermit q) (BoundedQueue.mailbox q).dropPermit := by
  obtain ⟨semaphore, added, same⟩ := fit.addPermits 1
  simp only [BoundedQueue.dropPermit, BoundedQueue.unreserve, Mailbox.dropPermit]
  have reserved : (BoundedQueue.mailbox q).reserved = q.extra.reserved := rfl
  rw [reserved]
  cases checkedSub q.extra.reserved 1 with
  | error fault => exact .error fault
  | ok reserved =>
    simp only [ok_bind, Bool.false_eq_true, if_false, added]
    apply Both.ok
    simp only [seen, BoundedQueue.mailbox, same]
    rfl

theorem dropOwnedPermit_agrees (fit : Fit q.extra.semaphore) :
    Agrees (BoundedQueue.dropOwnedPermit q) (BoundedQueue.mailbox q).dropOwnedPermit := by
  apply (dropPermit_agrees fit).bind
  rintro returned _ rfl
  apply (decreaseSenderCount_agrees _).bind
  rintro effect _ rfl
  exact .ok rfl

end Calls

/-- The step lemma: a call on the queue is the same call on its view. -/
theorem operate_agrees (build : Build) (fit : Fit s.queue.extra.semaphore) (housed : Housed s.clients.futures s.queue.extra.semaphore)
    (action : Action T) : Agrees (BoundedSystem.operate build s action) (MailboxSystem.operate build (view s) action) := by
  have held : ∀ {a future}, s.clients.futures.get? a = some future →
      ∃ ticket, s.queue.extra.semaphore.ledger.tickets.get? a = some ticket := by
    intro a future found
    obtain ⟨ticket, live, _⟩ := held_of_demand (housed.held a future found)
    exact ⟨ticket, live⟩
  cases action with
  | split | intoSplit => exact (setCounted_agrees fit).map _
  | intoDeque => exact .ok rfl
  | close counted => exact (close_agrees fit).map _
  | dropReceiver => exact (close_agrees fit).map _
  | tryRecv counted => exact (tryRecv_agrees _ fit).map _
  | pollRecv counted waker => exact (pollRecv_agrees fit).map _
  | trySend via elem =>
    apply Both.ok
    rw [view, trySend_seen fit]
    rfl
  | tryReserve via => exact (tryReserve_agrees fit).map _
  | tryReserveOwned id => exact (tryReserve_agrees fit).map _
  | send | reserve | reserveOwned =>
    apply Both.ok
    rw [view, acquire_seen fit]
    rfl
  | pollFuture a waker =>
    simp only [BoundedSystem.operate, MailboxSystem.operate, view]
    cases found : s.clients.futures.get? a with
    | none => exact .error _
    | some future =>
      obtain ⟨ticket, live⟩ := held found
      cases future with
      | send via elem => exact (send_agrees fit live).map _
      | reserve via => exact (reserve_agrees fit live).map _
      | reserveOwned => exact (reserve_agrees fit live).map _
  | dropFuture a =>
    simp only [BoundedSystem.operate, MailboxSystem.operate, view]
    cases found : s.clients.futures.get? a with
    | none => exact .error _
    | some future =>
      obtain ⟨ticket, live⟩ := held found
      simp only [Suspended.drop]
      split
      · exact (dropReserveOwned_agrees fit live).map _
      · exact (dropAcquire_agrees fit live).map _
  | permitSend p elem => exact (permitSend_agrees _ elem).map _
  | ownedPermitSend p elem => exact (permitSend_agrees _ elem).map _
  | dropPermit p => exact (dropPermit_agrees fit).map _
  | dropOwnedPermit p => exact (dropOwnedPermit_agrees fit).map _
  | cloneSender id =>
    apply (increaseSenderCount_agrees s.queue).bind
    rintro q _ rfl
    exact .ok rfl
  | dropSender id => exact (decreaseSenderCount_agrees s.queue).map _
  | forgetReceiver | forgetFuture | forgetPermit | forgetOwnedPermit | forgetSender => exact .ok rfl

/-- What the refinement needs to know of a state. -/
structure Regular (s : State T) : Prop extends Valid s where
  granted : Granted s.queue

theorem Regular.fit (regular : Regular s) : Fit s.queue.extra.semaphore :=
  ⟨regular.housed.sound, regular.housed.single, regular.granted.granting⟩

theorem refines (T : Type) (build : Build) :
    (BoundedSystem.system T build).Refines (MailboxSystem.system T build) view Regular where
  initial s initial := ⟨⟨valid_initial initial, granted_initial initial⟩, s, initial, rfl⟩
  enabled _ _ _ := Iff.rfl
  step s action regular able := by
    have agrees := operate_agrees build regular.fit regular.housed action
    simp only [BoundedSystem.system, BoundedSystem.step, MailboxSystem.system, MailboxSystem.step]
    cases operated : BoundedSystem.operate build s action with
    | error fault =>
      rw [operated] at agrees
      generalize MailboxSystem.operate build (view s) action = other at agrees
      cases agrees
      exact .error fault
    | ok effect =>
      rw [operated] at agrees
      generalize MailboxSystem.operate build (view s) action = other at agrees
      obtain ⟨same⟩ := agrees
      rw [same]
      have kept := persists_granting.step regular.housed (fun _ _ _ => trivial) operated
      exact .ok ⟨rfl, valid_step regular.toValid able operated, regular.granted.keeps kept⟩

/-- The runs of the mailbox are exactly the views of the runs of the channel: the same calls,
answers and wake-ups. And what a call may do next is the same, faults included. -/
theorem mailbox_runs {start : State T} (initial : (BoundedSystem.system T build).Initial start)
    (seen : History (Scene T) (Action T) (Outcome T)) (scene : Scene T) :
    ((MailboxSystem.system T build).Run (view start) seen scene ↔
      ∃ history final, (BoundedSystem.system T build).Run start history final ∧
        seen = history.map (Event.seen view) ∧ scene = view final) ∧
    ∀ history final, (BoundedSystem.system T build).Run start history final → ∀ action,
      ((BoundedSystem.system T build).Enabled final action ↔ (MailboxSystem.system T build).Enabled (view final) action) ∧
        ((BoundedSystem.system T build).Enabled final action → ∀ fault,
          ((BoundedSystem.system T build).step final action = .error fault ↔
            (MailboxSystem.system T build).step (view final) action = .error fault)) := by
  refine ⟨⟨(refines T build).realizes initial, ?_⟩, fun history final run action => ⟨?_, fun able fault => ?_⟩⟩
  · rintro ⟨history, final, run, rfl, rfl⟩
    exact ((refines T build).run run).2
  · exact (refines T build).enabled final action ((refines T build).run run).1
  · exact (refines T build).faults run able fault

/-- A sender waits for a slot, and gets it when the only element is received. -/
theorem mailbox_runs_filled :
    ∃ history final, (BoundedSystem.system Nat .checked).play [] (.new (.fromIter 1 [5]))
        [.send .channel 6, .pollFuture 0 7, .tryRecv false, .pollFuture 0 7] = some (history, final) ∧
      (MailboxSystem.system Nat .checked).Run (view (.new (.fromIter 1 [5]))) (history.map (Event.seen view)) (view final) := by
  have initial : (BoundedSystem.system Nat .checked).Initial (.new (.fromIter 1 [5])) :=
    ⟨_, .inr (.inr ⟨1, by decide, [5], by decide, rfl⟩), rfl⟩
  obtain ⟨history, final, played, run, _⟩ := (BoundedSystem.system Nat .checked).exists_run _ initial
    [.send .channel 6, .pollFuture 0 7, .tryRecv false, .pollFuture 0 7] (fun _ _ => True) (by decide)
  exact ⟨history, final, played, (mailbox_runs initial _ _).1.mpr ⟨history, final, run, rfl, rfl⟩⟩

end AsyncUnsync.Proofs.MailboxRefinement
